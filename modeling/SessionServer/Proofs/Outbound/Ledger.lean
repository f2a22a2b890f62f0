/-
# What became of every packet

The *ledger* of a session lists every packet that its queue has let in, in the order in which they
came, and what has become of each.  It is kept by the history of the session alone: a packet that
is let in is entered; one that is thrown out for it is struck out, and one that an attempt to write
has brought to its end is ticked off.

Main results: what waits in the ledger is what waits in the queue (`Tracks.of_course`), and, where
all packets are for the primary channel, what has been written on it are the frames of the packets
that are ticked off and the beginning of the next one (`Conveys.of_course`).
-/
import Mathlib.Data.List.Induction
import Mathlib.Data.List.InsertIdx
import Mathlib.Data.List.Pairwise
import SessionServer.Proofs.Outbound.History

namespace SessionServer

/-- What has become of a packet that was let in. -/
inductive Fate where
  /-- It waits, or a part of it does. -/
  | waiting
  /-- It was written to its end. -/
  | written
  /-- There was no channel for it when its turn came. -/
  | unbound
  /-- It was thrown out for another packet. -/
  | evicted
deriving DecidableEq

namespace Fate

/-- The packet waits. -/
def isWaiting : Fate → Bool
  | waiting => true
  | _ => false

/-- The packet was thrown out. -/
def isEvicted : Fate → Bool
  | evicted => true
  | _ => false

/-- The turn of the packet has come and gone. -/
def isGone : Fate → Bool
  | written | unbound => true
  | _ => false

lemma written_ne_waiting : written ≠ waiting := nofun
lemma unbound_ne_waiting : unbound ≠ waiting := nofun
lemma evicted_ne_waiting : evicted ≠ waiting := nofun

lemma isWaiting_of_ne {fate : Fate} (h : fate ≠ waiting) : fate.isWaiting = false := by
  cases fate with
  | waiting => exact absurd rfl h
  | _ => rfl

end Fate

/-- A packet that was let in and what has become of it. -/
structure Entry where
  packet : Packet
  fate : Fate

/-- The packets that were let in, first one first. -/
abbrev Ledger := List Entry

namespace Ledger

variable {l : Ledger} {p : Packet} {ps : List Packet} {fate fate' : Fate} {place : ℕ}

/-- The packets with some fates, first one first. -/
def select (test : Fate → Bool) (l : Ledger) : List Packet :=
  (l.filter fun entry => test entry.fate).map (·.packet)

/-- The packets that wait. -/
def waiting (l : Ledger) : List Packet := l.select Fate.isWaiting

/-- The packets that were thrown out for others. -/
def evicted (l : Ledger) : List Packet := l.select Fate.isEvicted

/-- The packets that were not thrown out for others. -/
def kept (l : Ledger) : List Packet := l.select (!·.isEvicted)

/-- The packets whose turn has come and gone. -/
def gone (l : Ledger) : List Packet := l.select Fate.isGone

/-- Enters a packet. -/
def enter (l : Ledger) (p : Packet) : Ledger := l ++ [⟨p, .waiting⟩]

/-- Decides the fate of one of the packets that wait. -/
def settle (fate : Fate) : (place : ℕ) → Ledger → Ledger
  | _, [] => []
  | 0, ⟨p, .waiting⟩ :: l => ⟨p, fate⟩ :: l
  | place + 1, ⟨p, .waiting⟩ :: l => ⟨p, .waiting⟩ :: settle fate place l
  | place, entry :: l => entry :: settle fate place l

/-- Keeps the ledger. -/
def note (l : Ledger) : Event → Ledger
  | .offered _ p (.ok .queued) => l.enter p
  | .offered queue p (.ok .droppedOldest) => (l.settle .evicted queue.evictable).enter p
  | .tried (.complete _) => l.settle .written 0
  | .tried .finished => l.settle .written 0
  | .tried .dropped => l.settle .unbound 0
  | _ => l

/-- The ledger of a history. -/
def ofHistory (events : List Event) : Ledger := events.foldl note []

/-- Turns come in order: after a packet that waits, there are only packets that wait and packets
that were thrown out. -/
def Ordered (l : Ledger) : Prop :=
  l.Pairwise fun first second =>
    first.fate = .waiting → second.fate = .waiting ∨ second.fate = .evicted

/-! ## Entering a packet -/

lemma select_cons (test : Fate → Bool) (p : Packet) (fate : Fate) (l : Ledger) :
    select test (⟨p, fate⟩ :: l) = if test fate then p :: l.select test else l.select test := by
  unfold select
  rw [List.filter_cons]
  cases h : test fate <;> simp

lemma select_append (test : Fate → Bool) (l l' : Ledger) :
    select test (l ++ l') = l.select test ++ l'.select test := by
  unfold select
  rw [List.filter_append, List.map_append]

lemma select_enter (test : Fate → Bool) (l : Ledger) (p : Packet) :
    (l.enter p).select test = l.select test ++ if test .waiting then [p] else [] := by
  rw [enter, select_append, select_cons]
  rfl

lemma waiting_append (l l' : Ledger) : waiting (l ++ l') = l.waiting ++ l'.waiting :=
  select_append _ l l'

lemma waiting_cons (p : Packet) (l : Ledger) :
    waiting (⟨p, .waiting⟩ :: l) = p :: l.waiting := rfl

lemma waiting_enter (l : Ledger) (p : Packet) : (l.enter p).waiting = l.waiting ++ [p] :=
  select_enter _ l p

lemma gone_enter (l : Ledger) (p : Packet) : (l.enter p).gone = l.gone :=
  (select_enter _ l p).trans (List.append_nil _)

lemma evicted_enter (l : Ledger) (p : Packet) : (l.enter p).evicted = l.evicted :=
  (select_enter _ l p).trans (List.append_nil _)

lemma Ordered.enter (h : l.Ordered) (p : Packet) : (l.enter p).Ordered :=
  List.pairwise_append.2 ⟨h, List.pairwise_singleton _ _, fun _ _ _ hmem _ =>
    .inl (List.mem_singleton.1 hmem ▸ rfl)⟩

/-! ## Deciding a fate -/

lemma waiting_cons_of_ne (h : fate ≠ .waiting) (p : Packet) (l : Ledger) :
    waiting (⟨p, fate⟩ :: l) = l.waiting := by
  rw [waiting, select_cons, Fate.isWaiting_of_ne h]
  rfl

/-- An entry that does not wait is passed over. -/
lemma settle_cons_of_ne (h : fate' ≠ .waiting) (p : Packet) (l : Ledger) :
    settle fate place (⟨p, fate'⟩ :: l) = ⟨p, fate'⟩ :: settle fate place l := by
  cases fate' with
  | waiting => exact absurd rfl h
  | _ => cases place <;> rfl

/-- A decision changes one entry that waits, the one before which as many wait as its place says,
or none at all where that many do not wait. -/
lemma settle_cases (fate : Fate) (place : ℕ) (l : Ledger) :
    (l.waiting.length ≤ place ∧ l.settle fate place = l) ∨
      ∃ before p after, l = before ++ ⟨p, .waiting⟩ :: after ∧
        (waiting before).length = place ∧ l.settle fate place = before ++ ⟨p, fate⟩ :: after := by
  induction l generalizing place with
  | nil => exact .inl ⟨Nat.zero_le place, by cases place <;> rfl⟩
  | cons entry l ih =>
    obtain ⟨first, fate'⟩ := entry
    by_cases hw : fate' = .waiting
    · subst hw
      cases place with
      | zero => exact .inr ⟨[], first, l, rfl, rfl, rfl⟩
      | succ place =>
        rcases ih place with ⟨hfew, hsame⟩ | ⟨before, p, after, hl, hplace, hsettle⟩
        · exact .inl ⟨Nat.succ_le_succ hfew, by rw [settle, hsame]⟩
        · refine .inr ⟨⟨first, .waiting⟩ :: before, p, after, ?_, congrArg (· + 1) hplace, ?_⟩
          · rw [hl, List.cons_append]
          · rw [settle, hsettle, List.cons_append]
    · -- the entry is not counted and stays as it is
      rw [waiting_cons_of_ne hw, settle_cons_of_ne hw]
      rcases ih place with ⟨hfew, hsame⟩ | ⟨before, p, after, hl, hplace, hsettle⟩
      · exact .inl ⟨hfew, congrArg (⟨first, fate'⟩ :: ·) hsame⟩
      · refine .inr ⟨⟨first, fate'⟩ :: before, p, after, ?_, ?_, ?_⟩
        · rw [hl, List.cons_append]
        · rw [waiting_cons_of_ne hw, hplace]
        · rw [hsettle, List.cons_append]

/-- A decision is not seen by a selection that treats the fate as waiting. -/
lemma select_settle_of_eq {test : Fate → Bool} (h : test fate = test .waiting) (l : Ledger)
    (place : ℕ) : (l.settle fate place).select test = l.select test := by
  rcases settle_cases fate place l with ⟨-, hsame⟩ | ⟨before, p, after, rfl, -, hsettle⟩
  · rw [hsame]
  · rw [hsettle, select_append, select_append, select_cons, select_cons, h]

lemma waiting_settle (h : fate ≠ .waiting) (l : Ledger) (place : ℕ) :
    (l.settle fate place).waiting = l.waiting.eraseIdx place := by
  rcases settle_cases fate place l with ⟨hfew, hsame⟩ | ⟨before, p, after, rfl, rfl, hsettle⟩
  · rw [hsame, List.eraseIdx_of_length_le hfew]
  · rw [hsettle, waiting_append, waiting_append, waiting_cons, waiting_cons_of_ne h,
      List.eraseIdx_append_of_length_le (Nat.le_refl _), Nat.sub_self, List.eraseIdx_cons_zero]

/-- What was thrown out before and the packet that is thrown out now. -/
lemma mem_evicted_settle :
    p ∈ (l.settle .evicted place).evicted ↔ p ∈ l.evicted ∨ l.waiting[place]? = some p := by
  rcases settle_cases .evicted place l with ⟨hfew, hsame⟩ | ⟨before, q, after, rfl, rfl, hsettle⟩
  · rw [hsame, List.getElem?_eq_none hfew]
    simp
  · have hthrown : (waiting (before ++ ⟨q, .waiting⟩ :: after))[(waiting before).length]?
        = some q := by
      rw [waiting_append, waiting_cons, List.getElem?_append_right (Nat.le_refl _), Nat.sub_self,
        List.getElem?_cons_zero]
    rw [hthrown, hsettle, evicted, evicted, select_append, select_append, select_cons, select_cons]
    simp only [Fate.isEvicted, if_true, Bool.false_eq_true, if_false, List.mem_append,
      List.mem_cons, Option.some.injEq, eq_comm (a := q)]
    exact (or_congr_right or_comm).trans or_assoc.symm

/-- A decision is on a packet that was let in. -/
lemma packets_settle (fate : Fate) (place : ℕ) (l : Ledger) :
    (l.settle fate place).map (·.packet) = l.map (·.packet) := by
  rcases settle_cases fate place l with ⟨-, hsame⟩ | ⟨before, p, after, rfl, -, hsettle⟩
  · rw [hsame]
  · rw [hsettle, List.map_append, List.map_append, List.map_cons, List.map_cons]

/-- Turns stay in order if a packet is thrown out or it is the turn of the first one. -/
lemma Ordered.settle (h : l.Ordered) (hfate : fate ≠ .waiting)
    (hturn : fate = .evicted ∨ place = 0) : (l.settle fate place).Ordered := by
  rcases settle_cases fate place l with ⟨-, hsame⟩ | ⟨before, p, after, rfl, rfl, hsettle⟩
  · rw [hsame]
    exact h
  · obtain ⟨hbefore, hlater, hacross⟩ := List.pairwise_append.1 h
    obtain ⟨-, hafter⟩ := List.pairwise_cons.1 hlater
    rw [hsettle]
    refine List.pairwise_append.2 ⟨hbefore, List.pairwise_cons.2
      ⟨fun _ _ hwait => absurd hwait hfate, hafter⟩, fun first hfirst entry hmem hwait => ?_⟩
    rcases List.mem_cons.1 hmem with rfl | hmem
    · refine .inr (hturn.resolve_right fun hnone => ?_)
      -- an entry that waits comes before the one whose turn it is
      have hnot := List.filter_eq_nil_iff.1
        (List.map_eq_nil_iff.1 (List.length_eq_zero_iff.1 hnone)) first hfirst
      exact hnot (by rw [hwait]; rfl)
    · exact hacross first hfirst entry (List.mem_cons_of_mem _ hmem) hwait

lemma gone_eq_nil (h : ∀ entry ∈ l, entry.fate = .waiting ∨ entry.fate = .evicted) :
    l.gone = [] := by
  refine List.map_eq_nil_iff.2 (List.filter_eq_nil_iff.2 fun entry hmem => ?_)
  rcases h entry hmem with hfate | hfate <;> rw [hfate] <;> nofun

/-- What was not thrown out is what is gone and then what waits. -/
lemma Ordered.kept_eq (h : l.Ordered) : l.kept = l.gone ++ l.waiting := by
  induction l with
  | nil => rfl
  | cons first l ih =>
    obtain ⟨p, fate'⟩ := first
    obtain ⟨hfirst, hlater⟩ := List.pairwise_cons.1 h
    have hrest : kept l = gone l ++ waiting l := ih hlater
    unfold kept gone waiting at hrest ⊢
    rw [select_cons, select_cons, select_cons, hrest]
    cases fate' with
    | waiting =>
      -- nothing that comes after a packet that waits can be gone
      have hnone : gone l = [] := gone_eq_nil fun entry hmem => hfirst entry hmem rfl
      unfold gone at hnone
      rw [hnone]
      rfl
    | _ => rfl

lemma kept_eq_of_evicted_eq_nil (h : l.evicted = []) : l.kept = l.map (·.packet) := by
  have hfate : ∀ entry ∈ l, (!entry.fate.isEvicted) = true := by
    intro entry hmem
    have hnot := List.filter_eq_nil_iff.1 (List.map_eq_nil_iff.1 h) entry hmem
    rw [eq_false_of_ne_true hnot, Bool.not_false]
  unfold kept select
  rw [List.filter_eq_self.2 hfate]

/-- The packet whose turn it is is gone after it. -/
lemma Ordered.gone_settle (h : l.Ordered) (hwaiting : l.waiting = p :: ps)
    (hfate : fate = .written ∨ fate = .unbound) : (l.settle fate 0).gone = l.gone ++ [p] := by
  have hdecided : fate ≠ .waiting := by rcases hfate with rfl | rfl <;> nofun
  have hkept : (l.settle fate 0).kept = l.kept :=
    select_settle_of_eq (by rcases hfate with rfl | rfl <;> rfl) l 0
  rw [(h.settle hdecided (.inr rfl)).kept_eq, h.kept_eq, waiting_settle hdecided, hwaiting,
    List.eraseIdx_cons_zero, List.append_cons] at hkept
  exact List.append_cancel_right hkept

end Ledger

/-! ## The packets of a ledger -/

/-- The packet that an event lets in. -/
def Event.admitted? : Event → Option Packet
  | .offered _ p (.ok .queued) | .offered _ p (.ok .droppedOldest) => some p
  | _ => none

namespace Ledger

variable {l : Ledger} {fate : Fate} {p : Packet}

lemma packets_note (l : Ledger) (event : Event) :
    (l.note event).map (·.packet) = l.map (·.packet) ++ event.admitted?.toList := by
  rcases event with ⟨queue, p, _ | (_ | _ | _ | _)⟩ | (_ | _ | _ | _ | _ | _ | _ | _) <;>
    simp [note, enter, Event.admitted?, packets_settle]

/-- The packets of a ledger are those that were let in, in the order in which they came. -/
lemma packets_ofHistory (events : List Event) :
    (ofHistory events).map (·.packet) = events.filterMap Event.admitted? := by
  induction events using List.reverseRecOn with
  | nil => rfl
  | append_singleton events event ih =>
    rw [ofHistory, List.foldl_append, List.foldl_cons, List.foldl_nil, packets_note,
      List.filterMap_append, ← ih, ofHistory]
    cases h : event.admitted? <;> simp [h]

/-- A packet of a ledger was offered. -/
lemma exists_offered_of_mem {entry : Entry} {events : List Event}
    (h : entry ∈ ofHistory events) :
    ∃ queue answer, .offered queue entry.packet answer ∈ events := by
  have hpacket : entry.packet ∈ (ofHistory events).map (·.packet) := List.mem_map_of_mem h
  rw [packets_ofHistory] at hpacket
  obtain ⟨event, hmem, hsome⟩ := List.mem_filterMap.1 hpacket
  rcases event with ⟨queue, p, _ | (_ | _ | _ | _)⟩ | _ <;>
    simp only [Event.admitted?, Option.some.injEq, reduceCtorEq] at hsome
  all_goals exact ⟨queue, _, hsome ▸ hmem⟩

/-! ## The ledger and the lane -/

/-- What waits in the ledger is what waits in the lane. -/
structure Tracks (l : Ledger) (lane : Lane) : Prop where
  ordered : l.Ordered
  waiting : l.waiting.map Packet.whole = lane.queue.packets.map Packet.whole

lemma tracks_nil {lane : Lane} (h : lane.queue.packets = []) : Tracks [] lane :=
  ⟨List.Pairwise.nil, by rw [h]; rfl⟩

variable {t : Transport} {lane lane' : Lane} {event : Event} {events : List Event}

/-- A packet whose turn has come leaves the ledger and the lane. -/
lemma Tracks.settle_zero {written : Bytes} (h : l.Tracks lane) (hfate : fate ≠ .waiting) :
    (l.settle fate 0).Tracks ⟨lane.queue.pop, written⟩ := by
  refine ⟨h.ordered.settle hfate (.inr rfl), ?_⟩
  rw [waiting_settle hfate, List.eraseIdx_zero, List.map_tail, h.waiting]
  exact List.map_tail.symm

lemma Tracks.note (h : l.Tracks lane) (hm : event.Moves t lane lane') :
    (l.note event).Tracks lane' := by
  obtain ⟨hordered, hwaiting⟩ := h
  cases hm with
  | refused => exact ⟨hordered, hwaiting⟩
  | @admitted _ p admission queue hpush hadmitted =>
    rcases PacketQueue.push_cases hpush with
      ⟨rfl, rfl⟩ | ⟨rfl, -, -, -, rfl⟩ | ⟨rfl, -, rfl⟩ | ⟨rfl, -⟩
    · refine ⟨hordered.enter p, ?_⟩
      rw [Ledger.note, waiting_enter, List.map_append, hwaiting]
      exact List.map_append.symm
    · refine ⟨(hordered.settle Fate.evicted_ne_waiting (.inl rfl)).enter p, ?_⟩
      rw [Ledger.note, waiting_enter, waiting_settle Fate.evicted_ne_waiting, List.map_append,
        List.map_append, ← List.eraseIdx_map, hwaiting, List.eraseIdx_map]
    · exact ⟨hordered, hwaiting⟩
    · exact absurd rfl hadmitted
  | @tried _ outcome took written queue hattempt htook =>
    cases hattempt with
    | idle hq | blocked hq => exact ⟨hordered, hwaiting⟩
    | complete hq hlast => exact Tracks.settle_zero ⟨hordered, hwaiting⟩ Fate.written_ne_waiting
    | dropped hq => exact Tracks.settle_zero ⟨hordered, hwaiting⟩ Fate.unbound_ne_waiting
    | incomplete hq hn =>
      -- the first packet is the same one, up to what is left of it
      refine ⟨hordered, hwaiting.trans ?_⟩
      rw [PacketQueue.packets_setFragment hq, hq, List.map_cons, List.map_cons,
        Packet.whole_withFragment]

lemma Tracks.of_course (h : l.Tracks lane) (hc : Course t events lane lane') :
    (events.foldl Ledger.note l).Tracks lane' := by
  induction hc generalizing l with
  | nil => exact h
  | cons hmoves _ ih => exact ih (h.note hmoves)

end Ledger

/-! ## Packets for the primary channel -/

/-- The packet is for the transport, and nothing of it has been written. -/
def Packet.Fresh (t : Transport) (p : Packet) : Prop := p.transport = t ∧ p.fragment = none

namespace Ledger

variable {l : Ledger} {t : Transport} {lane lane' : Lane} {event : Event} {events : List Event}

/-- All packets are for the primary channel, and what has been written on it are the frames of the
packets that are gone, and the beginning of the first packet that waits. -/
structure Conveys (l : Ledger) (t : Transport) (lane : Lane) : Prop extends l.Tracks lane where
  transport : ∀ p ∈ lane.queue.packets, p.transport = t
  written : ∃ begun, lane.queue.Begun begun ∧ lane.written = l.gone.flatMap (·.data) ++ begun

lemma conveys_nil (t : Transport) (h : lane.queue.packets = []) (hw : lane.written = []) :
    Conveys [] t lane :=
  ⟨tracks_nil h, by rw [h]; nofun, [], (PacketQueue.begun_of_nil h).2 rfl, hw⟩

/-- What has been written and what waits are the frames of the packets that were not thrown out,
in the order in which they came. -/
lemma Conveys.written_append_backlog (h : l.Conveys t lane) :
    lane.written ++ lane.queue.backlog = l.kept.flatMap (·.data) := by
  obtain ⟨begun, hbegun, hwritten⟩ := h.written
  have hwaiting : l.waiting.flatMap (·.data) = lane.queue.packets.flatMap (·.data) := by
    have hmap := congrArg (List.flatMap Packet.data) h.waiting
    rwa [List.flatMap_map, List.flatMap_map] at hmap
  rw [hwritten, List.append_assoc, hbegun.append_backlog, h.ordered.kept_eq, List.flatMap_append,
    hwaiting]

/-- The packet at the front of the lane is the first one that waits in the ledger. -/
lemma Tracks.exists_waiting {head : Packet} {rest : List Packet} (h : l.Tracks lane)
    (hq : lane.queue.packets = head :: rest) :
    ∃ p ps, l.waiting = p :: ps ∧ p.data = head.data := by
  have hwaiting := h.waiting
  rw [hq, List.map_cons] at hwaiting
  obtain ⟨p, ps, hl, hp, -⟩ := List.map_eq_cons_iff.1 hwaiting
  exact ⟨p, ps, hl, by rw [← Packet.data_whole p, hp, Packet.data_whole]⟩

lemma Conveys.note_admitted {p : Packet} {admission : Admission} {queue : PacketQueue}
    (h : l.Conveys t lane) (hp : p.Fresh t)
    (hpush : lane.queue.push p p.guarantee.overflowPolicy = (admission, queue))
    (hadmitted : admission ≠ .rejected) :
    (l.note (.offered lane.queue p (.ok admission))).Conveys t { lane with queue } := by
  have hmoves : (Event.offered lane.queue p (.ok admission)).Moves t lane { lane with queue } :=
    .admitted hpush hadmitted
  refine ⟨h.toTracks.note hmoves, PacketQueue.forall_mem_push h.transport hp.1 hpush, ?_⟩
  obtain ⟨begun, hbegun, hwritten⟩ := h.written
  rcases PacketQueue.push_cases hpush with
    ⟨rfl, rfl⟩ | ⟨rfl, -, -, hroom, rfl⟩ | ⟨rfl, -, rfl⟩ | ⟨rfl, -⟩
  · refine ⟨begun, hbegun.append hp.2, ?_⟩
    rw [Ledger.note, gone_enter]
    exact hwritten
  · -- what was thrown out is neither gone nor begun
    have hgone : (l.settle .evicted lane.queue.evictable).gone = l.gone :=
      select_settle_of_eq (by rfl) l _
    refine ⟨begun, (hbegun.evict hroom).append hp.2, ?_⟩
    rw [Ledger.note, gone_enter, hgone]
    exact hwritten
  · exact ⟨begun, hbegun, hwritten⟩
  · exact absurd rfl hadmitted

lemma Conveys.note_tried {outcome : WriteOutcome} {took : Bytes} {queue : PacketQueue}
    (h : l.Conveys t lane) (hattempt : lane.queue.Attempt outcome took queue)
    (hdropped : outcome ≠ .dropped) :
    (l.note (.tried outcome)).Conveys t ⟨queue, lane.written ++ took⟩ := by
  have hmoves : (Event.tried outcome).Moves t lane ⟨queue, lane.written ++ took⟩ :=
    .tried hattempt fun _ => ⟨hdropped, rfl⟩
  refine ⟨h.toTracks.note hmoves, hattempt.forall_mem (fun _ _ hp => hp) h.transport, ?_⟩
  obtain ⟨begun, hbegun, hwritten⟩ := h.written
  cases hattempt with
  | idle hq | blocked hq =>
    refine ⟨begun, hbegun, ?_⟩
    rw [List.append_nil]
    exact hwritten
  | dropped hq => exact absurd rfl hdropped
  | @complete head rest hq hlast =>
    -- the packet is gone, and nothing has been written of the next one
    obtain ⟨hhead, hrest⟩ := (PacketQueue.begun_of_cons hq).1 hbegun
    obtain ⟨p, ps, hwaiting, hdata⟩ := h.toTracks.exists_waiting hq
    refine ⟨[], PacketQueue.begun_nil_of_forall ?_, ?_⟩
    · rw [PacketQueue.packets_pop hq]
      exact hrest
    · rw [Ledger.note, h.ordered.gone_settle hwaiting (.inl rfl), List.flatMap_append,
        List.flatMap_singleton, hdata, ← hhead, List.append_nil, ← List.append_assoc, ← hwritten]
  | @incomplete head rest n hq hn =>
    -- more has been written of the packet, and less is left of it
    obtain ⟨hhead, hrest⟩ := (PacketQueue.begun_of_cons hq).1 hbegun
    have hset := PacketQueue.packets_setFragment hq (some (head.pending.drop n))
    refine ⟨begun ++ head.pending.take n, ?_, ?_⟩
    · refine (PacketQueue.begun_of_cons hset).2 ⟨?_, hrest⟩
      rw [Packet.pending_withFragment_some, List.append_assoc, List.take_append_drop]
      exact hhead
    · rw [hwritten]
      exact List.append_assoc _ _ _

lemma Conveys.note (h : l.Conveys t lane) (hb : event.Brings (Packet.Fresh t))
    (hm : event.Moves t lane lane') :
    (l.note event).Conveys t lane' := by
  cases hm with
  | refused => exact h
  | admitted hpush hadmitted => exact h.note_admitted hb hpush hadmitted
  | tried hattempt htook =>
    obtain ⟨hdropped, rfl⟩ := htook fun head hmem =>
      h.transport head (List.mem_of_mem_head? hmem)
    exact h.note_tried hattempt hdropped

/-- **What is on the wire is in the ledger**, along every history that brings packets for the
primary channel. -/
lemma Conveys.of_course (h : l.Conveys t lane)
    (hb : ∀ event ∈ events, event.Brings (Packet.Fresh t))
    (hc : Course t events lane lane') : (events.foldl Ledger.note l).Conveys t lane' := by
  induction hc generalizing l with
  | nil => exact h
  | cons hmoves _ ih =>
    exact ih (h.note (hb _ List.mem_cons_self) hmoves)
      fun event hmem => hb event (List.mem_cons_of_mem _ hmem)

end Ledger

end SessionServer
