/-
# A queue as an ordered list

Whoever uses a queue need not look into it to know what it holds.  Number the packets in the order
in which they are pushed, and keep a list of those that wait: a packet that the queue says it has
let in comes last, and if the queue says that it has thrown one out, that is the oldest packet, or
the second oldest if a part of the oldest one has been written.  This list, the *line*, is kept by
the answers alone, and knows neither the capacity of the queue nor the policies of the packets.
What it holds is what the queue holds.

What a queue answers, on the other hand, is for its capacity and the policy to say.  `Pushed` tells
what becomes of a packet in each of the four cases, and when which of them arises.

Main results: what a push does (`pushed_push`), that the line shows the queue at all times
(`Line.shows_ofNotes`), and all that there is to say about a queue in use (`packets_in_line`).
-/
import Mathlib.Data.List.Induction
import SessionServer.Proofs.Outbound.Queue
import SessionServer.Proofs.Registry.Deeds

namespace SessionServer

/-- The third list is the second one without the packet that is to be thrown out first: the oldest
one, but for a packet at the front of which a part has been written. -/
inductive Evicts : Packet → List Packet → List Packet → Prop
  | front {p : Packet} {rest : List Packet} (hp : p.isFragmented = false) :
      Evicts p (p :: rest) rest
  | second {head p : Packet} {rest : List Packet} (hhead : head.isFragmented = true) :
      Evicts p (head :: p :: rest) (head :: rest)

namespace Evicts

variable {p head : Packet} {ps kept : List Packet}

lemma perm (h : Evicts p ps kept) : ps.Perm (p :: kept) := by
  cases h with
  | front hp => exact List.Perm.refl _
  | second hhead => exact List.Perm.swap ..

lemma length_eq (h : Evicts p ps kept) : ps.length = kept.length + 1 := h.perm.length_eq

/-- A packet of which a part has been written stays at the front. -/
lemma head?_eq (h : Evicts p ps kept) (hhead : ps.head? = some head)
    (hpart : head.isFragmented = true) : kept.head? = some head := by
  cases h with
  | front hp =>
    obtain rfl := Option.some.inj hhead
    exact absurd (hp.symm.trans hpart) Bool.false_ne_true
  | second => exact hhead

end Evicts

namespace PacketQueue

variable {q q' : PacketQueue} {p : Packet} {policy : OverflowPolicy} {admission : Admission}

/-! ## Pushing a packet -/

lemma exists_evicts (h : q.evictable < q.length) :
    ∃ victim, Evicts victim q.packets (q.packets.eraseIdx q.evictable) := by
  unfold evictable length at *
  rcases hq : q.packets with _ | ⟨head, rest⟩
  · simp [hq] at h
  · cases hpart : head.isFragmented with
    | false => exact ⟨head, by simpa [hpart] using Evicts.front hpart⟩
    | true =>
      rcases rest with _ | ⟨second, rest⟩
      · simp [hq, hpart] at h
      · exact ⟨second, by simpa [hpart] using Evicts.second hpart⟩

lemma evictable_lt_of_evicts {victim : Packet} {kept : List Packet}
    (h : Evicts victim q.packets kept) : q.evictable < q.length := by
  unfold evictable length
  generalize q.packets = packets at h
  cases h with
  | front hp => simp [hp]
  | second hhead => simp [hhead]

/-- What becomes of a packet that is pushed, what is answered, and when. -/
inductive Pushed (q : PacketQueue) (p : Packet) (policy : OverflowPolicy) :
    Admission → PacketQueue → Prop
  /-- The packet comes last. -/
  | appended (hroom : q.length < q.capacity ∨ policy = .unbounded) :
      Pushed q p policy .queued { q with packets := q.packets ++ [p] }
  /-- The packet comes last, and another one goes. -/
  | replacing {victim : Packet} {kept : List Packet} (hfull : q.capacity ≤ q.length)
      (hpolicy : policy = .dropOldest) (hevicts : Evicts victim q.packets kept) :
      Pushed q p policy .droppedOldest { q with packets := kept ++ [p] }
  /-- There is none that could go for it. -/
  | turnedAway (hfull : q.capacity ≤ q.length) (hpolicy : policy = .dropOldest)
      (hnone : ∀ victim kept, ¬ Evicts victim q.packets kept) :
      Pushed q p policy .droppedIncoming q
  /-- None may go for it. -/
  | refused (hfull : q.capacity ≤ q.length) (hpolicy : policy = .closeSession) :
      Pushed q p policy .rejected q

lemma pushed_push (q : PacketQueue) (p : Packet) (policy : OverflowPolicy) :
    Pushed q p policy (q.push p policy).1 (q.push p policy).2 := by
  unfold push
  cases hfull : q.isFull with
  | false =>
    have hroom : q.length < q.capacity := by simpa [isFull, length] using hfull
    exact .appended (.inl hroom)
  | true =>
    have hfull : q.capacity ≤ q.length := by simpa [isFull, length] using hfull
    cases policy with
    | unbounded => exact .appended (.inr rfl)
    | closeSession => exact .refused hfull rfl
    | dropOldest =>
      by_cases hplace : q.evictable < q.length
      · obtain ⟨victim, hevicts⟩ := exists_evicts hplace
        simpa [hplace] using Pushed.replacing hfull rfl hevicts
      · have hnone : ∀ victim kept, ¬ Evicts victim q.packets kept :=
          fun victim kept h => hplace (evictable_lt_of_evicts h)
        simpa [hplace] using Pushed.turnedAway hfull rfl hnone

namespace Pushed

/-- The capacity never changes. -/
lemma capacity_eq (h : Pushed q p policy admission q') : q'.capacity = q.capacity := by
  cases h <;> rfl

/-- A packet of which a part has been written stays at the front. -/
lemma head?_eq (h : Pushed q p policy admission q') {head : Packet} (hhead : q.head? = some head)
    (hpart : head.isFragmented = true) : q'.head? = some head := by
  unfold head? at *
  cases h with
  | appended => simp [hhead]
  | replacing _ _ hevicts => simp [hevicts.head?_eq hhead hpart]
  | turnedAway | refused => exact hhead

/-- Only a packet that the queue has to grow for comes on top of as many as there is room for. -/
lemma length_le (h : Pushed q p policy admission q') :
    q'.length ≤ max q.length q.capacity ∨ policy = .unbounded ∧ q'.length = q.length + 1 := by
  cases h with
  | appended hroom =>
    have hlength : ({ q with packets := q.packets ++ [p] } : PacketQueue).length = q.length + 1 :=
      List.length_append
    rcases hroom with hlt | hpolicy
    · left
      omega
    · exact .inr ⟨hpolicy, hlength⟩
  | @replacing victim kept _ _ hevicts =>
    have hsame : ({ q with packets := kept ++ [p] } : PacketQueue).length = q.length := by
      simp [length, hevicts.length_eq]
    left
    omega
  | turnedAway | refused => exact .inl (Nat.le_max_left ..)

end Pushed

/-! ## Using a queue -/

/-- What is done to a queue. -/
inductive Use where
  | push (p : Packet) (policy : OverflowPolicy)
  | pop
  | clear
  /-- Sets the bytes that are left to send of the first packet. -/
  | setFragment (fragment : Option Bytes)

/-- The packet that is pushed. -/
def Use.pushed? : Use → Option Packet
  | .push p _ => some p
  | _ => none

/-- A packet is pushed for which the queue has to grow. -/
def Use.isUnbounded : Use → Bool
  | .push _ .unbounded => true
  | _ => false

/-- The queue after it was used. -/
def act (q : PacketQueue) : Use → PacketQueue
  | .push p policy => (q.push p policy).2
  | .pop => q.pop
  | .clear => q.clear
  | .setFragment fragment => q.setFragment fragment

/-- The queue after it was used several times. -/
def run (q : PacketQueue) (uses : List Use) : PacketQueue := uses.foldl act q

/-- What the user of a queue knows of a use.  Of a push it is what was answered. -/
inductive Note where
  | pushed (p : Packet) (answer : Admission)
  | popped
  | cleared
  | fragmentSet (fragment : Option Bytes)

/-- What there is to note about a use. -/
def note (q : PacketQueue) : Use → Note
  | .push p policy => .pushed p (q.push p policy).1
  | .pop => .popped
  | .clear => .cleared
  | .setFragment fragment => .fragmentSet fragment

/-- What there is to note about some uses. -/
def notes (q : PacketQueue) (uses : List Use) : List Note :=
  gather act (fun q u => [q.note u]) q uses

lemma run_concat (q : PacketQueue) (uses : List Use) (u : Use) :
    q.run (uses ++ [u]) = (q.run uses).act u :=
  List.foldl_concat ..

lemma notes_concat (q : PacketQueue) (uses : List Use) (u : Use) :
    q.notes (uses ++ [u]) = q.notes uses ++ [(q.run uses).note u] :=
  gather_concat ..

end PacketQueue

/-! ## The line -/

/-- The packets that were pushed, in the order in which they were, and those of them that wait, each
with its number in that order. -/
structure Line where
  pushed : List Packet := []
  waiting : List (ℕ × Packet) := []

namespace Line

open PacketQueue (Use Note)

variable {l : Line} {q : PacketQueue} {p : Packet}

/-- The packets that wait without the oldest one, but for one at the front of which a part has been
written. -/
def evict : List (ℕ × Packet) → List (ℕ × Packet)
  | [] => []
  | first :: rest => if first.2.isFragmented then first :: rest.tail else rest

/-- The next packet is pushed, and has no place in the line. -/
def turnAway (l : Line) (p : Packet) : Line := { l with pushed := l.pushed ++ [p] }

/-- The next packet is pushed, and comes last. -/
def letIn (l : Line) (p : Packet) : Line :=
  { pushed := l.pushed ++ [p], waiting := l.waiting ++ [(l.pushed.length, p)] }

/-- Keeps the line. -/
def note (l : Line) : Note → Line
  | .pushed p .queued => l.letIn p
  | .pushed p .droppedOldest => { l with waiting := evict l.waiting }.letIn p
  | .pushed p .droppedIncoming | .pushed p .rejected => l.turnAway p
  | .popped => { l with waiting := l.waiting.tail }
  | .cleared => { l with waiting := [] }
  | .fragmentSet fragment =>
    { l with waiting := l.waiting.modifyHead fun place => (place.1, place.2.withFragment fragment) }

/-- The line after what was noted. -/
def ofNotes (notes : List Note) : Line := notes.foldl note {}

/-- The packets that wait in the line are those of the queue.  They have the numbers under which
they were pushed, the first one first.  They are what was pushed, but for the first one, of which
less may be left to send. -/
structure Shows (l : Line) (q : PacketQueue) : Prop where
  packets : l.waiting.map Prod.snd = q.packets
  ordered : (l.waiting.map Prod.fst).Pairwise (· < ·)
  pushed : ∀ place ∈ l.waiting, (l.pushed[place.1]?).map Packet.whole = some place.2.whole
  untouched : ∀ place ∈ l.waiting.tail, l.pushed[place.1]? = some place.2

/-- Nobody waits in a line for an empty queue. -/
lemma shows_of_waiting_nil (hl : l.waiting = []) (hq : q.packets = []) : l.Shows q where
  packets := by rw [hl, hq, List.map_nil]
  ordered := by rw [hl]; exact List.Pairwise.nil
  pushed place hplace := absurd (hl ▸ hplace) List.not_mem_nil
  untouched place hplace := absurd (hl ▸ List.mem_of_mem_tail hplace) List.not_mem_nil

lemma evict_sublist (waiting : List (ℕ × Packet)) : (evict waiting).Sublist waiting := by
  rcases waiting with _ | ⟨first, rest⟩
  · exact List.Sublist.refl _
  · rw [evict]
    split_ifs
    · exact (List.tail_sublist rest).cons_cons first
    · exact List.sublist_cons_self first rest

/-- The line loses the packet that the queue throws out. -/
lemma map_evict {waiting : List (ℕ × Packet)} {victim : Packet} {kept : List Packet}
    (h : Evicts victim (waiting.map Prod.snd) kept) : (evict waiting).map Prod.snd = kept := by
  rcases waiting with _ | ⟨first, rest⟩
  · cases h
  · generalize hps : (first :: rest).map Prod.snd = ps at h
    cases h with
    | front hp =>
      obtain ⟨rfl, rfl⟩ := List.cons.inj hps
      simp [evict, hp]
    | second hhead =>
      obtain ⟨rfl, hrest⟩ := List.cons.inj hps
      simp [evict, hhead, List.map_tail, hrest]

namespace Shows

/-- Some of the packets go. -/
lemma of_sublist (h : l.Shows q) {waiting : List (ℕ × Packet)} (hsub : waiting.Sublist l.waiting)
    {packets : List Packet} (hpackets : waiting.map Prod.snd = packets) :
    Shows { l with waiting } { q with packets } where
  packets := hpackets
  ordered := h.ordered.sublist (hsub.map Prod.fst)
  pushed place hplace := h.pushed place (hsub.subset hplace)
  untouched place hplace := h.untouched place (hsub.tail.subset hplace)

/-- A place of the line is the place of a packet that was pushed. -/
lemma lt_length (h : l.Shows q) {place : ℕ × Packet} (hplace : place ∈ l.waiting) :
    place.1 < l.pushed.length := by
  obtain ⟨p, hp, -⟩ := Option.map_eq_some_iff.1 (h.pushed place hplace)
  exact (List.getElem?_eq_some_iff.1 hp).1

/-- One more packet is pushed, and the others keep their numbers. -/
lemma getElem?_append (h : l.Shows q) (p : Packet) {place : ℕ × Packet}
    (hplace : place ∈ l.waiting) : (l.pushed ++ [p])[place.1]? = l.pushed[place.1]? :=
  List.getElem?_append_left (h.lt_length hplace)

lemma turnAway (h : l.Shows q) (p : Packet) : (l.turnAway p).Shows q where
  packets := h.packets
  ordered := h.ordered
  pushed place hplace := by
    refine Eq.trans ?_ (h.pushed place hplace)
    exact congrArg (Option.map _) (h.getElem?_append p hplace)
  untouched place hplace :=
    (h.getElem?_append p (List.mem_of_mem_tail hplace)).trans (h.untouched place hplace)

lemma letIn (h : l.Shows q) (p : Packet) :
    (l.letIn p).Shows { q with packets := q.packets ++ [p] } where
  packets := by simp [Line.letIn, h.packets]
  ordered := by
    unfold Line.letIn
    rw [List.map_append, List.pairwise_append]
    refine ⟨h.ordered, List.pairwise_singleton _ _, fun n hn m hm => ?_⟩
    obtain ⟨place, hplace, rfl⟩ := List.mem_map.1 hn
    rw [List.mem_singleton.1 hm]
    exact h.lt_length hplace
  pushed place hplace := by
    rcases List.mem_append.1 hplace with hold | hnew
    · exact (h.turnAway p).pushed place hold
    · rw [List.mem_singleton.1 hnew]
      simp [Line.letIn]
  untouched place hplace := by
    have hrest : (l.letIn p).waiting.tail ⊆ l.waiting.tail ++ [(l.pushed.length, p)] := by
      unfold Line.letIn
      cases l.waiting <;> simp
    rcases List.mem_append.1 (hrest hplace) with hold | hnew
    · exact (h.turnAway p).untouched place hold
    · rw [List.mem_singleton.1 hnew]
      simp [Line.letIn]

lemma setFragment (h : l.Shows q) (fragment : Option Bytes) :
    (l.note (.fragmentSet fragment)).Shows (q.setFragment fragment) := by
  obtain ⟨hpackets, hordered, hpushed, huntouched⟩ := h
  unfold Line.note PacketQueue.setFragment
  rcases hw : l.waiting with _ | ⟨⟨n, first⟩, rest⟩
  · rw [hw] at hpackets
    exact shows_of_waiting_nil rfl (by simp [← hpackets])
  · rw [hw] at hpackets hordered hpushed huntouched
    refine ⟨by simp [← hpackets], hordered, fun place hplace => ?_, huntouched⟩
    rcases List.mem_cons.1 hplace with rfl | hrest
    · exact hpushed (n, first) List.mem_cons_self
    · exact hpushed place (List.mem_cons_of_mem _ hrest)

/-- The line shows what becomes of a push. -/
lemma push (h : l.Shows q) (p : Packet) (policy : OverflowPolicy) :
    (l.note (q.note (.push p policy))).Shows (q.act (.push p policy)) := by
  have hpushed := PacketQueue.pushed_push q p policy
  change (l.note (.pushed p (q.push p policy).1)).Shows (q.push p policy).2
  generalize (q.push p policy).1 = admission, (q.push p policy).2 = q' at hpushed
  cases hpushed with
  | appended => exact h.letIn p
  | replacing _ _ hevicts =>
    rw [← h.packets] at hevicts
    exact (h.of_sublist (evict_sublist l.waiting) (map_evict hevicts)).letIn p
  | turnedAway | refused => exact h.turnAway p

lemma note (h : l.Shows q) (u : Use) : (l.note (q.note u)).Shows (q.act u) := by
  cases u with
  | push p policy => exact h.push p policy
  | pop =>
    refine h.of_sublist (List.tail_sublist l.waiting) ?_
    rw [List.map_tail, h.packets]
  | clear => exact h.of_sublist (List.nil_sublist _) rfl
  | setFragment fragment => exact h.setFragment fragment

end Shows

/-- What is kept by the answers is what the queue holds. -/
lemma shows_ofNotes (capacity : ℕ) (uses : List Use) :
    (ofNotes ((PacketQueue.ofCapacity capacity).notes uses)).Shows
      ((PacketQueue.ofCapacity capacity).run uses) := by
  induction uses using List.reverseRecOn with
  | nil => exact shows_of_waiting_nil rfl rfl
  | append_singleton uses u ih =>
    rw [PacketQueue.notes_concat, PacketQueue.run_concat, ofNotes, List.foldl_concat]
    exact ih.note u

lemma pushed_note (l : Line) (u : Use) :
    (l.note (q.note u)).pushed = l.pushed ++ u.pushed?.toList := by
  cases u with
  | push p policy =>
    change (l.note (.pushed p (q.push p policy).1)).pushed = _
    generalize (q.push p policy).1 = admission
    cases admission <;> rfl
  | _ => exact (List.append_nil _).symm

lemma pushed_ofNotes (q : PacketQueue) (uses : List Use) :
    (ofNotes (q.notes uses)).pushed = uses.filterMap Use.pushed? := by
  induction uses using List.reverseRecOn with
  | nil => rfl
  | append_singleton uses u ih =>
    rw [PacketQueue.notes_concat, ofNotes, List.foldl_concat, pushed_note, List.filterMap_append]
    refine congrArg₂ _ ih ?_
    cases h : u.pushed? <;> simp [h]

/-- What is found at growing places of a list is a part of the list. -/
lemma sublist_of_ordered {α : Type} {all : List α} {places : List (ℕ × α)}
    (hordered : (places.map Prod.fst).Pairwise (· < ·))
    (hall : ∀ place ∈ places, all[place.1]? = some place.2) {n : ℕ}
    (hn : ∀ place ∈ places, place.1 < n) : (places.map Prod.snd).Sublist (all.take n) := by
  induction places using List.reverseRecOn generalizing n with
  | nil => exact List.nil_sublist _
  | append_singleton places place ih =>
    obtain ⟨m, a⟩ := place
    have hlast : (m, a) ∈ places ++ [(m, a)] := List.mem_append_right _ List.mem_cons_self
    rw [List.map_append, List.pairwise_append] at hordered
    have hbefore := ih hordered.1 (fun place h => hall place (List.mem_append_left _ h))
      fun place h => hordered.2.2 place.1 (List.mem_map_of_mem h) m List.mem_cons_self
    -- the last place is the only one from its own on
    have hsucc : all.take (m + 1) = all.take m ++ [a] := by
      rw [List.take_add_one, hall (m, a) hlast]
      rfl
    rw [List.map_append]
    refine List.Sublist.trans ?_ (List.take_sublist_take_left (hn (m, a) hlast))
    rw [hsucc]
    exact hbefore.append (List.Sublist.refl _)

/-- The packets that wait are some of those that were pushed, in the order in which they were. -/
lemma Shows.sublist (h : l.Shows q) :
    (q.packets.map Packet.whole).Sublist (l.pushed.map Packet.whole) := by
  have hplaces : q.packets.map Packet.whole
      = (l.waiting.map fun place => (place.1, place.2.whole)).map Prod.snd := by
    rw [← h.packets, List.map_map, List.map_map]
    rfl
  rw [hplaces, ← List.take_length (l := l.pushed.map Packet.whole)]
  refine sublist_of_ordered ?_ ?_ ?_
  · rw [List.map_map]
    exact h.ordered
  · rintro _ hplace
    obtain ⟨place, hmem, rfl⟩ := List.mem_map.1 hplace
    rw [List.getElem?_map]
    exact h.pushed place hmem
  · rintro _ hplace
    obtain ⟨place, hmem, rfl⟩ := List.mem_map.1 hplace
    have hlt : place.1 < l.pushed.length := h.lt_length hmem
    rw [List.length_map]
    exact hlt

end Line

/-! ## How long a queue gets -/

namespace PacketQueue

variable {q : PacketQueue} {u : Use}

lemma capacity_act (q : PacketQueue) (u : Use) : (q.act u).capacity = q.capacity := by
  cases u with
  | push p policy => exact (pushed_push q p policy).capacity_eq
  | _ => rfl

lemma capacity_run (q : PacketQueue) (uses : List Use) : (q.run uses).capacity = q.capacity := by
  induction uses using List.reverseRecOn with
  | nil => rfl
  | append_singleton uses u ih => rw [run_concat, capacity_act, ih]

/-- A queue grows past its capacity for a packet only that it has to grow for, and by no more than
that packet. -/
lemma length_act_le (q : PacketQueue) (u : Use) :
    (q.act u).length ≤ max q.length q.capacity ∨
      u.isUnbounded = true ∧ (q.act u).length = q.length + 1 := by
  have hmax : q.length ≤ max q.length q.capacity := Nat.le_max_left ..
  cases u with
  | push p policy =>
    rcases (pushed_push q p policy).length_le with hle | ⟨rfl, hlength⟩
    · exact .inl hle
    · exact .inr ⟨rfl, hlength⟩
  | pop =>
    left
    have hpop : q.pop.length ≤ q.length := by simp [pop, length]
    exact Nat.le_trans hpop hmax
  | clear => exact .inl (Nat.zero_le _)
  | setFragment fragment =>
    left
    have hsame : (q.setFragment fragment).length = q.length := by simp [setFragment, length]
    exact hsame ▸ hmax

lemma length_run_le (q : PacketQueue) (uses : List Use) (hq : q.length ≤ q.capacity) :
    (q.run uses).length ≤ q.capacity + uses.countP Use.isUnbounded := by
  induction uses using List.reverseRecOn with
  | nil => exact hq
  | append_singleton uses u ih =>
    rw [run_concat, List.countP_append, List.countP_singleton]
    have hcapacity := capacity_run q uses
    rcases length_act_le (q.run uses) u with hle | ⟨hgrows, hlength⟩
    · omega
    · rw [if_pos hgrows]
      omega

/-- **A queue is an ordered list.**  However a queue is used, its packets are those of the line that
its user keeps by the answers, and these are some of the packets that were pushed, in the order in
which they were.  What becomes of one more packet is what `Pushed` says, so that at most one packet
goes for it, and never one of which a part has been written while it is at the front.  The queue
grows past its capacity only for packets that it has to grow for. -/
theorem packets_in_line (capacity : ℕ) (uses : List Use) :
    let q := (ofCapacity capacity).run uses
    let l := Line.ofNotes ((ofCapacity capacity).notes uses)
    l.pushed = uses.filterMap Use.pushed? ∧ l.Shows q ∧
      (q.packets.map Packet.whole).Sublist (l.pushed.map Packet.whole) ∧
      (∀ p policy, Pushed q p policy (q.push p policy).1 (q.push p policy).2 ∧
        ∀ head, q.head? = some head → head.isFragmented = true →
          (q.push p policy).2.head? = some head) ∧
      q.capacity = max capacity 1 ∧
      q.length ≤ max capacity 1 + uses.countP Use.isUnbounded ∧
      ∀ u, max q.length q.capacity < (q.act u).length → u.isUnbounded = true := by
  intro q l
  have hshows : l.Shows q := Line.shows_ofNotes capacity uses
  refine ⟨Line.pushed_ofNotes _ uses, hshows, hshows.sublist, fun p policy => ?_,
    capacity_run _ uses, length_run_le _ uses (Nat.zero_le _), fun u hlt => ?_⟩
  · have hpushed := pushed_push q p policy
    exact ⟨hpushed, fun head hhead hpart => hpushed.head?_eq hhead hpart⟩
  · rcases length_act_le q u with hle | ⟨hgrows, -⟩
    · exact absurd hlt (Nat.not_lt_of_le hle)
    · exact hgrows

/-- There is always room for one packet.  When a part of it has been written it stays, and the next
one is turned away; one that the queue has to grow for comes in, and goes for the one after it. -/
example :
    let packet (data : UInt8) : Packet := { data := [data], transport := .stream }
    let uses : List Use := [.push (packet 1) .closeSession, .setFragment (some []),
      .push (packet 2) .dropOldest, .push (packet 3) .unbounded, .push (packet 4) .dropOldest]
    (Line.ofNotes ((ofCapacity 0).notes uses)).waiting.map Prod.fst = [0, 3] := by
  decide

end PacketQueue

end SessionServer
