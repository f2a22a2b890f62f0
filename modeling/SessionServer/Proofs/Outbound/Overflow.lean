/-
# What overflow throws out

A full queue makes room for an unreliable packet by throwing out the oldest packet of which nothing
has been written.  The queue does not look at the guarantee of that packet.  So a packet that may
not be dropped leaves the queue of an open session by being written, for want of a channel, or by
overflow; and the last of these happens exactly when an unreliable packet comes to a full queue
while such a packet is the oldest one that nothing has been written of.

Main result: `evicted_protected_iff`.
-/
import SessionServer.Proofs.Outbound.Fifo

namespace SessionServer

namespace PacketQueue

variable {q : PacketQueue} {p victim : Packet}

/-- An unreliable packet finds room in a full queue if there is a packet to throw out for it. -/
lemma push_unreliable_of_isFull (hp : p.guarantee = .unreliable) (hfull : q.isFull = true)
    (hvictim : q.packets[q.evictable]? = some victim) :
    (q.push p p.guarantee.overflowPolicy).1 = .droppedOldest := by
  obtain ⟨hlt, -⟩ := List.getElem?_eq_some_iff.1 hvictim
  rw [hp]
  unfold push
  simp only [hfull, Bool.not_true, Bool.false_eq_true, if_false]
  exact congrArg Prod.fst (if_pos hlt)

end PacketQueue

/-- The packet that is thrown out for another one. -/
def Event.evicted? : Event → Option Packet
  | .offered queue _ (.ok .droppedOldest) => queue.packets[queue.evictable]?
  | _ => none

variable {t : Transport} {lane lane' : Lane} {event : Event} {events : List Event}
  {victim : Packet}

/-- A packet is thrown out exactly when an unreliable one is let in by a full queue. -/
lemma Event.Moves.evicted?_eq_some_iff (hm : event.Moves t lane lane') :
    event.evicted? = some victim ↔
      ∃ queue p admission, event = .offered queue p (.ok admission) ∧
        p.guarantee = .unreliable ∧ queue.isFull = true ∧
        queue.packets[queue.evictable]? = some victim := by
  constructor
  · intro h
    cases hm with
    | refused | tried => exact absurd h nofun
    | @admitted _ p admission queue hpush hadmitted =>
      rcases PacketQueue.push_cases hpush with
        ⟨rfl, -⟩ | ⟨rfl, hfull, hpolicy, -, -⟩ | ⟨rfl, -, -⟩ | ⟨rfl, -⟩
      · exact absurd h nofun
      · refine ⟨lane.queue, p, _, rfl, ?_, hfull, h⟩
        cases hg : p.guarantee with
        | unreliable => rfl
        | reliable | critical =>
          rw [hg] at hpolicy
          exact absurd hpolicy nofun
      · exact absurd h nofun
      · exact absurd h nofun
  · rintro ⟨queue, p, admission, rfl, hp, hfull, hvictim⟩
    cases hm with
    | admitted hpush hadmitted =>
      have hpushed := PacketQueue.push_unreliable_of_isFull hp hfull hvictim
      rw [hpush] at hpushed
      obtain rfl : admission = .droppedOldest := hpushed
      exact hvictim

lemma Course.exists_moves (hc : Course t events lane lane') (h : event ∈ events) :
    ∃ lane₁ lane₂, event.Moves t lane₁ lane₂ := by
  induction hc with
  | nil => exact absurd h List.not_mem_nil
  | cons hmoves _ ih =>
    rcases List.mem_cons.1 h with rfl | hlater
    · exact ⟨_, _, hmoves⟩
    · exact ih hlater

namespace Ledger

variable {l : Ledger} {guarantee : Guarantee}

lemma Tracks.map_guarantee (h : l.Tracks lane) :
    l.waiting.map (·.guarantee) = lane.queue.packets.map (·.guarantee) := by
  have hmap := congrArg (List.map Packet.guarantee) h.waiting
  rwa [List.map_map, List.map_map] at hmap

/-- The guarantees of the packets that have been thrown out. -/
lemma mem_map_evicted_settle {place : ℕ} :
    guarantee ∈ (l.settle .evicted place).evicted.map (·.guarantee) ↔
      guarantee ∈ l.evicted.map (·.guarantee) ∨
        (l.waiting.map (·.guarantee))[place]? = some guarantee := by
  simp only [List.mem_map, mem_evicted_settle, List.getElem?_map, Option.map_eq_some_iff,
    or_and_right, exists_or]

/-- What is thrown out in the ledger is what is thrown out of the queue. -/
lemma Tracks.mem_evicted_note (h : l.Tracks lane) (hm : event.Moves t lane lane') :
    guarantee ∈ (l.note event).evicted.map (·.guarantee) ↔
      guarantee ∈ l.evicted.map (·.guarantee) ∨
        ∃ victim, event.evicted? = some victim ∧ victim.guarantee = guarantee := by
  have hnone : event.evicted? = none → (l.note event).evicted = l.evicted →
      (guarantee ∈ (l.note event).evicted.map (·.guarantee) ↔
        guarantee ∈ l.evicted.map (·.guarantee) ∨
          ∃ victim, event.evicted? = some victim ∧ victim.guarantee = guarantee) := by
    intro hevent hsame
    rw [hevent, hsame]
    simp
  cases hm with
  | refused => exact hnone rfl rfl
  | @admitted _ p admission queue hpush hadmitted =>
    cases admission with
    | queued => exact hnone rfl (evicted_enter l p)
    | droppedIncoming => exact hnone rfl rfl
    | rejected => exact absurd rfl hadmitted
    | droppedOldest =>
      rw [Ledger.note, evicted_enter, mem_map_evicted_settle, h.map_guarantee,
        List.getElem?_map, Option.map_eq_some_iff]
      rfl
  | @tried _ outcome took written queue hattempt htook =>
    cases hattempt with
    | complete hq hlast => exact hnone rfl (select_settle_of_eq (by rfl) l 0)
    | dropped hq => exact hnone rfl (select_settle_of_eq (by rfl) l 0)
    | _ => exact hnone rfl rfl

/-- What has been thrown out in the course of a history. -/
lemma Tracks.mem_evicted_of_course (h : l.Tracks lane) (hc : Course t events lane lane') :
    guarantee ∈ (Ledger.evicted (events.foldl Ledger.note l)).map (·.guarantee) ↔
      guarantee ∈ l.evicted.map (·.guarantee) ∨
        ∃ event ∈ events, ∃ victim, event.evicted? = some victim ∧
          victim.guarantee = guarantee := by
  induction hc generalizing l with
  | nil => simp
  | cons hmoves _ ih =>
    rw [List.foldl_cons, ih (h.note hmoves), h.mem_evicted_note hmoves, or_assoc]
    simp only [List.mem_cons, exists_eq_or_imp]

/-- Where no packet is thrown out of the queue, none is thrown out in the ledger. -/
lemma evicted_eq_nil_of_course (hc : Course t events lane lane') (hq : lane.queue.packets = [])
    (hnone : ∀ event ∈ events, event.evicted? = none) : (ofHistory events).evicted = [] := by
  refine List.eq_nil_iff_forall_not_mem.2 fun p hp => ?_
  rcases ((tracks_nil hq).mem_evicted_of_course hc).1 (List.mem_map_of_mem hp) with
    hmem | ⟨event, hevent, victim, hvictim, -⟩
  · exact absurd hmem List.not_mem_nil
  · exact absurd ((hnone event hevent).symm.trans hvictim) nofun

end Ledger

namespace Engine

variable {e : Engine} {id : SessionId} {ref : ChannelRef} {setup : Setup}
  {actions : List Action} {s : Session}

/-- **What overflow throws out.**  While a session is open, the packets that were let in and have
neither been written, nor found without a channel, nor thrown out for others are those that wait
in its queue.  One that may not be dropped is thrown out exactly if at some time an unreliable
packet comes to the full queue while one that may not be dropped is the oldest packet of which
nothing has been written. -/
theorem evicted_protected_iff (setup : Setup) (ho : e.Opened id ref t)
    (hs : (e.run setup actions).registry.session? id = some s) (hopen : s.isClosed = false) :
    (Ledger.ofHistory (history setup id e actions)).waiting.map Packet.whole
        = s.queue.packets.map Packet.whole ∧
      ((∃ p ∈ (Ledger.ofHistory (history setup id e actions)).evicted,
          p.guarantee ≠ .unreliable) ↔
        ∃ queue p admission victim,
          .offered queue p (.ok admission) ∈ history setup id e actions ∧
          p.guarantee = .unreliable ∧ queue.isFull = true ∧
          queue.packets[queue.evictable]? = some victim ∧ victim.guarantee ≠ .unreliable) := by
  obtain ⟨capacity, hshows⟩ := ho.shows
  obtain ⟨lane, hcourse, -, hqueue⟩ := exists_course hshows ho.toPrivate hs hopen
  have hempty : Ledger.Tracks [] ⟨{ capacity }, []⟩ := Ledger.tracks_nil rfl
  have htracks := hempty.of_course hcourse
  refine ⟨by rw [hqueue]; exact htracks.waiting, ?_, ?_⟩
  · -- only an event of the history can have thrown the packet out
    rintro ⟨p, hp, hprotected⟩
    have hmem := (hempty.mem_evicted_of_course hcourse).1 (List.mem_map_of_mem hp)
    obtain ⟨event, hevent, victim, hvictim, hguarantee⟩ := hmem.resolve_left List.not_mem_nil
    obtain ⟨lane₁, lane₂, hmoves⟩ := hcourse.exists_moves hevent
    obtain ⟨queue, incoming, admission, rfl, hunreliable, hfull, hplace⟩ :=
      hmoves.evicted?_eq_some_iff.1 hvictim
    exact ⟨queue, incoming, admission, victim, hevent, hunreliable, hfull, hplace,
      hguarantee ▸ hprotected⟩
  · -- what such an event throws out stays thrown out
    rintro ⟨queue, incoming, admission, victim, hevent, hunreliable, hfull, hplace, hprotected⟩
    obtain ⟨lane₁, lane₂, hmoves⟩ := hcourse.exists_moves hevent
    have hvictim := hmoves.evicted?_eq_some_iff.2
      ⟨queue, incoming, admission, rfl, hunreliable, hfull, hplace⟩
    have hmem := (hempty.mem_evicted_of_course hcourse).2 (.inr ⟨_, hevent, victim, hvictim, rfl⟩)
    obtain ⟨p, hp, hguarantee⟩ := List.mem_map.1 hmem
    exact ⟨p, hp, hguarantee ▸ hprotected⟩

/-- A packet that must not be lost waits alone in a queue that has room for one, and is thrown out
for a packet that a later one would make worthless. -/
theorem critical_evicted_for_unreliable :
    let setup : Setup := { codec := .plain }
    let e := ((start 1 1 {}).accept (.memory { id := ⟨1⟩, transport := .stream })).2
    let critical : Packet := { data := [1], transport := .stream, guarantee := .critical }
    let unreliable : Packet := { data := [2], transport := .stream, guarantee := .unreliable }
    let actions : List Action := [.enqueue ⟨1⟩ critical, .enqueue ⟨1⟩ unreliable]
    e.Opened ⟨1⟩ ⟨0⟩ .stream ∧
      ((e.run setup actions).registry.session? ⟨1⟩).map
          (fun s => (s.isClosed, s.queue.packets)) = some (false, [unreliable]) ∧
      (Ledger.ofHistory (history setup ⟨1⟩ e actions)).evicted = [critical] := by
  intro setup e critical unreliable actions
  exact ⟨opened_accept_start 1 1 {} rfl, by decide +kernel, by decide +kernel⟩

/-- The same packets submitted and framed: when the second one comes, the first one is the oldest
packet of a full queue. -/
theorem exists_offered_to_full_of_submit :
    let setup : Setup := { codec := .plain }
    let e := ((start 1 1 {}).accept (.memory { id := ⟨1⟩, transport := .stream })).2
    let packet (data : Bytes) (guarantee : Guarantee) : Packet :=
      { data, transport := .stream, guarantee, recipients := [⟨1⟩] }
    let actions : List Action :=
      [.submit (packet [1] .critical), .submit (packet [2] .unreliable)]
    ∃ queue p admission victim,
      .offered queue p (.ok admission) ∈ history setup ⟨1⟩ e actions ∧
      p.guarantee = .unreliable ∧ queue.isFull = true ∧
      queue.packets[queue.evictable]? = some victim ∧ victim.guarantee ≠ .unreliable := by
  intro setup e packet actions
  have hopened : e.Opened ⟨1⟩ ⟨0⟩ .stream := opened_accept_start 1 1 {} rfl
  have hsession : ((e.run setup actions).registry.session? ⟨1⟩).map (·.isClosed) = some false := by
    decide +kernel
  have hevicted : (Ledger.ofHistory (history setup ⟨1⟩ e actions)).evicted.map (·.guarantee)
      = [.critical] := by
    decide +kernel
  obtain ⟨s, hs, hopen⟩ := Option.map_eq_some_iff.1 hsession
  obtain ⟨-, hiff⟩ := evicted_protected_iff setup hopened hs hopen
  obtain ⟨p, hp, hguarantee⟩ := List.mem_map.1 (hevicted ▸ List.mem_singleton_self _)
  exact hiff.1 ⟨p, hp, hguarantee ▸ nofun⟩

end Engine

end SessionServer
