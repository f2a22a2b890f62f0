/-
# What waits in a queue

Seen from the wire, a queue is a string of bytes: what is left of its first packet, and then the
frames of the others.  Of the first packet something may have been written, and of the others
nothing.  This file says what offering a packet does to the queue and what an attempt to write may
do to it, and that the packet of which something has been written is never thrown out.

Main results: the ways in which a packet is offered (`push_cases`), and that what has been written
of the first packet stays written of it (`Begun.append`, `Begun.evict`).
-/
import Mathlib.Data.List.Basic
import SessionServer.Engine.Outbound

namespace SessionServer

namespace Packet

variable {p : Packet}

/-- The packet as it was before anything of it was written. -/
def whole (p : Packet) : Packet := p.withFragment none

@[simp] lemma data_whole (p : Packet) : p.whole.data = p.data := rfl
@[simp] lemma whole_withFragment (p : Packet) (f : Option Bytes) :
    (p.withFragment f).whole = p.whole := rfl

lemma pending_of_fragment_eq_none (h : p.fragment = none) : p.pending = p.data := by
  rw [pending, h, Option.getD_none]

end Packet

namespace PacketQueue

variable {q q' : PacketQueue} {p head : Packet} {rest : List Packet} {policy : OverflowPolicy}
  {admission : Admission} {begun : Bytes}

/-- The bytes that wait to be written: what is left of the first packet, then the frames of the
others. -/
def backlog (q : PacketQueue) : Bytes :=
  match q.packets with
  | [] => []
  | head :: rest => head.pending ++ rest.flatMap (·.data)

lemma backlog_of_nil (h : q.packets = []) : q.backlog = [] := by rw [backlog, h]

lemma backlog_of_cons (h : q.packets = head :: rest) :
    q.backlog = head.pending ++ rest.flatMap (·.data) := by rw [backlog, h]

/-- The bytes of the first packet that have been written are `begun`, and nothing has been written
of any other packet. -/
def Begun (q : PacketQueue) (begun : Bytes) : Prop :=
  match q.packets with
  | [] => begun = []
  | head :: rest => begun ++ head.pending = head.data ∧ ∀ p ∈ rest, p.fragment = none

lemma begun_of_nil (h : q.packets = []) : q.Begun begun ↔ begun = [] := by rw [Begun, h]

lemma begun_of_cons (h : q.packets = head :: rest) :
    q.Begun begun ↔ begun ++ head.pending = head.data ∧ ∀ p ∈ rest, p.fragment = none := by
  rw [Begun, h]

/-- Where nothing has been written of any packet, the backlog is made of whole frames. -/
lemma begun_nil_of_forall (h : ∀ p ∈ q.packets, p.fragment = none) : q.Begun [] := by
  cases hq : q.packets with
  | nil => exact (begun_of_nil hq).2 rfl
  | cons head rest =>
    rw [hq] at h
    refine (begun_of_cons hq).2 ⟨?_, fun p hp => h p (List.mem_cons_of_mem head hp)⟩
    exact Packet.pending_of_fragment_eq_none (h head List.mem_cons_self)

/-- What was written of the first packet and what waits are the frames of all packets. -/
lemma Begun.append_backlog (h : q.Begun begun) :
    begun ++ q.backlog = q.packets.flatMap (·.data) := by
  cases hq : q.packets with
  | nil => rw [backlog_of_nil hq, (begun_of_nil hq).1 h, List.flatMap_nil, List.append_nil]
  | cons head rest =>
    obtain ⟨hhead, -⟩ := (begun_of_cons hq).1 h
    rw [backlog_of_cons hq, ← List.append_assoc, hhead, List.flatMap_cons]

/-! ## Offering a packet -/

/-- A packet comes last, with or without another one being thrown out for it, or changes
nothing. -/
lemma push_cases (h : q.push p policy = (admission, q')) :
    (admission = .queued ∧ q' = q.append p) ∨
      (admission = .droppedOldest ∧ q.isFull = true ∧ policy = .dropOldest ∧
        q.evictable < q.length ∧
        q' = { q with packets := q.packets.eraseIdx q.evictable ++ [p] }) ∨
      (admission = .droppedIncoming ∧ q.length ≤ q.evictable ∧ q' = q) ∨
      (admission = .rejected ∧ q' = q) := by
  unfold push at h
  cases hfull : q.isFull with
  | false =>
    simp only [hfull, Bool.not_false, if_true, Prod.mk.injEq] at h
    exact .inl ⟨h.1.symm, h.2.symm⟩
  | true =>
    simp only [hfull, Bool.not_true, Bool.false_eq_true, if_false] at h
    cases policy with
    | unbounded => exact .inl ⟨(Prod.mk.inj h).1.symm, (Prod.mk.inj h).2.symm⟩
    | closeSession => exact .inr (.inr (.inr ⟨(Prod.mk.inj h).1.symm, (Prod.mk.inj h).2.symm⟩))
    | dropOldest =>
      dsimp only at h
      split_ifs at h with hroom
      · exact .inr (.inl
          ⟨(Prod.mk.inj h).1.symm, rfl, rfl, hroom, (Prod.mk.inj h).2.symm⟩)
      · exact .inr (.inr (.inl
          ⟨(Prod.mk.inj h).1.symm, Nat.le_of_not_lt hroom, (Prod.mk.inj h).2.symm⟩))

/-- What holds of the packets that wait and of the one that is offered holds of those that wait
then. -/
lemma forall_mem_push {P : Packet → Prop} (h : ∀ p' ∈ q.packets, P p') (hp : P p)
    (hpush : q.push p policy = (admission, q')) : ∀ p' ∈ q'.packets, P p' := by
  intro p' hp'
  rcases push_cases hpush with ⟨-, rfl⟩ | ⟨-, -, -, -, rfl⟩ | ⟨-, -, rfl⟩ | ⟨-, rfl⟩
  · rcases List.mem_append.1 hp' with hmem | hmem
    · exact h p' hmem
    · exact List.mem_singleton.1 hmem ▸ hp
  · rcases List.mem_append.1 hp' with hmem | hmem
    · exact h p' (List.mem_of_mem_eraseIdx hmem)
    · exact List.mem_singleton.1 hmem ▸ hp
  · exact h p' hp'
  · exact h p' hp'

lemma Begun.append (h : q.Begun begun) (hp : p.fragment = none) : (q.append p).Begun begun := by
  cases hq : q.packets with
  | nil =>
    have happ : (q.append p).packets = [p] := by rw [PacketQueue.append, hq, List.nil_append]
    obtain rfl := (begun_of_nil hq).1 h
    exact (begun_of_cons happ).2 ⟨Packet.pending_of_fragment_eq_none hp, List.forall_mem_nil _⟩
  | cons head rest =>
    have happ : (q.append p).packets = head :: (rest ++ [p]) := by
      rw [PacketQueue.append, hq, List.cons_append]
    obtain ⟨hhead, hrest⟩ := (begun_of_cons hq).1 h
    refine (begun_of_cons happ).2 ⟨hhead, fun p' hp' => ?_⟩
    rcases List.mem_append.1 hp' with hmem | hmem
    · exact hrest p' hmem
    · exact List.mem_singleton.1 hmem ▸ hp

/-- The packet that is thrown out is one of which nothing has been written, so that the packet
of which something has been written stays. -/
lemma Begun.evict (h : q.Begun begun) (hroom : q.evictable < q.length) :
    PacketQueue.Begun { q with packets := q.packets.eraseIdx q.evictable } begun := by
  cases hq : q.packets with
  | nil => simp [evictable, length, hq] at hroom
  | cons head rest =>
    obtain ⟨hhead, hrest⟩ := (begun_of_cons hq).1 h
    cases hf : head.isFragmented with
    | true =>
      have hplace : q.evictable = 1 := by simp [evictable, hq, hf]
      have hq' : ({ q with packets := (head :: rest).eraseIdx 1 } : PacketQueue).packets
          = head :: rest.eraseIdx 0 := rfl
      rw [hplace]
      exact (begun_of_cons hq').2 ⟨hhead, fun p hp => hrest p (List.mem_of_mem_eraseIdx hp)⟩
    | false =>
      -- nothing of the first packet has been written, and now it is gone
      have hplace : q.evictable = 0 := by simp [evictable, hq, hf]
      rw [Packet.pending_of_not_isFragmented hf, List.append_left_eq_self] at hhead
      subst hhead
      rw [hplace]
      exact begun_nil_of_forall hrest

/-! ## Writing -/

/-- What an attempt to write that leaves the session open does to its queue, and the bytes that
the channel takes. -/
inductive Attempt (q : PacketQueue) : WriteOutcome → Bytes → PacketQueue → Prop
  | idle (hq : q.packets = []) : Attempt q .idle [] q
  | blocked {head : Packet} {rest : List Packet} (hq : q.packets = head :: rest) :
      Attempt q .blocked [] q
  | complete {head : Packet} {rest : List Packet} (hq : q.packets = head :: rest)
      (hlast : head.last = false) :
      Attempt q (.complete head.pending.length) head.pending q.pop
  | incomplete {head : Packet} {rest : List Packet} {n : ℕ} (hq : q.packets = head :: rest)
      (hn : n < head.pending.length) :
      Attempt q (.incomplete n (head.pending.drop n).length) (head.pending.take n)
        (q.setFragment (some (head.pending.drop n)))
  | dropped {head : Packet} {rest : List Packet} (hq : q.packets = head :: rest) :
      Attempt q .dropped [] q.pop

lemma packets_pop (hq : q.packets = head :: rest) : q.pop.packets = rest := by
  rw [pop, hq, List.tail_cons]

lemma packets_setFragment (hq : q.packets = head :: rest) (fragment : Option Bytes) :
    (q.setFragment fragment).packets = head.withFragment fragment :: rest := by
  rw [setFragment, hq, List.modifyHead_cons]

/-- What holds of the packets that wait holds of those that wait after an attempt, if it does not
depend on how much of a packet has been written. -/
lemma Attempt.forall_mem {P : Packet → Prop} {outcome : WriteOutcome} {took : Bytes}
    (ha : q.Attempt outcome took q') (hP : ∀ p f, P p → P (p.withFragment f))
    (h : ∀ p ∈ q.packets, P p) : ∀ p ∈ q'.packets, P p := by
  cases ha with
  | idle | blocked => exact h
  | complete | dropped => exact fun p hp => h p (List.mem_of_mem_tail hp)
  | @incomplete head rest n hq hn =>
    intro p hp
    rw [packets_setFragment hq] at hp
    rw [hq] at h
    rcases List.mem_cons.1 hp with rfl | hmem
    · exact hP head _ (h head List.mem_cons_self)
    · exact h p (List.mem_cons_of_mem head hmem)

end PacketQueue

end SessionServer
