/-
# The packets waiting for one session

Packets leave in the order they came.  A queue holds as many as its capacity, and what happens
to one more is for the policy to say.  The packet at the front may have been written in part; it
is never thrown out, since its peer has seen its beginning.

Main result: a packet that is turned away changes nothing (`push_eq_self_of_not_admitted`).
-/
import SessionServer.Packet.Basic

namespace SessionServer

/-- What became of a packet that was offered to a queue. -/
inductive Admission where
  | queued
  /-- It was let in, and another one was thrown out for it. -/
  | droppedOldest
  /-- It was thrown away, since nothing could be thrown out for it. -/
  | droppedIncoming
  | rejected
deriving DecidableEq, Repr

/-- The printed form of an admission. -/
def Admission.text : Admission → String
  | queued => "Queued"
  | droppedOldest => "DroppedOldest"
  | droppedIncoming => "DroppedIncoming"
  | rejected => "Rejected"

/-- Whether the packet that was offered is in the queue now. -/
def Admission.isAdmitted : Admission → Bool
  | queued | droppedOldest => true
  | droppedIncoming | rejected => false

/-- The packets that wait to be written for one session, first one first. -/
structure PacketQueue where
  packets : List Packet := []
  /-- How many of them there may be before the overflow policy decides. -/
  capacity : Nat
deriving DecidableEq, Repr

namespace PacketQueue

/-- The empty queue.  There is always room for one packet. -/
def ofCapacity (capacity : Nat) : PacketQueue := { capacity := max capacity 1 }

/-- The number of packets that wait. -/
def length (q : PacketQueue) : Nat := q.packets.length

/-- Nothing waits. -/
def isEmpty (q : PacketQueue) : Bool := q.packets.isEmpty

/-- There is no room for one more packet. -/
def isFull (q : PacketQueue) : Bool := q.capacity ≤ q.packets.length

/-- The packet to be written next. -/
def head? (q : PacketQueue) : Option Packet := q.packets.head?

/-- The place of the packet that is thrown out first: the oldest one of which nothing has been
written. -/
def evictable (q : PacketQueue) : Nat :=
  match q.packets with
  | p :: _ => if p.isFragmented then 1 else 0
  | [] => 0

/-- The queue with a packet at its end. -/
def append (q : PacketQueue) (p : Packet) : PacketQueue := { q with packets := q.packets ++ [p] }

/-- Offers a packet to the queue. -/
def push (q : PacketQueue) (p : Packet) (policy : OverflowPolicy) : Admission × PacketQueue :=
  if !q.isFull then (.queued, q.append p)
  else
    match policy with
    | .unbounded => (.queued, q.append p)
    | .dropOldest =>
      -- the guarantee of the packet that is thrown out is not looked at
      if q.evictable < q.length then
        (.droppedOldest, { q with packets := q.packets.eraseIdx q.evictable ++ [p] })
      else (.droppedIncoming, q)
    | .closeSession => (.rejected, q)

/-- The queue without its first packet. -/
def pop (q : PacketQueue) : PacketQueue := { q with packets := q.packets.tail }

/-- The queue without packets. -/
def clear (q : PacketQueue) : PacketQueue := { q with packets := [] }

/-- Sets the bytes that are left to send of the first packet. -/
def setFragment (q : PacketQueue) (fragment : Option Bytes) : PacketQueue :=
  { q with packets := q.packets.modifyHead (·.withFragment fragment) }

theorem push_eq_self_of_not_admitted {q : PacketQueue} {p : Packet} {policy : OverflowPolicy}
    (h : (q.push p policy).1.isAdmitted = false) : (q.push p policy).2 = q := by
  unfold push at h ⊢
  split
  · next hroom => simp [hroom, Admission.isAdmitted] at h
  · next hfull =>
    simp only [hfull] at h
    cases policy with
    | unbounded => simp [Admission.isAdmitted] at h
    | closeSession => rfl
    | dropOldest =>
      by_cases he : q.evictable < q.length
      · simp [he, Admission.isAdmitted] at h
      · simp [he]

end PacketQueue

end SessionServer
