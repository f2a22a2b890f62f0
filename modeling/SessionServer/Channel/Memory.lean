/-
# Channels in memory

A channel that keeps everything that is written to it.  It can be told to take only a part of
each write, to take nothing for a while, or to fail, and so stands for every way in which a wire
may behave.

Main results: a write takes a first part of what is offered (`tryWrite_ok`), and one that fails
takes nothing (`tryWrite_error`).
-/
import SessionServer.Bytes
import SessionServer.Ids
import SessionServer.Network.Fault
import SessionServer.Transport

namespace SessionServer

/-- A channel that keeps what is written to it. -/
structure MemoryChannel where
  id : ChannelId
  /-- The transport it stands for. -/
  transport : Transport
  /-- It has not been closed. -/
  isOpen : Bool := true
  /-- The most bytes that one write may take, if there is a limit. -/
  cap : Option Nat := none
  /-- Writes take nothing for now. -/
  blocked : Bool := false
  /-- The fault that writes end with, if they do. -/
  failing : Option FaultKind := none
  /-- What each write has taken, first write first. -/
  accepted : List Bytes := []
deriving DecidableEq, Repr

namespace MemoryChannel

/-- How many of `n` bytes a write takes. -/
def room (c : MemoryChannel) (n : Nat) : Nat :=
  match c.cap with
  | some cap => min cap n
  | none => n

/-- Offers bytes to the channel.  Returns how many it took. -/
def tryWrite (c : MemoryChannel) (data : Bytes) : Except Fault Nat × MemoryChannel :=
  if !c.isOpen then (.error (.closed "memory"), c)
  else if c.blocked then (.error .wouldBlock, c)
  else
    match c.failing with
    | some kind => (.error { kind }, c)
    | none =>
      let n := c.room data.length
      (.ok n, { c with accepted := c.accepted ++ [data.take n] })

/-- Closes the channel, which also ends every wait for it. -/
def close (c : MemoryChannel) : MemoryChannel := { c with isOpen := false, blocked := false }

theorem room_le (c : MemoryChannel) (n : Nat) : c.room n ≤ n := by
  unfold room
  split
  · exact Nat.min_le_right _ _
  · exact Nat.le_refl n

theorem tryWrite_ok {c c' : MemoryChannel} {data : Bytes} {n : Nat}
    (h : c.tryWrite data = (.ok n, c')) :
    n ≤ data.length ∧ c' = { c with accepted := c.accepted ++ [data.take n] } := by
  unfold tryWrite at h
  split at h
  · simp at h
  · split at h
    · simp at h
    · split at h
      · simp at h
      · obtain ⟨hn, rfl⟩ := Prod.mk.inj h
        obtain rfl := Except.ok.inj hn
        exact ⟨c.room_le _, rfl⟩

theorem tryWrite_error {c c' : MemoryChannel} {data : Bytes} {f : Fault}
    (h : c.tryWrite data = (.error f, c')) : c' = c := by
  unfold tryWrite at h
  split at h
  · exact (Prod.mk.inj h).2.symm
  · split at h
    · exact (Prod.mk.inj h).2.symm
    · split at h
      · exact (Prod.mk.inj h).2.symm
      · simp at h

end MemoryChannel

end SessionServer
