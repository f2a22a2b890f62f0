/-
# Channels

A channel is the writing side of a wire.  There are four kinds of them, and the rest of the
library only uses what they have in common: a name, a transport, and an attempt to write that
takes a first part of what it is offered or ends with a fault.

Main results: what an attempt to write does to the bytes a channel has taken
(`written_of_tryWrite_ok`, `tryWrite_error`), and that neither writing nor closing changes the
name or the transport.
-/
import SessionServer.Channel.Datagram
import SessionServer.Channel.Memory
import SessionServer.Channel.Stream
import SessionServer.Channel.Text

namespace SessionServer

/-- The writing side of a wire. -/
inductive Channel where
  | memory (c : MemoryChannel)
  | stream (c : StreamChannel)
  /-- A remote endpoint for datagrams. -/
  | datagram (c : DatagramChannel)
  | text (c : TextChannel)
deriving DecidableEq, Repr

/-- Whether a channel can be written to. -/
inductive Readiness where
  /-- It may take something. -/
  | ready
  /-- It will take nothing for now. -/
  | pending
  /-- It will never take anything again. -/
  | failed (f : Fault)
deriving DecidableEq, Repr

namespace Channel

/-- The name of a channel. -/
def id : Channel → ChannelId
  | memory c => c.id
  | stream c => c.id
  | datagram c => c.id
  | text c => c.id

/-- The transport of a channel. -/
def transport : Channel → Transport
  | memory c => c.transport
  | stream _ => .stream
  | datagram _ => .datagram
  | text _ => .textSocket

/-- Whether a channel is open. -/
def isOpen : Channel → Bool
  | memory c => c.isOpen
  | stream c => c.isOpen
  | datagram c => c.isOpen
  | text c => c.isOpen

/-- What each successful write has taken, first write first. -/
def accepted : Channel → List Bytes
  | memory c => c.accepted
  | stream c => c.accepted
  | datagram c => c.sent.map (·.2)
  | text c => c.accepted

/-- All the bytes that were taken. -/
def written (c : Channel) : Bytes := c.accepted.flatten

/-- Offers bytes to a channel.  Returns how many it took. -/
def tryWrite (c : Channel) (data : Bytes) : Except Fault Nat × Channel :=
  match c with
  | memory c => let (r, c) := c.tryWrite data; (r, memory c)
  | stream c => let (r, c) := c.tryWrite data; (r, stream c)
  | datagram c => let (r, c) := c.tryWrite data; (r, datagram c)
  | text c => let (r, c) := c.tryWrite data; (r, text c)

/-- Closes a channel. -/
def close : Channel → Channel
  | memory c => memory c.close
  | stream c => stream c.close
  | datagram c => datagram c.close
  | text c => text c.close

/-- Whether an attempt to write may take something. -/
def readiness : Channel → Readiness
  | memory c => if c.blocked then .pending else .ready
  | stream c => if c.isOpen then .ready else .failed StreamChannel.closedFault
  | datagram _ => .ready
  | text c =>
    if !c.attached then .failed TextChannel.closedFault
    else if c.sink ≠ .running then .failed TextChannel.sinkGone
    else if c.hasRoom then .ready
    else .pending

/-- Lets whatever works behind a channel go on until it rests. -/
def rest : Channel → Channel
  | text c => text c.flush
  | c => c

/-! ### What the four kinds have in common -/

@[simp] theorem id_tryWrite (c : Channel) (data : Bytes) : (c.tryWrite data).2.id = c.id := by
  cases c <;>
    simp only [tryWrite, MemoryChannel.tryWrite, StreamChannel.tryWrite, DatagramChannel.tryWrite,
      TextChannel.tryWrite] <;>
    (repeat' split) <;> rfl

@[simp] theorem transport_tryWrite (c : Channel) (data : Bytes) :
    (c.tryWrite data).2.transport = c.transport := by
  cases c <;>
    simp only [tryWrite, MemoryChannel.tryWrite, StreamChannel.tryWrite, DatagramChannel.tryWrite,
      TextChannel.tryWrite] <;>
    (repeat' split) <;> rfl

@[simp] theorem isOpen_tryWrite (c : Channel) (data : Bytes) :
    (c.tryWrite data).2.isOpen = c.isOpen := by
  cases c <;>
    simp only [tryWrite, MemoryChannel.tryWrite, StreamChannel.tryWrite, DatagramChannel.tryWrite,
      TextChannel.tryWrite] <;>
    (repeat' split) <;> rfl

@[simp] theorem id_close (c : Channel) : c.close.id = c.id := by
  cases c with
  | text c => simp only [close, TextChannel.close]; (repeat' split) <;> rfl
  | _ => rfl

@[simp] theorem transport_close (c : Channel) : c.close.transport = c.transport := by
  cases c <;> rfl

@[simp] theorem isOpen_close (c : Channel) : c.close.isOpen = false := by
  cases c with
  | text c =>
    simp only [close, isOpen, TextChannel.close, TextChannel.isOpen]
    (repeat' split) <;> simp_all
  | _ => rfl

/-- A write that succeeds has taken a first part of what was offered. -/
theorem written_of_tryWrite_ok {c c' : Channel} {data : Bytes} {n : Nat}
    (h : c.tryWrite data = (.ok n, c')) :
    n ≤ data.length ∧ c'.accepted = c.accepted ++ [data.take n] := by
  cases c with
  | memory m =>
    rcases hw : m.tryWrite data with ⟨r, m'⟩
    simp only [tryWrite, hw] at h
    obtain ⟨rfl, rfl⟩ := Prod.mk.inj h
    obtain ⟨hn, rfl⟩ := MemoryChannel.tryWrite_ok hw
    exact ⟨hn, rfl⟩
  | stream m =>
    simp only [tryWrite, StreamChannel.tryWrite] at h
    split at h
    · obtain ⟨hr, rfl⟩ := Prod.mk.inj h
      obtain rfl := Except.ok.inj hr
      simp [accepted]
    · simp at h
  | datagram m =>
    rcases hw : m.tryWrite data with ⟨r, m'⟩
    simp only [tryWrite, hw] at h
    obtain ⟨rfl, rfl⟩ := Prod.mk.inj h
    obtain ⟨rfl, rfl⟩ := DatagramChannel.tryWrite_ok hw
    simp [accepted]
  | text m =>
    rcases hw : m.tryWrite data with ⟨r, m'⟩
    simp only [tryWrite, hw] at h
    obtain ⟨rfl, rfl⟩ := Prod.mk.inj h
    obtain ⟨rfl, rfl⟩ := TextChannel.tryWrite_ok hw
    simp [accepted, TextChannel.accepted, TextChannel.traffic, TextChannel.payload?,
      List.filterMap_append]

/-- A write that fails changes nothing. -/
theorem tryWrite_error {c c' : Channel} {data : Bytes} {f : Fault}
    (h : c.tryWrite data = (.error f, c')) : c' = c := by
  cases c with
  | memory m =>
    rcases hw : m.tryWrite data with ⟨r, m'⟩
    simp only [tryWrite, hw] at h
    obtain ⟨rfl, rfl⟩ := Prod.mk.inj h
    rw [MemoryChannel.tryWrite_error hw]
  | stream m =>
    simp only [tryWrite, StreamChannel.tryWrite] at h
    split at h
    · simp at h
    · exact (Prod.mk.inj h).2.symm
  | datagram m =>
    rcases hw : m.tryWrite data with ⟨r, m'⟩
    simp only [tryWrite, hw] at h
    obtain ⟨rfl, rfl⟩ := Prod.mk.inj h
    rw [DatagramChannel.tryWrite_error hw]
  | text m =>
    rcases hw : m.tryWrite data with ⟨r, m'⟩
    simp only [tryWrite, hw] at h
    obtain ⟨rfl, rfl⟩ := Prod.mk.inj h
    rw [TextChannel.tryWrite_error hw]

end Channel

end SessionServer
