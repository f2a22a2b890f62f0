/-
# Text-socket channels

The writing half of an upgraded text connection.  Each write becomes one binary message.  Messages
wait in a bounded buffer until a task of their own, the *sink*, takes them one by one and hands
them to the connection.

Closing the channel lets go of the buffer.  A close message follows what waits if there is room
for it; with or without it, the sink shuts the connection once everything has been handed over.

Main results: a write that is accepted comes last in the buffer, and one that is refused changes
nothing (`tryWrite_ok`, `tryWrite_error`).
-/
import SessionServer.Bytes
import SessionServer.Ids
import SessionServer.Network.Fault

namespace SessionServer

/-- A message on a text connection. -/
inductive TextMessage where
  | binary (data : Bytes)
  /-- The end of the conversation. -/
  | close
deriving DecidableEq, Repr

/-- What has become of the sink of a text connection. -/
inductive SinkState where
  /-- It takes messages. -/
  | running
  /-- It has handed everything over and shut the connection. -/
  | finished
  /-- The connection is gone and what was not handed over is lost. -/
  | broken
deriving DecidableEq, Repr

/-- The writing half of a text connection, with its sink. -/
structure TextChannel where
  id : ChannelId
  /-- How many messages may wait. -/
  capacity : Nat
  /-- The channel has not been closed. -/
  attached : Bool := true
  /-- What has become of the sink. -/
  sink : SinkState := .running
  /-- The messages that wait, first one first. -/
  waiting : List TextMessage := []
  /-- The messages that were handed over, first one first. -/
  delivered : List TextMessage := []
deriving DecidableEq, Repr

namespace TextChannel

/-- A fresh channel.  There is always room for one message. -/
def start (id : ChannelId) (capacity : Nat) : TextChannel := { id, capacity := max capacity 1 }

/-- The channel can be written to: it was not closed, and its sink takes messages. -/
def isOpen (c : TextChannel) : Bool := c.attached && c.sink = .running

/-- The fault of using the channel after it was closed. -/
def closedFault : Fault := .closed "text-socket"

/-- The fault of using the channel when its sink takes no more messages. -/
def sinkGone : Fault := { kind := .brokenPipe, detail := some "text-socket sink gone" }

/-- There is room for one more message. -/
def hasRoom (c : TextChannel) : Bool := c.waiting.length < c.capacity

/-- Offers bytes as one message.  Returns their number. -/
def tryWrite (c : TextChannel) (data : Bytes) : Except Fault Nat × TextChannel :=
  if !c.attached then (.error closedFault, c)
  else if c.sink ≠ .running then (.error sinkGone, c)
  else if !c.hasRoom then (.error .wouldBlock, c)
  else (.ok data.length, { c with waiting := c.waiting ++ [.binary data] })

/-- Closes the channel.  A close message is added if there is room for it. -/
def close (c : TextChannel) : TextChannel :=
  if !c.attached then c
  else if c.sink = .running && c.hasRoom then
    { c with attached := false, waiting := c.waiting ++ [.close] }
  else { c with attached := false }

/-- One step of the sink: it hands the next message over, or shuts the connection after a close
message or when nothing can come any more. -/
def step (c : TextChannel) : TextChannel :=
  if c.sink ≠ .running then c
  else
    match c.waiting with
    | .binary data :: rest => { c with waiting := rest, delivered := c.delivered ++ [.binary data] }
    | .close :: rest =>
      { c with waiting := rest, delivered := c.delivered ++ [.close], sink := .finished }
    | [] => if c.attached then c else { c with sink := .finished }

/-- A number of steps of the sink. -/
def steps : (n : Nat) → TextChannel → TextChannel
  | 0, c => c
  | n + 1, c => steps n c.step

/-- Steps of the sink until it waits or ends.  One more step than there are messages is enough. -/
def flush (c : TextChannel) : TextChannel := steps (c.waiting.length + 1) c

/-- The messages that have been handed over or wait to be. -/
def traffic (c : TextChannel) : List TextMessage := c.delivered ++ c.waiting

/-- The bytes of a message. -/
def payload? : TextMessage → Option Bytes
  | .binary data => some data
  | .close => none

/-- The bytes of the messages that were written, first one first. -/
def accepted (c : TextChannel) : List Bytes := c.traffic.filterMap payload?

theorem tryWrite_ok {c c' : TextChannel} {data : Bytes} {n : Nat}
    (h : c.tryWrite data = (.ok n, c')) :
    n = data.length ∧ c' = { c with waiting := c.waiting ++ [.binary data] } := by
  unfold tryWrite at h
  split at h
  · simp at h
  · split at h
    · simp at h
    · split at h
      · simp at h
      · obtain ⟨hn, rfl⟩ := Prod.mk.inj h
        exact ⟨(Except.ok.inj hn).symm, rfl⟩

theorem tryWrite_error {c c' : TextChannel} {data : Bytes} {f : Fault}
    (h : c.tryWrite data = (.error f, c')) : c' = c := by
  unfold tryWrite at h
  split at h
  · exact (Prod.mk.inj h).2.symm
  · split at h
    · exact (Prod.mk.inj h).2.symm
    · split at h
      · exact (Prod.mk.inj h).2.symm
      · simp at h

end TextChannel

end SessionServer
