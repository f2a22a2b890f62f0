/-
# Datagram channels

One remote endpoint that is reached through a socket shared by all of them.  The endpoint may
move without the channel becoming another one.  Closing the channel only lets go of the endpoint.
-/
import SessionServer.Bytes
import SessionServer.Ids
import SessionServer.Network.Endpoint

namespace SessionServer

/-- A remote endpoint as a channel. -/
structure DatagramChannel where
  id : ChannelId
  /-- Where datagrams go. -/
  remote : Endpoint
  /-- The network they are sent over. -/
  link : Link
  /-- It has not been closed. -/
  isOpen : Bool := true
  /-- The datagrams that were sent and where to, first one first. -/
  sent : List (Endpoint × Bytes) := []
deriving DecidableEq, Repr

namespace DatagramChannel

/-- The greatest length that can be announced in front of a datagram. -/
def maxLength : Nat := 65535

/-- How much of the length that is announced the network needs for itself. -/
def overhead : Nat := 28

/-- Sends a datagram.  Returns its length.  What could never be announced is refused at once, and
what is too long together with its announcement when there is a way to the endpoint. -/
def tryWrite (c : DatagramChannel) (data : Bytes) : Except Fault Nat × DatagramChannel :=
  if !c.isOpen then (.error (.closed "datagram"), c)
  else if maxLength < data.length then (.error .tooLong, c)
  else
    match c.link with
    | .down => (.error Link.fault, c)
    | .up =>
      if maxLength < overhead + data.length then (.error .tooLong, c)
      else (.ok data.length, { c with sent := c.sent ++ [(c.remote, data)] })

/-- Points the channel at another endpoint. -/
def setRemote (c : DatagramChannel) (remote : Endpoint) : DatagramChannel := { c with remote }

/-- Lets go of the endpoint. -/
def close (c : DatagramChannel) : DatagramChannel := { c with isOpen := false }

/-- A datagram that is sent is sent whole. -/
theorem tryWrite_ok {c c' : DatagramChannel} {data : Bytes} {n : Nat}
    (h : c.tryWrite data = (.ok n, c')) :
    n = data.length ∧ c' = { c with sent := c.sent ++ [(c.remote, data)] } := by
  unfold tryWrite at h
  repeat' split at h
  all_goals simp_all

/-- A datagram that is not sent leaves no trace. -/
theorem tryWrite_error {c c' : DatagramChannel} {data : Bytes} {f : Fault}
    (h : c.tryWrite data = (.error f, c')) : c' = c := by
  unfold tryWrite at h
  repeat' split at h
  all_goals simp_all

end DatagramChannel

end SessionServer
