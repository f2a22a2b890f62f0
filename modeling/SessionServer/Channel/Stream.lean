/-
# Stream channels

The writing half of an accepted stream connection.  The peer of a connection reads all the time,
so a write takes everything.  Closing the channel ends the stream for the peer and tells the
reader of the connection to stop.
-/
import SessionServer.Bytes
import SessionServer.Ids
import SessionServer.Network.Fault

namespace SessionServer

/-- The writing half of a stream connection. -/
structure StreamChannel where
  id : ChannelId
  /-- It has not been closed. -/
  isOpen : Bool := true
  /-- What each write has taken, first write first. -/
  accepted : List Bytes := []
deriving DecidableEq, Repr

namespace StreamChannel

/-- The fault of using the channel after it was closed. -/
def closedFault : Fault := .closed "stream"

/-- Offers bytes to the channel.  Returns how many it took. -/
def tryWrite (c : StreamChannel) (data : Bytes) : Except Fault Nat × StreamChannel :=
  if c.isOpen then (.ok data.length, { c with accepted := c.accepted ++ [data] })
  else (.error closedFault, c)

/-- Closes the channel. -/
def close (c : StreamChannel) : StreamChannel := { c with isOpen := false }

end StreamChannel

end SessionServer
