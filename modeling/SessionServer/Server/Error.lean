/-
# Errors of a server

Whatever can go wrong with a server is one of the errors of its parts, or concerns its listeners
and connections.
-/
import SessionServer.Dispatcher
import SessionServer.Frame.Error
import SessionServer.Session.Basic

namespace SessionServer

/-- What went wrong with a server. -/
inductive ServerError where
  /-- Nothing can be accepted at an address. -/
  | bind (address cause : String)
  /-- A connection could not be made a text connection. -/
  | upgrade (cause : String)
  /-- A text connection could not be read. -/
  | read (cause : String)
  /-- A payload could not be framed, or a frame not be read. -/
  | frame (e : FrameError)
  /-- A session did not take a packet or a player. -/
  | session (e : SessionError)
  /-- The dispatcher did not do as it was told. -/
  | dispatch (e : DispatchError)
  /-- No live session belongs to a channel. -/
  | unknownChannel (channel : ChannelId)
deriving DecidableEq, Repr

/-- The name of a server error, without its details, behind the part it comes from. -/
def ServerError.label : ServerError → String
  | bind .. => "Transport.Bind"
  | upgrade _ => "Transport.Upgrade"
  | read _ => "Transport.Read"
  | frame e => s!"Protocol.{e.label}"
  | session e => s!"Session.{e.label}"
  | dispatch e => s!"Dispatch.{e.label}"
  | unknownChannel _ => "UnknownChannel"

/-- The wording of a server error. -/
def ServerError.message : ServerError → String
  | bind address cause => s!"failed to bind {address}: {cause}"
  | upgrade cause => s!"text-socket upgrade failed: {cause}"
  | read cause => s!"text-socket read failed: {cause}"
  | frame e => e.message
  | session e => e.message
  | dispatch e => e.message
  | unknownChannel channel => s!"no session for channel {channel.text}"

end SessionServer
