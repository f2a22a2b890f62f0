/-
# Requests

A request is a frame that was read from a session and waits to be handled by the application.
-/
import SessionServer.Bytes
import SessionServer.DataType
import SessionServer.Ids
import SessionServer.Transport

namespace SessionServer

/-- How urgent a request is. -/
inductive RequestPriority where
  | highest
  | high
  | normal
  | low
  | lowest
deriving DecidableEq, Repr

namespace RequestPriority

/-- The number of a priority; lower is more urgent. -/
def toNat : RequestPriority → Nat
  | highest => 0
  | high => 1
  | normal => 2
  | low => 3
  | lowest => 4

/-- Frames that may be lost give way to all others. -/
def forTransport : Transport → RequestPriority
  | .datagram => low
  | _ => normal

end RequestPriority

/-- What a request is about. -/
inductive RequestEvent where
  /-- The first frame of a session. -/
  | connected
  /-- A later frame. -/
  | message
  /-- A secondary channel was added; the payload is the token that named the player. -/
  | secondaryAttached
deriving DecidableEq, Repr

/-- The printed form of an event. -/
def RequestEvent.text : RequestEvent → String
  | connected => "Connected"
  | message => "Message"
  | secondaryAttached => "SecondaryAttached"

/-- One frame for the application. -/
structure Request where
  /-- Its number, in the order in which requests are made. -/
  id : UInt64
  priority : RequestPriority
  timestamp : Nat
  session : SessionId
  event : RequestEvent
  transport : Transport
  dataType : DataType
  /-- The payload, decompressed and decrypted. -/
  payload : Bytes
deriving DecidableEq, Repr

/-- The request with another priority. -/
def Request.withPriority (r : Request) (priority : RequestPriority) : Request :=
  { r with priority }

end SessionServer
