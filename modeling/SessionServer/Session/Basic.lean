/-
# Sessions

A session is one logical connection: a primary channel and perhaps a secondary one, the packets
that wait for them, and counters.  It starts fresh, becomes active with the first frame that is
read from it, and is closed once and for all.
-/
import SessionServer.Packet.Queue

namespace SessionServer

/-- Where a channel is found in the table of channels. -/
structure ChannelRef where
  index : Nat
deriving DecidableEq, Repr

/-- How far the life of a session has come. -/
inductive Lifecycle where
  /-- No frame has been read yet. -/
  | fresh
  /-- A frame has been read. -/
  | active
  | closed
deriving DecidableEq, Repr

/-- The printed form of a stage of life. -/
def Lifecycle.text : Lifecycle → String
  | fresh => "New"
  | active => "Active"
  | closed => "Closed"

/-- What has gone through a session.  Counters start again at zero after `2 ^ 64 - 1`. -/
structure SessionStats where
  readBytes : UInt64 := 0
  readMessages : UInt64 := 0
  /-- Bytes that channels took. -/
  writtenBytes : UInt64 := 0
  /-- Packets that were written to their end. -/
  writtenPackets : UInt64 := 0
  /-- Packets that were offered or queued and then thrown away. -/
  droppedPackets : UInt64 := 0
deriving DecidableEq, Repr

/-- The counters, in the order they are documented. -/
def SessionStats.counts (s : SessionStats) : List UInt64 :=
  [s.readBytes, s.readMessages, s.writtenBytes, s.writtenPackets, s.droppedPackets]

/-- One logical connection. -/
structure Session where
  id : SessionId
  /-- The channel it was opened on. -/
  primary : ChannelRef
  /-- The channel that was added to it. -/
  secondary : Option ChannelRef := none
  state : Lifecycle := .fresh
  player : Option PlayerId := none
  queue : PacketQueue
  /-- A write is already scheduled for it. -/
  ticket : Bool := false
  stats : SessionStats := {}
  createdAt : Nat := 0
  /-- When something was last read or written, or else when it was created. -/
  lastActive : Nat := 0
deriving DecidableEq, Repr

namespace Session

/-- The session is over. -/
def isClosed (s : Session) : Bool := s.state = .closed

/-- A frame has been read from the session and it is not over. -/
def isActive (s : Session) : Bool := s.state = .active

/-- Counts bytes that arrived. -/
def recordRead (s : Session) (now bytes : Nat) : Session :=
  { s with
    stats := { s.stats with readBytes := s.stats.readBytes + UInt64.ofNat bytes }
    lastActive := now }

/-- Counts a frame that was read. -/
def recordMessage (s : Session) : Session :=
  { s with stats := { s.stats with readMessages := s.stats.readMessages + 1 } }

/-- Counts bytes that a channel took. -/
def recordWrite (s : Session) (now bytes : Nat) : Session :=
  { s with
    stats := { s.stats with writtenBytes := s.stats.writtenBytes + UInt64.ofNat bytes }
    lastActive := now }

/-- Counts a packet that was written to its end. -/
def recordWrittenPacket (s : Session) : Session :=
  { s with stats := { s.stats with writtenPackets := s.stats.writtenPackets + 1 } }

/-- Counts packets that were thrown away. -/
def recordDropped (s : Session) (packets : Nat) : Session :=
  { s with
    stats := { s.stats with droppedPackets := s.stats.droppedPackets + UInt64.ofNat packets } }

/-- Nothing was read or written for at least so long. -/
def isIdle (s : Session) (now limit : Nat) : Bool := limit ≤ now - s.lastActive

/-- The session has been without a player for at least so long. -/
def isOrphan (s : Session) (now allowance : Nat) : Bool :=
  s.player.isNone && allowance ≤ now - s.createdAt

end Session

/-- Why a packet or a player was not taken by a session. -/
inductive SessionError where
  | closed (session : SessionId)
  | queueFull (session : SessionId)
  /-- It has no channel for the transport. -/
  | noBinding (session : SessionId) (transport : Transport)
deriving DecidableEq, Repr

/-- The name of a session error, without its details. -/
def SessionError.label : SessionError → String
  | closed _ => "Closed"
  | queueFull _ => "QueueFull"
  | noBinding .. => "NoBinding"

/-- The wording of a session error. -/
def SessionError.message : SessionError → String
  | closed session => s!"session {session.text} is closed"
  | queueFull session => s!"packet queue full for session {session.text}"
  | noBinding session transport => s!"session {session.text} has no {transport.text} binding"

/-- Why a session was closed. -/
inductive CloseReason where
  | peerClosed
  | readError (detail : String)
  | writeError (detail : String)
  /-- A frame could not be read. -/
  | decodeError (detail : String)
  /-- A packet that may not be dropped found the queue full. -/
  | queueOverflow
  /-- The packet that was to be the last one has been written. -/
  | lastPacket
  /-- Nothing was read or written for too long. -/
  | idle
  /-- No player was named in time. -/
  | orphan
  | shutdown
  | application (detail : String)
deriving DecidableEq, Repr

/-- The wording of a reason. -/
def CloseReason.text : CloseReason → String
  | peerClosed => "peer closed"
  | readError detail => s!"read error: {detail}"
  | writeError detail => s!"write error: {detail}"
  | decodeError detail => s!"decode error: {detail}"
  | queueOverflow => "packet queue overflow"
  | lastPacket => "last packet sent"
  | idle => "idle"
  | orphan => "orphan"
  | shutdown => "shutdown"
  | application detail => s!"closed by application: {detail}"

end SessionServer
