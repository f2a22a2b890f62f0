/-
# The engine

The engine is everything that changes while a server runs: the registry, the tickets, the
dispatcher, and the counters of the two directions.  It is one value, and whatever happens is a
function from one such value to the next.  What does not change, such as the codec, is kept apart
in a `Setup`.
-/
import SessionServer.Dispatcher
import SessionServer.Frame.Codec
import SessionServer.Registry.Basic
import SessionServer.Request
import SessionServer.Tickets

namespace SessionServer

/-- What has been written to all sessions.  Counters start again at zero after `2 ^ 64 - 1`. -/
structure WriterStats where
  /-- Bytes that channels took. -/
  bytes : UInt64 := 0
  /-- Packets that were written to their end. -/
  packets : UInt64 := 0
  /-- Writes that took a part of a packet. -/
  partialWrites : UInt64 := 0
  droppedPackets : UInt64 := 0
  writeErrors : UInt64 := 0
deriving DecidableEq, Repr

/-- The counters, in the order they are documented. -/
def WriterStats.counts (s : WriterStats) : List UInt64 :=
  [s.bytes, s.packets, s.partialWrites, s.droppedPackets, s.writeErrors]

/-- What has been read from all sessions.  Counters start again at zero after `2 ^ 64 - 1`. -/
structure ReaderStats where
  bytes : UInt64 := 0
  /-- Frames that were accepted. -/
  frames : UInt64 := 0
  /-- Frames for which the dispatcher had no room. -/
  droppedFrames : UInt64 := 0
  /-- Frames that could not be read. -/
  decodeErrors : UInt64 := 0
deriving DecidableEq, Repr

/-- The counters, in the order they are documented. -/
def ReaderStats.counts (s : ReaderStats) : List UInt64 :=
  [s.bytes, s.frames, s.droppedFrames, s.decodeErrors]

/-- What is done with a session whose channel takes nothing. -/
inductive BlockedPolicy where
  /-- It gets a new ticket at once. -/
  | retry
  /-- Its ticket is held back until the channel can be written to. -/
  | wait
deriving DecidableEq, Repr

/-- What the engine is set up with. -/
structure Setup where
  /-- Frames payloads and reads frames. -/
  codec : Codec
  resolve : Resolver := fun _ => none
  /-- What is done with a session whose channel takes nothing. -/
  blocked : BlockedPolicy := .retry
  /-- The network that datagrams are sent over. -/
  link : Link := .up

/-- A session whose ticket is held back until a channel can be written to. -/
structure Waiter where
  session : SessionId
  channel : ChannelRef
deriving DecidableEq, Repr

/-- Everything that changes while a server runs. -/
structure Engine where
  registry : Registry
  /-- Who has something to write. -/
  tickets : Tickets
  /-- The requests that wait to be handled. -/
  dispatcher : Dispatcher Request
  /-- The number of the next packet that is submitted. -/
  nextPacketId : UInt64 := 1
  writer : WriterStats := {}
  /-- The sessions that wait for a channel, first one first. -/
  waiters : List Waiter := []
  nextRequestId : UInt64 := 1
  reader : ReaderStats := {}
  /-- The datagram channels by the endpoints they send to. -/
  peers : Index Endpoint ChannelRef := {}
  /-- Names for channels that are accepted. -/
  channelIds : ChannelIds := {}

namespace Engine

/-- An engine in which nothing has happened. -/
def start (queueCapacity shards : Nat) (dispatcher : DispatcherConfig) : Engine where
  registry := { queueCapacity }
  tickets := .ofCount shards
  dispatcher := .ofConfig dispatcher

/-- Changes a session. -/
def modifySession (e : Engine) (id : SessionId) (f : Session → Session) : Engine :=
  { e with registry := e.registry.modifySession id f }

/-- Closes a session. -/
def close (e : Engine) (id : SessionId) (reason : CloseReason) : Engine :=
  { e with registry := (e.registry.close id reason).2 }

/-! ### Tickets -/

/-- Gives a session a ticket, unless it has one or is over.  Says whether it got one. -/
def schedule (e : Engine) (id : SessionId) : Bool × Engine :=
  match e.registry.session? id with
  | none => (false, e)
  | some s =>
    if s.isClosed || s.ticket then (false, e)
    else
      (true,
        { e.modifySession id (fun s => { s with ticket := true }) with
          tickets := e.tickets.put id })

/-- Takes the ticket of a session back. -/
def clearTicket (e : Engine) (id : SessionId) : Engine :=
  e.modifySession id fun s => { s with ticket := false }

/-- Takes the next ticket of a shard. -/
def tryPop (e : Engine) (shard : Nat) : Option (SessionId × Engine) :=
  match e.tickets.take? shard with
  | none => none
  | some (id, tickets) => some (id, { e with tickets }.clearTicket id)

/-- Throws all waiting tickets away. -/
def clearTickets (e : Engine) : Engine :=
  { e.tickets.sessions.foldl clearTicket e with tickets := e.tickets.cleared }

end Engine

end SessionServer
