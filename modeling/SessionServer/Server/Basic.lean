/-
# The server

A server ties the engine to a configuration: it frames payloads with one codec, listens on up to
three addresses, reads from the connections it has accepted, and hands requests to the
application.  This file has the server itself and what an application may ask of it at any time.
-/
import SessionServer.Engine.Broadcast
import SessionServer.Engine.Inbound
import SessionServer.Network.Address
import SessionServer.Server.Config
import SessionServer.Server.Error
import SessionServer.Zlib.Compressor

namespace SessionServer

/-- Where the reading of a connection stands. -/
inductive Reading where
  /-- A stream connection, with what has arrived of the next frame. -/
  | stream (assembler : Assembler)
  | text

/-- A server with everything that has happened on it. -/
structure Server where
  config : ServerConfig
  /-- What its engine is set up with. -/
  setup : Setup
  /-- Sessions, tickets and requests. -/
  engine : Engine
  isRunning : Bool := false
  isShuttingDown : Bool := false
  /-- The time of the next look at sessions without traffic or player. -/
  nextScan : Nat := 0
  /-- The connections that are being read. -/
  readings : Index SessionId Reading := {}

/-- What an application brings along for its server. -/
structure PlugIns where
  /-- Compression, if not the standard one. -/
  compressor : Option Compressor := none
  encryptor : Option Encryptor := none
  resolve : Resolver := fun _ => none

namespace Server

/-! ### Making a server -/

/-- The address that a text names, if there is one and it can be listened on beside those where
connections are accepted already. -/
def listen (link : Link) (transport : Transport) (taken : List Address) :
    Option String → Except ServerError (Option Address)
  | none => .ok none
  | some text =>
    match Address.bind link transport taken text with
    | .ok address => .ok (some address)
    | .error e => .error (.bind text e.message)

/-- The settings in use: corrected, and with encryption if there is a plug-in for it. -/
def settled (config : ServerConfig) (plugIns : PlugIns) : ServerConfig :=
  let c := config.validated
  { c with codec := { c.codec with encryption := c.codec.encryption || plugIns.encryptor.isSome } }

/-- The codec of a server, which can compress even if the application brings no plug-in. -/
def codecOf (config : CodecConfig) (plugIns : PlugIns) : Except ServerError Codec :=
  let compressor := plugIns.compressor.getD (Zlib.compressor Zlib.defaultLevel)
  (Codec.build config (some compressor) plugIns.encryptor).mapError .frame

/-- A server on which nothing has happened.  The codec is made first and the addresses are tried
in turn; the first failure counts. -/
def ofConfig (config : ServerConfig) (plugIns : PlugIns) (link : Link := .up) :
    Except ServerError Server := do
  let config := settled config plugIns
  let codec ← codecOf config.codec plugIns
  let stream ← listen link .stream [] config.streamAddress
  let _ ← listen link .textSocket stream.toList config.textSocketAddress
  let _ ← listen link .datagram [] config.datagramAddress
  return {
    config
    setup := { codec, resolve := plugIns.resolve, blocked := .wait, link }
    engine := .start config.session.packetQueueSize config.writerWorkers config.dispatcher }

/-! ### What an application may ask of it -/

/-- The server with another engine. -/
def withEngine {α : Type} (s : Server) (step : α × Engine) : α × Server :=
  (step.1, { s with engine := step.2 })

/-- The server with another registry. -/
def withRegistry {α : Type} (s : Server) (step : α × Registry) : α × Server :=
  s.withEngine (step.1, { s.engine with registry := step.2 })

/-- Sends a payload to some sessions. -/
def send (s : Server) (recipients : List SessionId) (payload : Bytes) (options : SendOptions) :
    Except ServerError SubmitReport × Server :=
  let (result, e) := s.engine.send s.setup recipients payload options
  s.withEngine (result.mapError .frame, e)

/-- Submits a packet. -/
def submit (s : Server) (p : Packet) : Except ServerError SubmitReport × Server :=
  let (result, e) := s.engine.submit s.setup p
  s.withEngine (result.mapError .frame, e)

/-- Adds a channel to the session of the player that a token names. -/
def attach (s : Server) (channel : ChannelRef) (token : Bytes) : AttachOutcome × Server :=
  s.withRegistry (s.engine.registry.attach s.setup.resolve channel token)

/-- Takes a frame that arrived on a secondary channel which is driven from outside. -/
def deliver (s : Server) (channel : ChannelId) (data : Bytes) : Except ServerError Unit × Server :=
  let (result, e) := s.engine.deliverSecondary s.setup channel data
  s.withEngine (result.mapError fun (.unknownChannel c) => .unknownChannel c, e)

/-- Closes a session.  Says whether it was not closed before. -/
def close (s : Server) (id : SessionId) (reason : CloseReason) : Bool × Server :=
  s.withRegistry (s.engine.registry.close id reason)

/-- Gives a session to a player. -/
def bindPlayer (s : Server) (id : SessionId) (player : PlayerId) :
    Except ServerError Unit × Server :=
  let (result, registry) := s.engine.registry.bindPlayer id player
  s.withRegistry (result.mapError .session, registry)

/-- The live session of a player. -/
def sessionOf (s : Server) (player : PlayerId) : Option SessionId :=
  s.engine.registry.sessionOf player

/-- Tells the server to stop. -/
def shutdown (s : Server) : Server := { s with isShuttingDown := true }

end Server

end SessionServer
