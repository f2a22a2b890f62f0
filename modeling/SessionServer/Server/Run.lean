/-
# A server at work

What happens on a server while it runs: connections come, bring frames and go, requests are
handled, packets are written, and sessions that nobody uses are closed.  When it is told to stop,
it closes all sessions and drops what waits.
-/
import SessionServer.Engine.Flush
import SessionServer.Server.Basic

namespace SessionServer

/-- What an application does with a request.  It may ask anything of the server, and what it
returns is kept as a record. -/
abbrev Handler (α : Type) := Request → Server → α × Server

namespace Server

/-! ### Connections -/

/-- Opens a session on a channel that is made for it under a fresh name. -/
def accept (s : Server) (channel : ChannelId → Channel) (reading : Reading) : SessionId × Server :=
  let (name, channelIds) := s.engine.channelIds.take
  let (ref, registry) := s.engine.registry.addChannel (channel name)
  let (id, registry) := registry.create ref
  (id,
    { s with
      engine := { s.engine with channelIds, registry }
      readings := s.readings.insert id reading })

/-- Accepts a stream connection. -/
def acceptStream (s : Server) : SessionId × Server :=
  s.accept (fun id => .stream { id }) (.stream (.start s.config.codec.maxFrameSize))

/-- Accepts a text connection. -/
def acceptText (s : Server) : SessionId × Server :=
  s.accept (fun id => .text (.start id s.config.textSocketOutbound)) .text

/-- Ends the reading of a connection. -/
def stopReading (s : Server) (id : SessionId) : Server :=
  { s with readings := s.readings.erase id }

/-- Takes what one read of a connection has brought.  A stream connection is read no more once its
session is over. -/
def receive (s : Server) (id : SessionId) (data : Bytes) : Server :=
  match s.readings.find? id with
  | none => s
  | some (.stream a) =>
    -- the bytes are not even counted then
    if (s.engine.registry.session? id).all (·.isClosed) then s.stopReading id
    else
      match s.engine.readStream s.setup id a data with
      | (some a, engine) => { s with engine, readings := s.readings.insert id (.stream a) }
      | (none, engine) => { s with engine }.stopReading id
  | some .text =>
    match s.engine.readText s.setup id data with
    | (true, engine) => { s with engine }
    | (false, engine) => { s with engine }.stopReading id

/-- A connection has ended: its session is closed. -/
def hangUp (s : Server) (id : SessionId) (reason : CloseReason) : Server :=
  match s.readings.find? id with
  | none => s
  | some _ => ((s.close id reason).2).stopReading id

/-- Takes a datagram. -/
def receiveDatagram (s : Server) (peer : Endpoint) (data : Bytes) : Server :=
  { s with engine := s.engine.receiveDatagram s.setup peer data }

/-! ### Time -/

/-- Closes the sessions without traffic and those without a player, and forgets datagram channels
that are closed. -/
def scan (s : Server) : Server :=
  let r := s.engine.registry
  let r :=
    if s.config.maxIdleSeconds = 0 then r
    else r.closeAll (r.idleSessions (s.config.maxIdleSeconds * 1000)) .idle
  let r :=
    match s.config.orphanAllowance with
    | none => r
    | some allowance => r.closeAll (r.orphanSessions allowance) .orphan
  { s with
    engine := ({ s.engine with registry := r }.prunePeers).2
    nextScan := r.clock + s.config.scanInterval }

/-- Lets some milliseconds pass. -/
def advance (s : Server) (milliseconds : Nat) : Server :=
  let clock := s.engine.registry.clock + milliseconds
  let s := { s with engine := { s.engine with registry := { s.engine.registry with clock } } }
  if s.isRunning && s.nextScan ≤ clock then s.scan else s

/-! ### Running -/

/-- Sets the writers and handlers to work. -/
def run (s : Server) : Except ServerError Unit × Server :=
  match s.engine.dispatcher.start with
  | (.ok (), dispatcher) =>
    (.ok (), { s with engine := { s.engine with dispatcher }, isRunning := true })
  | (.error e, _) => (.error (.dispatch e), s)

/-- Ends the work: closes all sessions and throws away what waits. -/
def stop (s : Server) : Server :=
  let registry := s.engine.registry.closeAll s.engine.registry.live .shutdown
  let e := { s.engine with registry }.clearTickets
  { s with
    engine := { e with dispatcher := e.dispatcher.shutdown }.refresh
    isRunning := false
    readings := {} }

/-- Lets the writers work until everything rests. -/
def flush (s : Server) : Server := { s with engine := s.engine.flush s.setup }

/-- Handles up to `n` requests, each of them after everything has come to rest. -/
def handleAll {α : Type} (handler : Handler α) : (n : Nat) → Server → List α × Server
  | 0, s => ([], s)
  | n + 1, s =>
    match s.engine.dispatcher.take? with
    | none => ([], s)
    | some (request, dispatcher) =>
      let (done, s) := handler request { s with engine := { s.engine with dispatcher } }
      let (more, s) := handleAll handler n s.flush
      (done :: more, s)

/-- Lets a server that runs work until everything rests: requests are handled and packets written.
A server that was told to stop does so after that.  Returns what became of the requests. -/
def settle {α : Type} (handler : Handler α) (s : Server) : List α × Server :=
  if s.isRunning then
    let (done, s) := handleAll handler s.engine.dispatcher.length s.flush
    (done, if s.isShuttingDown then s.stop else s)
  else ([], s)

end Server

end SessionServer
