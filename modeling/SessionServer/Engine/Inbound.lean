/-
# Reading frames

Frames come in from stream connections in pieces, from text connections as messages, and from
datagram endpoints one by one.  A frame that can be read becomes a request; the first one makes
its session active.  On a connection, a frame that cannot be read closes the session, since
nothing after it can be trusted.  A bad datagram is only dropped.

A datagram from an endpoint that is not known yet is a request to attach: its payload is a token.
If the player it names has a datagram channel already, that channel moves to the new endpoint.
-/
import SessionServer.Engine.Basic
import SessionServer.Frame.Assembler

namespace SessionServer

/-- Why a frame was not delivered. -/
inductive DeliveryError where
  /-- No live session has a secondary channel of this name. -/
  | unknownChannel (channel : ChannelId)
deriving DecidableEq, Repr

namespace Engine

/-! ### Counting -/

/-- Counts bytes that arrived. -/
def countBytes (e : Engine) (n : Nat) : Engine :=
  { e with reader := { e.reader with bytes := e.reader.bytes + UInt64.ofNat n } }

/-- Counts a frame that was accepted. -/
def countFrame (e : Engine) : Engine :=
  { e with reader := { e.reader with frames := e.reader.frames + 1 } }

/-- Counts a frame that could not be read. -/
def countDecodeError (e : Engine) : Engine :=
  { e with reader := { e.reader with decodeErrors := e.reader.decodeErrors + 1 } }

/-- Counts bytes that arrived for a session. -/
def countRead (e : Engine) (id : SessionId) (n : Nat) : Engine :=
  e.modifySession id (·.recordRead e.registry.clock n)

/-! ### Frames -/

/-- Makes a request of a frame.  If the dispatcher has no room for it, it is lost. -/
def dispatch (e : Engine) (id : SessionId) (event : RequestEvent) (transport : Transport)
    (f : Frame) : Engine :=
  let request : Request :=
    { id := e.nextRequestId, priority := .forTransport transport, timestamp := e.registry.clock,
      session := id, event, transport, dataType := f.dataType, payload := f.payload }
  let e := { e with nextRequestId := e.nextRequestId + 1 }
  match e.dispatcher.enqueue request.priority.toNat request.timestamp request with
  | (.ok (), dispatcher) => { e with dispatcher }
  | (.error _, dispatcher) =>
    let reader := { e.reader with droppedFrames := e.reader.droppedFrames + 1 }
    { e with dispatcher, reader }

/-- Takes a frame that was read for a session.  Nothing happens if the session is over. -/
def acceptFrame (e : Engine) (id : SessionId) (transport : Transport) (f : Frame) : Engine :=
  if (e.registry.session? id).all (·.isClosed) then e
  else
    let e := e.countFrame.modifySession id (·.recordMessage)
    let (activated, registry) := e.registry.activate id
    { e with registry }.dispatch id (if activated then .connected else .message) transport f

/-- A frame of a session could not be read: the session is closed. -/
def rejectFrame (e : Engine) (id : SessionId) (err : FrameError) : Engine :=
  e.countDecodeError.close id (.decodeError err.message)

/-- Goes on with a frame that was read, or closes the session if it could not be.  Says whether
reading goes on. -/
def settleFrame (e : Engine) (id : SessionId) (transport : Transport) :
    Except FrameError Frame → Bool × Engine
  | .ok f => (true, e.acceptFrame id transport f)
  | .error err => (false, e.rejectFrame id err)

/-- Reads a message that is one whole frame.  Says whether reading goes on. -/
def handleMessage (setup : Setup) (e : Engine) (id : SessionId) (transport : Transport)
    (data : Bytes) : Bool × Engine :=
  e.settleFrame id transport (setup.codec.decode data)

/-- Takes a whole frame that arrived on a secondary channel which is driven from outside. -/
def deliverSecondary (setup : Setup) (e : Engine) (channel : ChannelId) (data : Bytes) :
    Except DeliveryError Unit × Engine :=
  match e.registry.lookupSecondary channel with
  | none => (.error (.unknownChannel channel), e)
  | some id =>
    let secondary := ((e.registry.session? id).bind (·.secondary)).bind e.registry.channel?
    let transport := (secondary.map (·.transport)).getD .reliableUdp
    let e := (e.countRead id data.length).countBytes data.length
    (.ok (), (e.handleMessage setup id transport data).2)

/-! ### Stream connections -/

/-- Reads the frames of a stream connection until one of them cannot be read.  Says whether
reading goes on. -/
def handlePieces (setup : Setup) (id : SessionId) :
    List Assembler.Piece → Engine → Bool × Engine
  | [], e => (true, e)
  | (h, body) :: pieces, e =>
    match e.settleFrame id .stream (setup.codec.decodeBody h body) with
    | (true, e) => handlePieces setup id pieces e
    | (false, e) => (false, e)

/-- Takes bytes that were read from a stream connection.  Returns the assembler to go on with, or
none if reading has ended. -/
def readStream (setup : Setup) (e : Engine) (id : SessionId) (a : Assembler) (data : Bytes) :
    Option Assembler × Engine :=
  let e := (e.countRead id data.length).countBytes data.length
  let ((pieces, err), a) := (a.push data).drain
  -- the frames before the one that is refused are handled all the same
  match handlePieces setup id pieces e, err with
  | (false, e), _ => (none, e)
  | (true, e), none => (some a, e)
  | (true, e), some err => (none, e.rejectFrame id err)

/-- Takes a message from a text connection.  Says whether reading goes on. -/
def readText (setup : Setup) (e : Engine) (id : SessionId) (data : Bytes) : Bool × Engine :=
  ((e.countRead id data.length).countBytes data.length).handleMessage setup id .textSocket data

/-! ### Datagrams -/

/-- The session that an endpoint belongs to.  An endpoint whose channel is closed or belongs to no
live session is forgotten. -/
def boundSession (e : Engine) (peer : Endpoint) : Option SessionId × Engine :=
  match e.peers.find? peer with
  | none => (none, e)
  | some ref =>
    match e.registry.channel? ref with
    | none => (none, { e with peers := e.peers.erase peer })
    | some c =>
      match if c.isOpen then e.registry.lookupSecondary c.id else none with
      | some id => (some id, e)
      | none => (none, { e with peers := e.peers.erase peer })

/-- Points a datagram channel at another endpoint. -/
def setRemote (peer : Endpoint) : Channel → Channel
  | .datagram c => .datagram (c.setRemote peer)
  | c => c

/-- The session that a token names, with the name of its open datagram channel. -/
def datagramOwner (setup : Setup) (e : Engine) (token : Bytes) :
    Option (SessionId × ChannelId) := do
  let id ← e.registry.sessionForToken setup.resolve token
  let s ← e.registry.session? id
  let c ← s.secondary.bind e.registry.channel?
  if c.transport = .datagram && c.isOpen then some (id, c.id) else none

/-- The endpoint under which a channel of this name is listed, with the place of the channel. -/
def peerNamed (e : Engine) (name : ChannelId) : Option (Endpoint × ChannelRef) :=
  e.peers.entries.find? fun entry => e.registry.channelId? entry.2 = some name

/-- Moves the datagram channel of the session that a token names to another endpoint, if there is
such a channel. -/
def rebind (setup : Setup) (e : Engine) (peer : Endpoint) (token : Bytes) : Option Engine := do
  let (id, name) ← e.datagramOwner setup token
  let (old, ref) ← e.peerNamed name
  let e := { e with
    registry := e.registry.modifyChannel ref (setRemote peer)
    peers := (e.peers.erase old).insert peer ref }
  some (e.countRead id token.length)

/-- Adds a new datagram channel to the session that the payload of a frame names. -/
def attachPeer (setup : Setup) (e : Engine) (peer : Endpoint) (f : Frame) : Engine :=
  let (name, channelIds) := e.channelIds.take
  let channel := Channel.datagram { id := name, remote := peer, link := setup.link }
  let (ref, registry) := e.registry.addChannel channel
  match registry.attach setup.resolve ref f.payload with
  | (.success id, registry) =>
    let e := { e with channelIds, registry, peers := e.peers.insert peer ref }
    e.countFrame.dispatch id .secondaryAttached .datagram f
  | (_, registry) => { e with channelIds, registry }

/-- Takes a datagram from an endpoint that belongs to no session. -/
def receiveUnbound (setup : Setup) (e : Engine) (peer : Endpoint) (data : Bytes) : Engine :=
  match setup.codec.decode data with
  | .error _ => e.countDecodeError
  | .ok f => (e.rebind setup peer f.payload).getD (e.attachPeer setup peer f)

/-- Takes a datagram from an endpoint that belongs to a session. -/
def receiveBound (setup : Setup) (e : Engine) (id : SessionId) (data : Bytes) : Engine :=
  let e := e.countRead id data.length
  match setup.codec.decode data with
  | .error _ => e.countDecodeError
  | .ok f => e.acceptFrame id .datagram f

/-- Takes a datagram. -/
def receiveDatagram (setup : Setup) (e : Engine) (peer : Endpoint) (data : Bytes) : Engine :=
  match (e.countBytes data.length).boundSession peer with
  | (some id, e) => e.receiveBound setup id data
  | (none, e) => e.receiveUnbound setup peer data

/-- Forgets the endpoints whose channels are closed.  Returns how many there were. -/
def prunePeers (e : Engine) : Nat × Engine :=
  let kept := e.peers.keep fun ref => (e.registry.channel? ref).any (·.isOpen)
  (e.peers.size - kept.size, { e with peers := kept })

end Engine

end SessionServer
