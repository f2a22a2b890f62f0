/-
# The registry of sessions

The registry holds every channel and every session, tells which sessions are live, and finds live
sessions by the name of a channel or by their player.  A session that was closed stays in the
table of sessions, so that it can still be asked about, but no lookup finds it.

Channels are looked up by their names, but names may repeat.  The registry therefore refers to
channels by their places in its table and compares names only where lookups are concerned.
-/
import SessionServer.Channel.Basic
import SessionServer.Index
import SessionServer.Session.Basic

namespace SessionServer

/-- All channels and sessions, and what leads to them. -/
structure Tables where
  /-- The capacity of the packet queues of new sessions. -/
  queueCapacity : Nat := 100
  /-- Every channel there ever was. -/
  channels : Array Channel := #[]
  /-- Every session there ever was. -/
  sessions : Index SessionId Session := {}
  /-- The sessions that are not closed, in order of creation. -/
  live : List SessionId := []
  /-- The sessions by the names of their primary channels. -/
  byPrimary : Index ChannelId SessionId := {}
  /-- The sessions by the names of their secondary channels. -/
  bySecondary : Index ChannelId SessionId := {}
  /-- The sessions by their players. -/
  byPlayer : Index PlayerId SessionId := {}
  /-- The name of the next session. -/
  nextId : UInt64 := 1
  /-- The time, in milliseconds. -/
  clock : Nat := 0

/-- All channels and sessions, and what a listener was told of those that were closed. -/
structure Registry extends Tables where
  /-- The sessions that were closed and why, first one first. -/
  notices : List (SessionId × CloseReason) := []
  /-- What the listener found each time it was told. -/
  scenes : List Tables := []

/-- The registry of what was found, as far as lookups are concerned. -/
def Tables.registry (t : Tables) : Registry := { toTables := t }

/-- Tells which player a token names. -/
abbrev Resolver := Bytes → Option PlayerId

/-- What became of an attempt to add a secondary channel. -/
inductive AttachOutcome where
  | success (session : SessionId)
  | playerNotFound
  /-- The player has no active session. -/
  | sessionNotFound
  /-- The session was not opened on a stream. -/
  | invalidSessionProtocol
deriving DecidableEq, Repr

/-- The printed form of an outcome, without the session. -/
def AttachOutcome.text : AttachOutcome → String
  | success _ => "Success"
  | playerNotFound => "PlayerNotFound"
  | sessionNotFound => "SessionNotFound"
  | invalidSessionProtocol => "InvalidSessionProtocol"

/-- The session that a channel was added to. -/
def AttachOutcome.session? : AttachOutcome → Option SessionId
  | success session => some session
  | _ => none

namespace Registry

/-! ### Channels -/

/-- The channel at a place. -/
def channel? (r : Registry) (ref : ChannelRef) : Option Channel := r.channels[ref.index]?

/-- Takes a channel into the table. -/
def addChannel (r : Registry) (c : Channel) : ChannelRef × Registry :=
  (⟨r.channels.size⟩, { r with channels := r.channels.push c })

/-- Changes the channel at a place. -/
def modifyChannel (r : Registry) (ref : ChannelRef) (f : Channel → Channel) : Registry :=
  { r with channels := r.channels.modify ref.index f }

/-- Closes the channel at a place. -/
def closeChannel (r : Registry) (ref : ChannelRef) : Registry := r.modifyChannel ref Channel.close

/-- The name of the channel at a place. -/
def channelId? (r : Registry) (ref : ChannelRef) : Option ChannelId := (r.channel? ref).map (·.id)

/-- The channel at a place has the transport. -/
def carries (r : Registry) (transport : Transport) (ref : ChannelRef) : Bool :=
  (r.channel? ref).any (·.transport = transport)

/-! ### Looking sessions up -/

/-- A session, live or closed. -/
def session? (r : Registry) (id : SessionId) : Option Session := r.sessions.find? id

/-- Changes a session, live or closed. -/
def modifySession (r : Registry) (id : SessionId) (f : Session → Session) : Registry :=
  { r with sessions := r.sessions.modify id f }

/-- A live session by its name. -/
def get? (r : Registry) (id : SessionId) : Option SessionId := if id ∈ r.live then some id else none

/-- The live session that was opened on a channel of this name. -/
def lookupPrimary (r : Registry) (channel : ChannelId) : Option SessionId :=
  (r.byPrimary.find? channel).bind r.get?

/-- The live session that a channel of this name was added to. -/
def lookupSecondary (r : Registry) (channel : ChannelId) : Option SessionId :=
  (r.bySecondary.find? channel).bind r.get?

/-- The live session of a player. -/
def sessionOf (r : Registry) (player : PlayerId) : Option SessionId :=
  (r.byPlayer.find? player).bind r.get?

/-- The live session of the player that a token names. -/
def sessionForToken (r : Registry) (resolve : Resolver) (token : Bytes) : Option SessionId :=
  (resolve token).bind r.sessionOf

/-- The place of the channel that carries packets of a transport for a session. -/
def channelFor (r : Registry) (s : Session) (transport : Transport) : Option ChannelRef :=
  if r.carries transport s.primary then some s.primary
  else s.secondary.filter (r.carries transport)

/-- A one-line description of a session. -/
def describe (r : Registry) (s : Session) : String :=
  let primary := match r.channelId? s.primary with
    | some name => s!"ChannelId({name.val.toNat})"
    | none => "None"
  let player := match s.player with
    | some player => s!"Some(PlayerId({player.val.toNat}))"
    | none => "None"
  s!"Session \x7b id: SessionId({s.id.val.toNat}), primary: {primary}, " ++
    s!"state: {s.state.text}, player: {player} \x7d"

/-! ### The life of a session -/

/-- Opens a session on a channel. -/
def create (r : Registry) (primary : ChannelRef) : SessionId × Registry :=
  let id : SessionId := ⟨r.nextId⟩
  let session : Session :=
    { id, primary, queue := .ofCapacity r.queueCapacity
      createdAt := r.clock, lastActive := r.clock }
  let byPrimary := match r.channelId? primary with
    | some channel => r.byPrimary.insert channel id
    | none => r.byPrimary
  (id,
    { r with
      sessions := r.sessions.insert id session
      live := r.live ++ [id]
      byPrimary
      nextId := r.nextId + 1 })

/-- Makes a fresh session active.  Says whether it was fresh. -/
def activate (r : Registry) (id : SessionId) : Bool × Registry :=
  match r.session? id with
  | some s =>
    if s.state = .fresh then (true, r.modifySession id fun s => { s with state := .active })
    else (false, r)
  | none => (false, r)

/-- The index of players without the entry of a player for a session. -/
def unlink (byPlayer : Index PlayerId SessionId) (player : PlayerId) (id : SessionId) :
    Index PlayerId SessionId :=
  if byPlayer.find? player = some id then byPlayer.erase player else byPlayer

/-- Gives a session to a player.  If another session belonged to the player, lookups find the new
one from now on. -/
def bindPlayer (r : Registry) (id : SessionId) (player : PlayerId) :
    Except SessionError Unit × Registry :=
  match r.session? id with
  | none => (.error (.closed id), r)
  | some s =>
    if s.isClosed then (.error (.closed id), r)
    else
      let byPlayer := match s.player with
        | some previous => if previous = player then r.byPlayer else unlink r.byPlayer previous id
        | none => r.byPlayer
      (.ok (),
        { r.modifySession id (fun s => { s with player := some player }) with
          byPlayer := byPlayer.insert player id })

/-- Lets go of the secondary channel of a session that gets a new one.  A channel of the same name
is taken for the same channel. -/
def replaceSecondary (r : Registry) (previous : Option ChannelRef) (name : ChannelId) : Registry :=
  match previous with
  | none => r
  | some old =>
    match r.channelId? old with
    | none => r
    | some oldName =>
      if oldName = name then r
      else { r.closeChannel old with bySecondary := r.bySecondary.erase oldName }

/-- Adds a channel to the session that a token names, without closing it if that fails. -/
def tryAttach (r : Registry) (resolve : Resolver) (channel : ChannelRef) (token : Bytes) :
    AttachOutcome × Registry :=
  match resolve token with
  | none => (.playerNotFound, r)
  | some player =>
    match (r.sessionOf player).bind r.session?, r.channelId? channel with
    | some s, some name =>
      if !s.isActive then (.sessionNotFound, r)
      else if !r.carries .stream s.primary then (.invalidSessionProtocol, r)
      else
        -- the new entry is made first, so that it stays if the old channel has the same name
        let r := { r with bySecondary := r.bySecondary.insert name s.id }
        let r := r.modifySession s.id fun s => { s with secondary := some channel }
        (.success s.id, r.replaceSecondary s.secondary name)
    | _, _ => (.sessionNotFound, r)

/-- Adds a channel to the session that a token names, in place of the one it had.  If that fails,
the channel is closed. -/
def attach (r : Registry) (resolve : Resolver) (channel : ChannelRef) (token : Bytes) :
    AttachOutcome × Registry :=
  match r.tryAttach resolve channel token with
  | (.success id, r) => (.success id, r)
  | (outcome, r) => (outcome, r.closeChannel channel)

/-- Lets go of the secondary channel of a session that is closed. -/
def dropSecondary (r : Registry) (s : Session) : Registry :=
  match s.secondary with
  | none => r
  | some ref =>
    let r := r.closeChannel ref
    match r.channelId? ref with
    | some name => { r with bySecondary := r.bySecondary.erase name }
    | none => r

/-- Tells the listener that a session was closed.  What it finds is kept. -/
def notify (r : Registry) (id : SessionId) (reason : CloseReason) : Registry :=
  { r with notices := r.notices ++ [(id, reason)], scenes := r.scenes ++ [r.toTables] }

/-- Closes a session: its packets are thrown away, its channels closed, and no lookup finds it any
more.  Then the listener is told.  Says whether the session was not closed before. -/
def close (r : Registry) (id : SessionId) (reason : CloseReason) : Bool × Registry :=
  match r.session? id with
  | none => (false, r)
  | some s =>
    if s.isClosed then (false, r)
    else
      let r := r.modifySession id fun s =>
        { s.recordDropped s.queue.length with
          state := .closed, queue := s.queue.clear, secondary := none }
      -- `s` is still the session as it was, with its channels and its player
      let r := (r.closeChannel s.primary).dropSecondary s
      let byPrimary := match r.channelId? s.primary with
        | some name => r.byPrimary.erase name
        | none => r.byPrimary
      let byPlayer := match s.player with
        | some player => unlink r.byPlayer player id
        | none => r.byPlayer
      let r := { r with live := r.live.filter (· ≠ id), byPrimary, byPlayer }
      (true, r.notify id reason)

/-! ### Packets -/

/-- Offers a packet to a session that has a channel for it. -/
def offer (r : Registry) (s : Session) (p : Packet) : Except SessionError Admission × Registry :=
  match s.queue.push p p.guarantee.overflowPolicy with
  | (.queued, queue) => (.ok .queued, r.modifySession s.id fun s => { s with queue })
  | (.rejected, _) => (.error (.queueFull s.id), r.modifySession s.id (·.recordDropped 1))
  | (admission, queue) =>
    (.ok admission, r.modifySession s.id fun s => { s.recordDropped 1 with queue })

/-- Queues a packet for a session.  A packet that is not queued is counted as dropped, unless the
session is over. -/
def enqueue (r : Registry) (id : SessionId) (p : Packet) :
    Except SessionError Admission × Registry :=
  match r.session? id with
  | none => (.error (.closed id), r)
  | some s =>
    if s.isClosed then (.error (.closed id), r)
    else if (r.channelFor s p.transport).isNone then
      (.error (.noBinding id p.transport), r.modifySession id (·.recordDropped 1))
    else r.offer s p

/-! ### Time -/

/-- The live sessions that pass a test. -/
def liveWith (r : Registry) (test : Session → Bool) : List SessionId :=
  r.live.filter fun id => (r.session? id).any test

/-- The live sessions on which nothing was read or written for at least so long. -/
def idleSessions (r : Registry) (limit : Nat) : List SessionId :=
  r.liveWith (·.isIdle r.clock limit)

/-- The live sessions that have been without a player for at least so long. -/
def orphanSessions (r : Registry) (allowance : Nat) : List SessionId :=
  r.liveWith (·.isOrphan r.clock allowance)

/-- Closes some sessions for the same reason. -/
def closeAll (r : Registry) (ids : List SessionId) (reason : CloseReason) : Registry :=
  ids.foldl (fun r id => (r.close id reason).2) r

end Registry

end SessionServer
