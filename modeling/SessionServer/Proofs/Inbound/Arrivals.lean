/-
# What reaches the reader

Frames reach the reader in five ways: out of the bytes of a stream connection, as a message of a
text connection, through a second channel that is driven from outside, and as a datagram from an
endpoint that belongs to a session or from one that does not.  Each way has its own errors and its
own counters.  Yet all that may come of one arrival is this.  It is counted, or it closes a
session, or, and that is the last thing that happens, one request is made of it.

A request that is made need not be seen afterwards, since the dispatcher may have no room for it.
What an arrival makes is therefore told by giving it to an engine that differs in its dispatcher,
which is an empty one (`made`).  Nothing that the reader does before it makes a request depends on
the dispatcher.

Main results: what one arrival comes to (`heard_receive`), and that a read from a stream connection
is some arrivals, one after the other (`exists_arrivals_eq_readStream`).
-/
import SessionServer.Proofs.Inbound.Frames
import SessionServer.Proofs.Outbound.Accounts
import SessionServer.Proofs.Outbound.Outline

namespace SessionServer

/-- What reaches the reader, at most one frame at a time. -/
inductive Arrival where
  /-- So many bytes are read from a stream connection. -/
  | bytes (k : SessionId) (n : ℕ)
  /-- A frame of a stream connection is whole. -/
  | body (k : SessionId) (h : Header) (data : Bytes)
  /-- What comes next on a stream connection is not a frame. -/
  | refusal (k : SessionId) (err : FrameError)
  /-- A message of a text connection. -/
  | text (k : SessionId) (data : Bytes)
  /-- A frame from a second channel that is driven from outside. -/
  | delivery (channel : ChannelId) (data : Bytes)
  | datagram (peer : Endpoint) (data : Bytes)

/-- A session is ready to be told of by a request: the first request finds it fresh and makes it
active, and all later ones find it active. -/
def Outline.Admits (o : Outline) (k : SessionId) : RequestEvent → Prop
  | .connected => o.stage k = some .fresh
  | .message | .secondaryAttached => o.stage k = some .active

namespace Outline

variable {o : Outline} {k : SessionId} {event : RequestEvent}

lemma Admits.isOpen (h : o.Admits k event) : o.isOpen k = true := by
  rw [isOpen_iff]
  cases event with
  | connected => exact .inl h
  | message => exact .inr h
  | secondaryAttached => exact .inr h

lemma Admits.stage_activate (h : o.Admits k event) : (o.activate k).stage k = some .active := by
  rw [Outline.stage_activate]
  rcases isOpen_iff.1 h.isOpen with hstage | hstage
  · simp [hstage]
  · simp [hstage]

lemma activate_of_active (h : o.stage k = some .active) : o.activate k = o := by
  rw [activate, if_neg]
  simp [h]

end Outline

lemma Index.erase_of_find?_eq_none {κ α : Type} [DecidableEq κ] {m : Index κ α} {k : κ}
    (h : m.find? k = none) : m.erase k = m :=
  congrArg Index.mk (List.filter_eq_self.2 fun entry hentry =>
    decide_eq_true (Index.fst_ne_of_find?_eq_none h entry hentry))

namespace Engine

variable {e m : Engine} {setup : Setup} {k : SessionId} {event : RequestEvent}
  {transport : Transport} {f : Frame} {peer : Endpoint} {data : Bytes}

/-- The engine with another dispatcher. -/
def withDispatcher (e : Engine) (dispatcher : Dispatcher Request) : Engine :=
  { e with dispatcher }

/-- The engine after something has reached the reader. -/
def receive (setup : Setup) (e : Engine) : Arrival → Engine
  | .bytes k n => (e.countRead k n).countBytes n
  | .body k h data => (e.settleFrame k .stream (setup.codec.decodeBody h data)).2
  | .refusal k err => e.rejectFrame k err
  | .text k data => (e.readText setup k data).2
  | .delivery channel data => (e.deliverSecondary setup channel data).2
  | .datagram peer data => e.receiveDatagram setup peer data

/-- The requests that are made when something reaches the reader, whether there is room for them or
not. -/
def made (setup : Setup) (e : Engine) (a : Arrival) : List Request :=
  ((e.withDispatcher (.ofConfig {})).receive setup a).dispatcher.waiting.map (·.request)

/-! ## What is counted -/

/-- What of an engine concerns the requests for all sessions. -/
structure Tally where
  outline : Outline
  /-- The name of the next session. -/
  nextId : UInt64
  nextRequestId : UInt64
  /-- Frames that were accepted. -/
  frames : UInt64
  /-- Frames for which the dispatcher had no room. -/
  droppedFrames : UInt64

def tally (e : Engine) : Tally where
  outline := e.registry.outline
  nextId := e.registry.nextId
  nextRequestId := e.nextRequestId
  frames := e.reader.frames
  droppedFrames := e.reader.droppedFrames

lemma tally_modifySession {g : Session → Session} (hg : ∀ s, (g s).state = s.state) (e : Engine)
    (k : SessionId) : (e.modifySession k g).tally = e.tally := by
  have houtline := Registry.outline_modifySession hg e.registry k
  simp only [tally, modifySession, houtline]
  rfl

@[simp] lemma tally_countRead (e : Engine) (k : SessionId) (n : ℕ) :
    (e.countRead k n).tally = e.tally :=
  tally_modifySession (g := (·.recordRead e.registry.clock n)) (fun _ => rfl) e k

@[simp] lemma tally_countBytes (e : Engine) (n : ℕ) : (e.countBytes n).tally = e.tally := rfl

@[simp] lemma tally_countDecodeError (e : Engine) : e.countDecodeError.tally = e.tally := rfl

lemma keyed_countRead (hr : e.registry.Keyed) (k : SessionId) (n : ℕ) :
    (e.countRead k n).registry.Keyed :=
  hr.of_later (Registry.Later.of_eq (Registry.alike_modifySession
    (f := (·.recordRead e.registry.clock n)) (fun _ => rfl) e.registry k).core)

/-- A session that does not end is counted with, and made active if it is fresh. -/
lemma tally_greet (e : Engine) (k : SessionId) :
    (e.greet k).tally
      = { e.tally with
          outline := e.tally.outline.activate k, frames := e.tally.frames + 1 } := by
  have hmessage := tally_modifySession (g := (·.recordMessage)) (fun _ => rfl) e.countFrame k
  have houtline := congrArg Tally.outline hmessage
  have hactive := (Registry.outline_activate
    (e.countFrame.modifySession k (·.recordMessage)).registry k).1
  have hnext := (Registry.listed_activate
    (e.countFrame.modifySession k (·.recordMessage)).registry k).nextId
  simp only [tally] at houtline
  simp only [greet, tally, hactive, hnext, houtline]
  rfl

lemma keyed_greet (hr : e.registry.Keyed) (k : SessionId) : (e.greet k).registry.Keyed := by
  have hmessage : (e.countFrame.modifySession k (·.recordMessage)).registry.Keyed :=
    hr.of_later (Registry.Later.of_eq (Registry.alike_modifySession
      (f := (·.recordMessage)) (fun _ => rfl) e.registry k).core)
  exact Registry.keyed_act hmessage (fun _ => none) (.activate k)

/-- What a frame of a session that is open tells of. -/
lemma admits_greeting {s : Session} (hs : e.registry.session? k = some s)
    (hopen : s.isClosed = false) : e.tally.outline.Admits k (e.greeting k) := by
  have hmessage := congrArg Tally.outline
    (tally_modifySession (g := (·.recordMessage)) (fun _ => rfl) e.countFrame k)
  have hfirst := (Registry.outline_activate
    (e.countFrame.modifySession k (·.recordMessage)).registry k).2
  simp only [tally] at hmessage
  rw [hmessage] at hfirst
  have hstage : e.registry.outline.stage k = some s.state := Registry.stage_outline_of_some hs
  unfold greeting
  dsimp only
  split_ifs with hactivated
  · exact hfirst.1 hactivated
  · have hne : s.state ≠ .fresh := fun h => hactivated (hfirst.2 (hstage.trans (congrArg some h)))
    refine hstage.trans (congrArg some ?_)
    -- a session that is neither fresh nor over is active
    cases hstate : s.state with
    | fresh => exact absurd hstate hne
    | active => rfl
    | closed => simp [Session.isClosed, hstate] at hopen

/-- A frame that cannot be read closes its session. -/
lemma tally_rejectFrame (e : Engine) (k : SessionId) (err : FrameError) :
    (e.rejectFrame k err).tally
      = { e.tally with
          outline := e.tally.outline.closeAll [(k, .decodeError err.message)] } := by
  have houtline := (Registry.outline_close e.registry k (.decodeError err.message)).1
  have hnext := Registry.nextId_close e.registry k (.decodeError err.message)
  simp only [rejectFrame, close, countDecodeError, tally, houtline, hnext]
  rfl

lemma keyed_rejectFrame (hr : e.registry.Keyed) (k : SessionId) (err : FrameError) :
    (e.rejectFrame k err).registry.Keyed :=
  Registry.keyed_act (r := e.countDecodeError.registry) hr (fun _ => none)
    (.close k (.decodeError err.message))

/-! ## What is heard -/

/-- What comes of an arrival, whatever the dispatcher is: no request is made, or one request is made
at last, of a session that is ready for it. -/
inductive Heard (e : Engine) (after : Dispatcher Request → Engine) : Prop
  | mute (m : Engine) (calls : List (SessionId × CloseReason))
      (after_eq : ∀ d, after d = m.withDispatcher d) (keyed : m.registry.Keyed)
      (tally_eq : m.tally = { e.tally with outline := e.tally.outline.closeAll calls })
  | told (m : Engine) (k : SessionId) (event : RequestEvent) (transport : Transport) (f : Frame)
      (after_eq : ∀ d, after d = (m.withDispatcher d).dispatch k event transport f)
      (keyed : m.registry.Keyed) (admits : e.tally.outline.Admits k event)
      (tally_eq : m.tally
        = { e.tally with outline := e.tally.outline.activate k, frames := e.tally.frames + 1 })

section Heard

variable {e₁ : Engine} {after : Dispatcher Request → Engine}

/-- Counting before makes no difference. -/
lemma Heard.of_tally (h : Heard e₁ after) (htally : e₁.tally = e.tally) : Heard e after := by
  cases h with
  | mute m calls after_eq keyed tally_eq => exact .mute m calls after_eq keyed (htally ▸ tally_eq)
  | told m k event transport f after_eq keyed admits tally_eq =>
    exact .told m k event transport f after_eq keyed (htally ▸ admits) (htally ▸ tally_eq)

/-- Nothing but counters change, as far as sessions are concerned. -/
lemma heard_of_tally (hr : m.registry.Keyed) (htally : m.tally = e.tally)
    (hafter : ∀ d, after d = m.withDispatcher d) : Heard e after :=
  .mute m [] hafter hr htally

lemma heard_acceptFrame (hr : e.registry.Keyed) (k : SessionId) (transport : Transport)
    (f : Frame) : Heard e fun d => (e.withDispatcher d).acceptFrame k transport f := by
  cases hclosed : (e.registry.session? k).all (·.isClosed) with
  | true =>
    refine heard_of_tally hr rfl fun d => ?_
    rw [acceptFrame_eq]
    exact if_pos hclosed
  | false =>
    obtain ⟨s, hs, hopen⟩ : ∃ s, e.registry.session? k = some s ∧ s.isClosed = false := by
      cases hs : e.registry.session? k with
      | none => simp [hs] at hclosed
      | some s => exact ⟨s, rfl, by simpa [hs] using hclosed⟩
    refine .told (e.greet k) k (e.greeting k) transport f (fun d => ?_) (keyed_greet hr k)
      (admits_greeting hs hopen) (tally_greet e k)
    rw [acceptFrame_eq]
    exact if_neg (by simp [withDispatcher, hclosed])

lemma heard_rejectFrame (hr : e.registry.Keyed) (k : SessionId) (err : FrameError) :
    Heard e fun d => (e.withDispatcher d).rejectFrame k err :=
  .mute (e.rejectFrame k err) _ (fun _ => rfl) (keyed_rejectFrame hr k err)
    (tally_rejectFrame e k err)

lemma heard_settleFrame (hr : e.registry.Keyed) (k : SessionId) (transport : Transport)
    (result : Except FrameError Frame) :
    Heard e fun d => ((e.withDispatcher d).settleFrame k transport result).2 := by
  cases result with
  | ok f => exact heard_acceptFrame hr k transport f
  | error err => exact heard_rejectFrame hr k err

/-! ### Datagrams -/

/-- The session that an endpoint belongs to. -/
def reached (e : Engine) (peer : Endpoint) : Option SessionId :=
  (e.peers.find? peer).bind fun ref => (e.registry.channel? ref).bind fun c =>
    if c.isOpen then e.registry.lookupSecondary c.id else none

/-- The engine after an endpoint is forgotten. -/
def forget (e : Engine) (peer : Endpoint) : Engine := { e with peers := e.peers.erase peer }

lemma boundSession_eq (e : Engine) (peer : Endpoint) :
    e.boundSession peer
      = (e.reached peer, if (e.reached peer).isSome then e else e.forget peer) := by
  unfold boundSession reached
  cases hpeer : e.peers.find? peer with
  | none =>
    have hsame : e.forget peer = e := by rw [forget, Index.erase_of_find?_eq_none hpeer]
    simp [hsame]
  | some ref =>
    cases hc : e.registry.channel? ref with
    | none => simp [hc, forget]
    | some c =>
      simp only [Option.bind_some, hc]
      cases (if c.isOpen then e.registry.lookupSecondary c.id else none) with
      | none => rfl
      | some k => rfl

/-- A datagram goes to the session that its endpoint belongs to.  If there is none, the endpoint is
forgotten if it was known. -/
lemma receiveDatagram_eq (setup : Setup) (e : Engine) (peer : Endpoint) (data : Bytes) :
    e.receiveDatagram setup peer data
      = match e.reached peer with
        | some k => (e.countBytes data.length).receiveBound setup k data
        | none => ((e.countBytes data.length).forget peer).receiveUnbound setup peer data := by
  have hreached : (e.countBytes data.length).reached peer = e.reached peer := rfl
  rw [receiveDatagram, boundSession_eq, hreached]
  cases e.reached peer <;> rfl

/-- The engine after the channel at a place, which was listed for one endpoint, is moved to
another one, because of so many bytes for a session. -/
def moved (e : Engine) (k : SessionId) (old peer : Endpoint) (ref : ChannelRef) (n : ℕ) : Engine :=
  { e with
    registry := e.registry.modifyChannel ref (setRemote peer)
    peers := (e.peers.erase old).insert peer ref }.countRead k n

lemma rebind_eq (setup : Setup) (e : Engine) (peer : Endpoint) (token : Bytes) :
    e.rebind setup peer token
      = (e.datagramOwner setup token).bind fun owner => (e.peerNamed owner.2).map fun entry =>
          e.moved owner.1 entry.1 peer entry.2 token.length := by
  unfold rebind
  cases e.datagramOwner setup token with
  | none => rfl
  | some owner =>
    cases hentry : e.peerNamed owner.2 with
    | none => simp [hentry]
    | some entry => simp [hentry, moved]

/-- The place of the next channel. -/
def nextRef (e : Engine) : ChannelRef := ⟨e.registry.channels.size⟩

/-- The engine after a channel for an endpoint was made, which no session has yet. -/
def lent (setup : Setup) (e : Engine) (peer : Endpoint) : Engine :=
  { e with
    channelIds := e.channelIds.take.2
    registry := (e.registry.addChannel
      (.datagram { id := e.channelIds.take.1, remote := peer, link := setup.link })).2 }

/-- What comes of an attempt to give that channel to the session that a token names. -/
def attempted (setup : Setup) (e : Engine) (peer : Endpoint) (token : Bytes) :
    AttachOutcome × Registry :=
  (e.lent setup peer).registry.attach setup.resolve e.nextRef token

/-- The engine after the attempt failed. -/
def refused (setup : Setup) (e : Engine) (peer : Endpoint) (token : Bytes) : Engine :=
  { e.lent setup peer with registry := (e.attempted setup peer token).2 }

/-- The engine after the channel was given to a session. -/
def joined (setup : Setup) (e : Engine) (peer : Endpoint) (token : Bytes) : Engine :=
  { e.refused setup peer token with peers := e.peers.insert peer e.nextRef }.countFrame

lemma attachPeer_eq (setup : Setup) (e : Engine) (peer : Endpoint) (f : Frame) :
    e.attachPeer setup peer f
      = match e.attempted setup peer f.payload with
        | (.success k, registry) =>
          { e.lent setup peer with
            registry, peers := e.peers.insert peer e.nextRef }.countFrame.dispatch k
              .secondaryAttached .datagram f
        | (_, registry) => { e.lent setup peer with registry } := rfl

lemma attachPeer_of_success (h : (e.attempted setup peer f.payload).1 = .success k) :
    e.attachPeer setup peer f
      = (e.joined setup peer f.payload).dispatch k .secondaryAttached .datagram f := by
  rw [attachPeer_eq, joined, refused]
  generalize e.attempted setup peer f.payload = out at h
  obtain ⟨outcome, registry⟩ := out
  obtain rfl : outcome = .success k := h
  rfl

lemma attachPeer_of_failed (h : ∀ k, (e.attempted setup peer f.payload).1 ≠ .success k) :
    e.attachPeer setup peer f = e.refused setup peer f.payload := by
  rw [attachPeer_eq, refused]
  generalize e.attempted setup peer f.payload = out at h
  obtain ⟨outcome, registry⟩ := out
  cases outcome with
  | success k => exact absurd rfl (h k)
  | _ => rfl

lemma heard_receiveBound (hr : e.registry.Keyed) (setup : Setup) (k : SessionId) (data : Bytes) :
    Heard e fun d => (e.withDispatcher d).receiveBound setup k data := by
  have hcounted : (e.countRead k data.length).registry.Keyed := keyed_countRead hr k data.length
  unfold receiveBound
  cases setup.codec.decode data with
  | error err =>
    exact heard_of_tally (m := (e.countRead k data.length).countDecodeError) hcounted (by simp)
      fun _ => rfl
  | ok f => exact (heard_acceptFrame hcounted k .datagram f).of_tally (tally_countRead e k _)

lemma tally_moved (e : Engine) (k : SessionId) (old peer : Endpoint) (ref : ChannelRef) (n : ℕ) :
    (e.moved k old peer ref n).tally = e.tally :=
  tally_countRead _ k n

lemma keyed_refused (hr : e.registry.Keyed) (setup : Setup) (peer : Endpoint) (token : Bytes) :
    (e.refused setup peer token).registry.Keyed :=
  Registry.keyed_act (r := (e.lent setup peer).registry) hr setup.resolve (.attach e.nextRef token)

lemma tally_refused (hr : e.registry.Keyed) (setup : Setup) (peer : Endpoint) (token : Bytes) :
    (e.refused setup peer token).tally = e.tally := by
  have houtline :=
    Registry.outline_attach (e.lent setup peer).registry setup.resolve e.nextRef token
  have hnext := (Registry.quiet_act (r := (e.lent setup peer).registry) hr setup.resolve
    (d := .attach e.nextRef token) nofun nofun).2.1
  have htally : (e.refused setup peer token).tally
      = { e.tally with
          outline := (e.attempted setup peer token).2.outline
          nextId := (e.attempted setup peer token).2.nextId } := rfl
  rw [htally, attempted, houtline]
  exact congrArg (fun nextId => { e.tally with nextId }) hnext

/-- A session that is given a channel is active. -/
lemma stage_of_success (hr : e.registry.Keyed) {token : Bytes}
    (h : (e.attempted setup peer token).1 = .success k) :
    e.registry.outline.stage k = some .active := by
  rcases Registry.attach_cases (r := (e.lent setup peer).registry) hr setup.resolve e.nextRef
    token with ⟨hnone, -⟩ | ⟨j, s, name, hj, hs, hactive, -⟩
  · exact absurd h (hnone k)
  · obtain rfl := AttachOutcome.success.inj (h.symm.trans hj)
    obtain ⟨t, ht, rfl⟩ := Registry.core_eq_some_iff.1 hs
    have hstate : t.state = .active := of_decide_eq_true hactive
    exact (Registry.stage_outline_of_some ht).trans (congrArg some hstate)

lemma heard_attachPeer (hr : e.registry.Keyed) (setup : Setup) (peer : Endpoint) (f : Frame) :
    Heard e fun d => (e.withDispatcher d).attachPeer setup peer f := by
  have hkeyed := keyed_refused hr setup peer f.payload
  have htally := tally_refused hr setup peer f.payload
  by_cases hout : ∃ k, (e.attempted setup peer f.payload).1 = .success k
  · obtain ⟨k, hk⟩ := hout
    have hstage := stage_of_success hr hk
    refine .told (e.joined setup peer f.payload) k .secondaryAttached .datagram f
      (fun d => attachPeer_of_success (e := e.withDispatcher d) hk) hkeyed hstage ?_
    have hsame : e.tally.outline.activate k = e.tally.outline := Outline.activate_of_active hstage
    have hjoined : (e.joined setup peer f.payload).tally
        = { (e.refused setup peer f.payload).tally with frames := e.tally.frames + 1 } := rfl
    rw [hjoined, htally, hsame]
  · have hfailed : ∀ k, (e.attempted setup peer f.payload).1 ≠ .success k := not_exists.1 hout
    exact heard_of_tally hkeyed htally fun d =>
      attachPeer_of_failed (e := e.withDispatcher d) hfailed

lemma heard_receiveUnbound (hr : e.registry.Keyed) (setup : Setup) (peer : Endpoint)
    (data : Bytes) : Heard e fun d => (e.withDispatcher d).receiveUnbound setup peer data := by
  unfold receiveUnbound
  cases setup.codec.decode data with
  | error err => exact heard_of_tally (m := e.countDecodeError) hr rfl fun _ => rfl
  | ok f =>
    have hrebind : ∀ d, (e.withDispatcher d).rebind setup peer f.payload
        = (e.datagramOwner setup f.payload).bind fun owner =>
            (e.peerNamed owner.2).map fun entry =>
              (e.moved owner.1 entry.1 peer entry.2 f.payload.length).withDispatcher d :=
      fun d => rebind_eq setup (e.withDispatcher d) peer f.payload
    simp only [hrebind]
    cases e.datagramOwner setup f.payload with
    | none => exact heard_attachPeer hr setup peer f
    | some owner =>
      simp only [Option.bind_some]
      cases e.peerNamed owner.2 with
      | none => exact heard_attachPeer hr setup peer f
      | some entry =>
        have hmoved := keyed_countRead (e := { e with
          registry := e.registry.modifyChannel entry.2 (setRemote peer)
          peers := (e.peers.erase entry.1).insert peer entry.2 }) hr owner.1 f.payload.length
        exact heard_of_tally hmoved (tally_moved e owner.1 entry.1 peer entry.2 f.payload.length)
          fun _ => rfl

lemma heard_receiveDatagram (hr : e.registry.Keyed) (setup : Setup) (peer : Endpoint)
    (data : Bytes) : Heard e fun d => (e.withDispatcher d).receiveDatagram setup peer data := by
  have hreached : ∀ d, (e.withDispatcher d).reached peer = e.reached peer := fun _ => rfl
  simp only [receiveDatagram_eq, hreached]
  cases e.reached peer with
  | some k =>
    exact (heard_receiveBound (e := e.countBytes data.length) hr setup k data).of_tally rfl
  | none =>
    exact (heard_receiveUnbound (e := (e.countBytes data.length).forget peer) hr setup peer
      data).of_tally rfl

/-! ### All ways -/

lemma heard_deliverSecondary (hr : e.registry.Keyed) (setup : Setup) (channel : ChannelId)
    (data : Bytes) :
    Heard e fun d => ((e.withDispatcher d).deliverSecondary setup channel data).2 := by
  have hlookup : ∀ d, (e.withDispatcher d).registry = e.registry := fun _ => rfl
  unfold deliverSecondary
  simp only [hlookup]
  cases e.registry.lookupSecondary channel with
  | none => exact heard_of_tally hr rfl fun _ => rfl
  | some k =>
    exact (heard_settleFrame (e := (e.countRead k data.length).countBytes data.length)
      (keyed_countRead hr k data.length) k _ _).of_tally (tally_countRead e k _)

/-- **What comes of an arrival**: no request is made, or one, and only at last. -/
theorem heard_receive (hr : e.registry.Keyed) (setup : Setup) (a : Arrival) :
    Heard e fun d => (e.withDispatcher d).receive setup a := by
  cases a with
  | bytes k n =>
    exact heard_of_tally (m := (e.countRead k n).countBytes n) (keyed_countRead hr k n) (by simp)
      fun _ => rfl
  | body k h data => exact heard_settleFrame hr k .stream _
  | refusal k err => exact heard_rejectFrame hr k err
  | text k data =>
    exact (heard_settleFrame (e := (e.countRead k data.length).countBytes data.length)
      (keyed_countRead hr k data.length) k .textSocket _).of_tally (tally_countRead e k _)
  | delivery channel data => exact heard_deliverSecondary hr setup channel data
  | datagram peer data => exact heard_receiveDatagram hr setup peer data

end Heard

/-! ## What is made -/

/-- The dispatcher has room for a request. -/
def hasRoom (e : Engine) (q : Request) : Bool :=
  (e.dispatcher.enqueue q.priority.toNat q.timestamp q).1.isOk

lemma waiting_dispatch (e : Engine) (k : SessionId) (event : RequestEvent) (transport : Transport)
    (f : Frame) :
    ((e.withDispatcher (.ofConfig {})).dispatch k event transport f).dispatcher.waiting.map
      (·.request) = [e.request k event transport f] := rfl

@[simp] lemma registry_dispatch (e : Engine) (k : SessionId) (event : RequestEvent)
    (transport : Transport) (f : Frame) :
    (e.dispatch k event transport f).registry = e.registry := by
  unfold dispatch
  dsimp only
  split <;> rfl

/-- A request that is made takes a number, and is counted as dropped if there is no room for it. -/
lemma tally_dispatch (e : Engine) (k : SessionId) (event : RequestEvent) (transport : Transport)
    (f : Frame) :
    (e.dispatch k event transport f).tally
      = { e.tally with
          nextRequestId := e.tally.nextRequestId + 1
          droppedFrames := if e.hasRoom (e.request k event transport f) then e.tally.droppedFrames
            else e.tally.droppedFrames + 1 } := by
  unfold dispatch hasRoom request
  dsimp only
  split <;> rename_i henqueue <;> rw [henqueue] <;> rfl

/-- The dispatcher after a request was offered to it. -/
def dispatcherWith (e : Engine) (q : Request) : Dispatcher Request :=
  (e.dispatcher.enqueue q.priority.toNat q.timestamp q).2

lemma dispatcher_dispatch (e : Engine) (k : SessionId) (event : RequestEvent)
    (transport : Transport) (f : Frame) :
    (e.dispatch k event transport f).dispatcher
      = e.dispatcherWith (e.request k event transport f) := by
  unfold dispatch dispatcherWith request
  dsimp only
  split <;> rename_i henqueue <;> rw [henqueue]

/-- What an arrival makes, and what is counted by it. -/
lemma made_cases (hr : e.registry.Keyed) (setup : Setup) (a : Arrival) :
    (e.made setup a = [] ∧ (e.receive setup a).dispatcher = e.dispatcher ∧
        ∃ calls, (e.receive setup a).tally
          = { e.tally with outline := e.tally.outline.closeAll calls }) ∨
      ∃ q, e.made setup a = [q] ∧ q.id = e.tally.nextRequestId ∧
        e.tally.outline.Admits q.session q.event ∧
        (e.receive setup a).dispatcher = e.dispatcherWith q ∧
        (e.receive setup a).tally
          = { e.tally with
              outline := e.tally.outline.activate q.session
              nextRequestId := e.tally.nextRequestId + 1
              frames := e.tally.frames + 1
              droppedFrames :=
                if e.hasRoom q then e.tally.droppedFrames else e.tally.droppedFrames + 1 } := by
  cases heard_receive hr setup a with
  | mute m calls after_eq keyed tally_eq =>
    have hreceive : e.receive setup a = m.withDispatcher e.dispatcher := after_eq e.dispatcher
    refine .inl ⟨?_, ?_, calls, ?_⟩
    · rw [made, after_eq]
      rfl
    · rw [hreceive]
      rfl
    · rw [hreceive]
      exact tally_eq
  | told m k event transport f after_eq keyed admits tally_eq =>
    have hreceive : e.receive setup a
        = (m.withDispatcher e.dispatcher).dispatch k event transport f := after_eq e.dispatcher
    have htally : (m.withDispatcher e.dispatcher).tally = m.tally := rfl
    refine .inr ⟨m.request k event transport f, ?_, ?_, admits, ?_, ?_⟩
    · rw [made, after_eq]
      exact waiting_dispatch m k event transport f
    · exact congrArg Tally.nextRequestId tally_eq
    · rw [hreceive, dispatcher_dispatch]
      rfl
    · rw [hreceive, tally_dispatch, htally, tally_eq]
      rfl

lemma keyed_receive (hr : e.registry.Keyed) (setup : Setup) (a : Arrival) :
    (e.receive setup a).registry.Keyed := by
  cases heard_receive hr setup a with
  | mute m calls after_eq keyed tally_eq =>
    have hreceive : e.receive setup a = m.withDispatcher e.dispatcher := after_eq e.dispatcher
    rw [hreceive]
    exact keyed
  | told m k event transport f after_eq keyed admits tally_eq =>
    have hreceive : e.receive setup a
        = (m.withDispatcher e.dispatcher).dispatch k event transport f := after_eq e.dispatcher
    rw [hreceive, registry_dispatch]
    exact keyed

/-! ## Stream connections -/

/-- The frames of a read are settled one after the other, until one of them closes the session. -/
lemma exists_arrivals_eq_handlePieces (setup : Setup) (k : SessionId)
    (pieces : List Assembler.Piece) (e : Engine) :
    ∃ arrivals : List Arrival,
      (handlePieces setup k pieces e).2 = arrivals.foldl (receive setup) e := by
  induction pieces generalizing e with
  | nil => exact ⟨[], rfl⟩
  | cons piece pieces ih =>
    obtain ⟨h, body⟩ := piece
    cases hsettled : e.settleFrame k .stream (setup.codec.decodeBody h body) with
    | mk goesOn e₁ =>
      have hfirst : e.receive setup (.body k h body) = e₁ := congrArg Prod.snd hsettled
      cases goesOn with
      | true =>
        obtain ⟨arrivals, hrest⟩ := ih e₁
        refine ⟨.body k h body :: arrivals, ?_⟩
        rw [handlePieces, hsettled, List.foldl_cons, hfirst]
        exact hrest
      | false =>
        refine ⟨[.body k h body], ?_⟩
        rw [handlePieces, hsettled, List.foldl_cons, hfirst]
        rfl

/-- A read from a stream connection is some arrivals, one after the other. -/
theorem exists_arrivals_eq_readStream (setup : Setup) (e : Engine) (k : SessionId) (a : Assembler)
    (data : Bytes) :
    ∃ arrivals : List Arrival,
      (e.readStream setup k a data).2 = arrivals.foldl (receive setup) e := by
  unfold readStream
  obtain ⟨arrivals, hpieces⟩ := exists_arrivals_eq_handlePieces setup k (a.push data).drain.1.1
    ((e.countRead k data.length).countBytes data.length)
  have hread : ∀ more, (Arrival.bytes k data.length :: more).foldl (receive setup) e
      = more.foldl (receive setup) ((e.countRead k data.length).countBytes data.length) :=
    fun _ => rfl
  generalize (a.push data).drain = drained at hpieces
  obtain ⟨⟨pieces, fault⟩, a'⟩ := drained
  dsimp only at hpieces ⊢
  generalize handlePieces setup k pieces _ = handled at hpieces
  obtain ⟨goesOn, e'⟩ := handled
  dsimp only at hpieces
  cases goesOn with
  | false => exact ⟨.bytes k data.length :: arrivals, hpieces.trans (hread arrivals).symm⟩
  | true =>
    cases fault with
    | none => exact ⟨.bytes k data.length :: arrivals, hpieces.trans (hread arrivals).symm⟩
    | some err =>
      refine ⟨.bytes k data.length :: (arrivals ++ [.refusal k err]), ?_⟩
      rw [hread, List.foldl_concat, ← hpieces]
      rfl

end Engine

end SessionServer
