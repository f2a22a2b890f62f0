/-
# What becomes of a datagram

Anybody can send a datagram, from any endpoint and with anything in it.  The reader does one of five
things with it.  It goes to the session that its endpoint belongs to; or it cannot be read; or its
token names a session that has a datagram channel, and the channel moves; or a channel is made for
it, and is given to the session that its token names or is closed again.

By none of these is a session closed or a packet thrown away, and sessions are found as before.  A
session may become active, and the one that the token names may get another second channel
(`Harmless`).  The second channel that it had is closed then, and this is told exactly: `Fares` says
what has become of a channel, and `Relisted` who is found by the name of one.

What arrives otherwise may also close a session (`Heeds`).

Main results: the five things that can become of a datagram (`reception`), and what they have in
common (`harmless_receiveDatagram`).
-/
import SessionServer.Proofs.Inbound.Occurrences
import SessionServer.Proofs.Registry.Holdings

namespace SessionServer

/-- The second session is the first one at a later time: it was not closed, no packet was thrown
away, and it is still on the channel on which it was opened. -/
structure Session.Withstands (s s' : Session) : Prop where
  state : s'.state = s.state ∨ s.state = .fresh ∧ s'.state = .active
  queue_eq : s'.queue = s.queue
  primary_eq : s'.primary = s.primary

namespace Session

variable {s s' : Session}

lemma Withstands.refl (s : Session) : s.Withstands s := ⟨.inl rfl, rfl, rfl⟩

end Session

namespace Registry

variable {r r' : Registry} {k : SessionId} {ref : ChannelRef}

/-- The second channel of a session. -/
def second? (r : Registry) (k : SessionId) : Option ChannelRef :=
  (r.session? k).bind (·.secondary)

/-- The name of the second channel of a session. -/
def secondName? (r : Registry) (k : SessionId) : Option ChannelId :=
  (r.second? k).bind r.channelId?

/-- The session had the channel as its second one, and has one of another name now, or none. -/
def Replaced (r r' : Registry) (k : SessionId) (ref : ChannelRef) : Prop :=
  r.second? k = some ref ∧ r'.secondName? k ≠ r.channelId? ref

lemma second?_eq (r : Registry) (k : SessionId) :
    r.second? k = (r.core k).bind (·.secondary) := by
  unfold second? core
  cases r.session? k <;> rfl

lemma second?_eq_of_core (h : r'.core k = r.core k) : r'.second? k = r.second? k := by
  rw [second?_eq, second?_eq, h]

lemma second?_of_core {s : Session} (hs : r.core k = some s) : r.second? k = s.secondary := by
  rw [second?_eq, hs, Option.bind_some]

lemma exists_core_of_second? (h : r.second? k = some ref) :
    ∃ s, r.core k = some s ∧ s.secondary = some ref := by
  rw [second?_eq] at h
  exact Option.bind_eq_some_iff.1 h

lemma exists_second?_of_name {name : ChannelId} (h : r.secondName? k = some name) :
    ∃ ref, r.second? k = some ref ∧ r.channelId? ref = some name :=
  Option.bind_eq_some_iff.1 h

lemma not_replaced (hsecond : r'.second? k = r.second? k)
    (hname : r'.channelId? ref = r.channelId? ref) : ¬ Replaced r r' k ref := by
  rintro ⟨href, hne⟩
  refine hne ?_
  rw [secondName?, hsecond, href]
  exact hname

lemma get?_of_live (h : r'.live = r.live) : r'.get? = r.get? := by
  funext k
  rw [get?, get?, h]

/-- The session of a token is live. -/
lemma get?_of_sessionForToken {resolve : Resolver} {token : Bytes}
    (h : r.sessionForToken resolve token = some k) : r.get? k = some k := by
  obtain ⟨player, -, hplayer⟩ := Option.bind_eq_some_iff.1 h
  obtain ⟨j, -, hj⟩ := Option.bind_eq_some_iff.1 hplayer
  unfold get? at hj ⊢
  split_ifs at hj with hlive
  obtain rfl := Option.some.inj hj
  exact if_pos hlive

end Registry

namespace Engine

open Registry (Stirs Within Replaced)

variable {e e' : Engine} {setup : Setup} {k : SessionId} {s : Session} {peer : Endpoint}
  {data token : Bytes} {name : ChannelId} {ref : ChannelRef} {f : Frame}

/-! ## What becomes of a datagram -/

lemma stirs_countRead (e : Engine) (k : SessionId) (n : ℕ) :
    Stirs e.registry (e.countRead k n).registry :=
  Registry.stirs_modifySession (f := (·.recordRead e.registry.clock n)) (fun _ => rfl) e.registry k

lemma stirs_acceptFrame (e : Engine) (k : SessionId) (transport : Transport) (f : Frame) :
    Stirs e.registry (e.acceptFrame k transport f).registry := by
  rw [acceptFrame_eq]
  split_ifs
  · exact .of_alike (.refl _) (.refl _)
  · rw [registry_dispatch]
    exact (Registry.stirs_activate _ k).after
      (Registry.alike_modifySession (f := (·.recordMessage)) (fun _ => rfl) e.registry k)
      ⟨rfl, rfl, rfl, rfl, rfl⟩

lemma stirs_receiveBound (setup : Setup) (e : Engine) (k : SessionId) (data : Bytes) :
    Stirs e.registry (e.receiveBound setup k data).registry := by
  unfold receiveBound
  cases setup.codec.decode data with
  | error err => exact stirs_countRead e k data.length
  | ok f =>
    exact (stirs_acceptFrame (e.countRead k data.length) k .datagram f).after
      (Registry.alike_modifySession (f := (·.recordRead e.registry.clock data.length))
        (fun _ => rfl) e.registry k) ⟨rfl, rfl, rfl, rfl, rfl⟩

/-- The engine after so many bytes came from an endpoint that belongs to no session, which is
forgotten if it was known. -/
def approached (e : Engine) (peer : Endpoint) (n : ℕ) : Engine := (e.countBytes n).forget peer

/-- What becomes of a datagram. -/
inductive Reception (setup : Setup) (e : Engine) (peer : Endpoint) (data : Bytes) (e' : Engine) :
    Prop
  /-- It goes to the session that the endpoint belongs to. -/
  | bound (k : SessionId) (reached : e.reached peer = some k)
      (after : e' = (e.countBytes data.length).receiveBound setup k data)
  | unreadable (reached : e.reached peer = none)
      (after : e' = (e.approached peer data.length).countDecodeError)
  /-- A channel that is listed by the name of the one that the session of the token has moves to the
  endpoint. -/
  | moved (f : Frame) (k : SessionId) (name : ChannelId) (old : Endpoint) (ref : ChannelRef)
      (reached : e.reached peer = none) (decode : setup.codec.decode data = .ok f)
      (owner : e.datagramOwner setup f.payload = some (k, name))
      (entry : (e.forget peer).peerNamed name = some (old, ref))
      (after : e' = (e.approached peer data.length).moved k old peer ref f.payload.length)
  /-- The session of the token gets a new channel. -/
  | joined (f : Frame) (k : SessionId) (reached : e.reached peer = none)
      (decode : setup.codec.decode data = .ok f)
      (success : ((e.approached peer data.length).attempted setup peer f.payload).1 = .success k)
      (after : e' = ((e.approached peer data.length).joined setup peer f.payload).dispatch k
        .secondaryAttached .datagram f)
  | refused (f : Frame) (reached : e.reached peer = none)
      (decode : setup.codec.decode data = .ok f)
      (failed : ∀ k,
        ((e.approached peer data.length).attempted setup peer f.payload).1 ≠ .success k)
      (after : e' = (e.approached peer data.length).refused setup peer f.payload)

lemma reception_of_attachPeer (hreached : e.reached peer = none)
    (hdecode : setup.codec.decode data = .ok f) :
    Reception setup e peer data ((e.approached peer data.length).attachPeer setup peer f) := by
  by_cases hout :
      ∃ k, ((e.approached peer data.length).attempted setup peer f.payload).1 = .success k
  · obtain ⟨k, hk⟩ := hout
    exact .joined f k hreached hdecode hk (attachPeer_of_success hk)
  · have hfailed := not_exists.1 hout
    exact .refused f hreached hdecode hfailed (attachPeer_of_failed hfailed)

/-- **What becomes of a datagram**: one of five things. -/
theorem reception (setup : Setup) (e : Engine) (peer : Endpoint) (data : Bytes) :
    Reception setup e peer data (e.receiveDatagram setup peer data) := by
  rw [receiveDatagram_eq]
  cases hreached : e.reached peer with
  | some k => exact .bound k hreached rfl
  | none =>
    dsimp only
    unfold receiveUnbound
    cases hdecode : setup.codec.decode data with
    | error err => exact .unreadable hreached rfl
    | ok f =>
      have howner : ((e.countBytes data.length).forget peer).datagramOwner setup f.payload
          = e.datagramOwner setup f.payload := rfl
      have hentry : ((e.countBytes data.length).forget peer).peerNamed
          = (e.forget peer).peerNamed := rfl
      dsimp only
      rw [rebind_eq, howner, hentry]
      cases hfound : e.datagramOwner setup f.payload with
      | none => exact reception_of_attachPeer hreached hdecode
      | some owner =>
        obtain ⟨k, name⟩ := owner
        dsimp only [Option.bind_some]
        cases hlisted : (e.forget peer).peerNamed name with
        | none => exact reception_of_attachPeer hreached hdecode
        | some entry =>
          obtain ⟨old, ref⟩ := entry
          exact .moved f k name old ref hreached hdecode hfound hlisted rfl

/-! ## What no datagram does -/

/-- The session that a datagram names by its token. -/
def addressee (setup : Setup) (e : Engine) (data : Bytes) : Option SessionId :=
  (setup.codec.decode data).toOption.bind fun f =>
    e.registry.sessionForToken setup.resolve f.payload

lemma addressee_of_decode (hdecode : setup.codec.decode data = .ok f) :
    e.addressee setup data = e.registry.sessionForToken setup.resolve f.payload := by
  rw [addressee, hdecode]
  rfl

/-- The session of a token has an open datagram channel. -/
lemma exists_of_datagramOwner (h : e.datagramOwner setup token = some (k, name)) :
    e.registry.sessionForToken setup.resolve token = some k ∧
      ∃ s ref c, e.registry.session? k = some s ∧ s.secondary = some ref ∧
        e.registry.channel? ref = some c ∧ c.transport = .datagram ∧ c.isOpen = true ∧
        c.id = name := by
  obtain ⟨id, hid, h⟩ := Option.bind_eq_some_iff.1 h
  obtain ⟨s, hs, h⟩ := Option.bind_eq_some_iff.1 h
  obtain ⟨c, hc, h⟩ := Option.bind_eq_some_iff.1 h
  obtain ⟨ref, href, hc⟩ := Option.bind_eq_some_iff.1 hc
  rw [Option.ite_none_right_eq_some, Bool.and_eq_true, decide_eq_true_eq] at h
  obtain ⟨⟨htransport, hopen⟩, hpair⟩ := h
  obtain ⟨rfl, rfl⟩ := Prod.mk.inj (Option.some.inj hpair)
  exact ⟨hid, s, ref, c, hs, href, hc, htransport, hopen, rfl⟩

lemma fades_setRemote (peer : Endpoint) (c : Channel) : c.Fades (setRemote peer c) := by
  cases c <;> exact ⟨rfl, rfl, rfl, id⟩

lemma mem_peers_of_peerNamed {old : Endpoint} (h : e.peerNamed name = some (old, ref)) :
    (old, ref) ∈ e.peers.entries ∧ e.registry.channelId? ref = some name := by
  unfold peerNamed at h
  exact ⟨List.mem_of_find?_eq_some h, by simpa using List.find?_some h⟩

/-- What has become of a channel, after something was done for one session at most.  It is closed
exactly if that session had it as its second one and has another one now. -/
inductive Fares (target : Option SessionId) (peer : Endpoint) (listed : List ChannelRef)
    (r r' : Registry) (ref : ChannelRef) (c : Channel) : Prop
  | closed (k : SessionId) (named : target = some k) (replaced : Replaced r r' k ref)
      (after : r'.channel? ref = some c.close)
  /-- A channel that is listed for an endpoint leads to another one now.  It has the name of the one
  that the session has. -/
  | moved (k : SessionId) (named : target = some k) (not_replaced : ¬ Replaced r r' k ref)
      (listed : ref ∈ listed) (name_eq : r.secondName? k = some c.id)
      (after : r'.channel? ref = some (setRemote peer c))
  | kept (not_replaced : ∀ k, target = some k → ¬ Replaced r r' k ref)
      (after : r'.channel? ref = some c)

/-- Who is found by the name of a second channel, after something was done for one session at
most. -/
inductive Relisted (target : Option SessionId) (r r' : Registry) (name : ChannelId) : Prop
  | kept (after : r'.lookupSecondary name = r.lookupSecondary name)
  | gained (k : SessionId) (named : target = some k) (name_eq : r'.secondName? k = some name)
      (after : r'.lookupSecondary name = some k)
  | lost (k : SessionId) (named : target = some k) (name_eq : r.secondName? k = some name)
      (after : r'.lookupSecondary name = none)

/-- Every session withstands what has happened, and is found as it was but for its second channel.
The second channel of one session at most is another one now, which is new, and nothing has happened
to channels but what has to do with the second one of this session.  No endpoint has got a channel
that was not listed and is not new. -/
structure Harmless (target : Option SessionId) (peer : Endpoint) (e e' : Engine) : Prop where
  core : ∀ k s, e.registry.core k = some s → ∃ s', e'.registry.core k = some s' ∧
    s.Withstands s' ∧ (s'.secondary = s.secondary ∨ target = some k ∧
      ∀ ref, s'.secondary = some ref →
        e.registry.channel? ref = none ∧ ∃ c, e'.registry.channel? ref = some c)
  absent : ∀ k, e.registry.core k = none → e'.registry.core k = none
  live : e'.registry.live = e.registry.live
  byPrimary : e'.registry.byPrimary = e.registry.byPrimary
  byPlayer : e'.registry.byPlayer = e.registry.byPlayer
  relisted : ∀ name, Relisted target e.registry e'.registry name
  fares : ∀ ref c, e.registry.channel? ref = some c →
    Fares target peer e.peers.values e.registry e'.registry ref c
  peers : ∀ ref ∈ e'.peers.values, ref ∈ e.peers.values ∨ e.registry.channel? ref = none

lemma relisted_of_listed {target : Option SessionId} {r r' : Registry}
    (h : Registry.Listed r r') (name : ChannelId) : Relisted target r r' name :=
  .kept (by rw [Registry.lookupSecondary, Registry.get?_of_live h.live, h.bySecondary]; rfl)

/-- Nothing happens to sessions. -/
lemma harmless_of_core {target : Option SessionId}
    (hcore : ∀ id, e'.registry.core id = e.registry.core id)
    (hlisted : Registry.Listed e.registry e'.registry)
    (hchannel : ∀ ref c, e.registry.channel? ref = some c → e'.registry.channel? ref = some c ∨
      e'.registry.channel? ref = some (setRemote peer c) ∧ ref ∈ e.peers.values ∧
        ∃ k, target = some k ∧ e.registry.secondName? k = some c.id)
    (hpeers : ∀ ref ∈ e'.peers.values, ref ∈ e.peers.values ∨ e.registry.channel? ref = none) :
    Harmless target peer e e' := by
  have hkept : ∀ ref c, e.registry.channel? ref = some c → ∀ k,
      ¬ Replaced e.registry e'.registry k ref := by
    intro ref c hc k
    refine Registry.not_replaced (Registry.second?_eq_of_core (hcore k)) ?_
    rw [Registry.channelId?_of_channel? hc]
    rcases hchannel ref c hc with hsame | ⟨hmoved, -⟩
    · exact Registry.channelId?_of_channel? hsame
    · exact (Registry.channelId?_of_channel? hmoved).trans
        (congrArg some (fades_setRemote peer c).id_eq)
  refine ⟨fun k s hs => ⟨s, (hcore k).trans hs, .refl s, .inl rfl⟩, fun k hk => (hcore k).trans hk,
    hlisted.live, hlisted.byPrimary, hlisted.byPlayer, relisted_of_listed hlisted,
    fun ref c hc => ?_, hpeers⟩
  rcases hchannel ref c hc with hsame | ⟨hmoved, hmem, k, htarget, hname⟩
  · exact .kept (fun k _ => hkept ref c hc k) hsame
  · exact .moved k htarget (hkept ref c hc k) hmem hname hmoved

lemma harmless_of_stirs {target : Option SessionId} (h : Stirs e.registry e'.registry)
    (hpeers : e'.peers.values ⊆ e.peers.values) : Harmless target peer e e' := by
  have hchannel : ∀ ref c, e.registry.channel? ref = some c →
      e'.registry.channel? ref = some c := fun ref c hc => (h.channel? ref).trans hc
  rcases h.core with hsame | ⟨k, s, hs, hfresh, hcore⟩
  · exact harmless_of_core hsame h.listed (fun ref c hc => .inl (hchannel ref c hc))
      fun ref href => .inl (hpeers href)
  · have hsecond : ∀ id, e'.registry.second? id = e.registry.second? id := by
      intro id
      rw [Registry.second?_eq, Registry.second?_eq, hcore]
      split_ifs with hid
      · rw [hid, hs]
        rfl
      · rfl
    refine ⟨fun id t ht => ?_, fun id hid => ?_, h.listed.live, h.listed.byPrimary,
      h.listed.byPlayer, relisted_of_listed h.listed, fun ref c hc => ?_,
      fun ref href => .inl (hpeers href)⟩
    · rw [hcore]
      split_ifs with hk
      · subst hk
        obtain rfl := Option.some.inj (hs.symm.trans ht)
        exact ⟨_, rfl, ⟨.inr ⟨hfresh, rfl⟩, rfl, rfl⟩, .inl rfl⟩
      · exact ⟨t, ht, .refl t, .inl rfl⟩
    · rw [hcore, if_neg, hid]
      rintro rfl
      exact Option.some_ne_none s (hs.symm.trans hid)
    · refine .kept (fun id _ => Registry.not_replaced (hsecond id) ?_) (hchannel ref c hc)
      rw [Registry.channelId?, Registry.channelId?, h.channel?]

lemma peers_dispatch (e : Engine) (k : SessionId) (event : RequestEvent) (transport : Transport)
    (f : Frame) : (e.dispatch k event transport f).peers = e.peers := by
  unfold dispatch
  dsimp only
  split <;> rfl

lemma peers_acceptFrame (e : Engine) (k : SessionId) (transport : Transport) (f : Frame) :
    (e.acceptFrame k transport f).peers = e.peers := by
  rw [acceptFrame_eq]
  split_ifs
  · rfl
  · exact peers_dispatch (e.greet k) k _ transport f

lemma peers_receiveBound (setup : Setup) (e : Engine) (k : SessionId) (data : Bytes) :
    (e.receiveBound setup k data).peers = e.peers := by
  unfold receiveBound
  cases setup.codec.decode data with
  | error err => rfl
  | ok f => exact peers_acceptFrame (e.countRead k data.length) k .datagram f

/-- The channel that moves is listed, and it has the name of the one that the session has. -/
lemma harmless_moved {old : Endpoint} {n : ℕ}
    (howner : e.datagramOwner setup token = some (k, name))
    (hentry : (e.forget peer).peerNamed name = some (old, ref)) :
    Harmless (e.registry.sessionForToken setup.resolve token) peer e
      ((e.approached peer n).moved k old peer ref token.length) := by
  obtain ⟨htoken, s, given, c, hs, hgiven, hc, -, -, rfl⟩ := exists_of_datagramOwner howner
  obtain ⟨hmem, hname⟩ := mem_peers_of_peerNamed hentry
  have hlisted : ref ∈ e.peers.values :=
    Index.values_erase_subset e.peers peer (List.mem_map_of_mem hmem)
  have hsecond : e.registry.secondName? k = some c.id := by
    rw [Registry.secondName?, Registry.second?, hs, Option.bind_some, hgiven, Option.bind_some,
      Registry.channelId?_of_channel? hc]
  refine harmless_of_core (fun id => ?_) ⟨rfl, rfl, rfl, rfl, rfl⟩ (fun other d hd => ?_)
    fun other hother => ?_
  · exact (Registry.alike_modifySession (f := (·.recordRead e.registry.clock token.length))
      (fun _ => rfl) (e.registry.modifyChannel ref (setRemote peer)) k).core id
  · have hafter : ((e.approached peer n).moved k old peer ref token.length).registry.channel? other
        = if other = ref then (e.registry.channel? other).map (setRemote peer)
          else e.registry.channel? other :=
      Registry.channel?_modifyChannel e.registry ref other (setRemote peer)
    rw [hd] at hafter
    by_cases hother : other = ref
    · have hsame : d.id = c.id := by
        have hdname := Registry.channelId?_of_channel? hd
        rw [hother] at hdname
        exact Option.some.inj (hdname.symm.trans hname)
      rw [if_pos hother] at hafter
      exact .inr ⟨hafter, hother ▸ hlisted, k, htoken, hsame ▸ hsecond⟩
    · exact .inl (hafter.trans (if_neg hother))
  · rcases Index.eq_or_mem_of_mem_values_insert hother with rfl | hold
    · exact .inl hlisted
    · exact .inl (Index.values_erase_subset _ peer (Index.values_erase_subset _ old hold))

lemma channel?_lent (hc : e.registry.channel? ref = some c) (setup : Setup) (peer : Endpoint) :
    (e.lent setup peer).registry.channel? ref = some c :=
  Registry.channel?_addChannel_of_some hc _

lemma ne_nextRef {c : Channel} (hc : e.registry.channel? ref = some c) : ref ≠ e.nextRef := by
  rintro rfl
  exact Option.some_ne_none c (hc.symm.trans (Registry.channel?_nextRef e.registry))

/-- What the attempt leaves behind if it fails is a closed channel. -/
lemma refused_registry (hr : e.registry.Keyed)
    (hfailed : ∀ k, (e.attempted setup peer token).1 ≠ .success k) :
    (e.refused setup peer token).registry
      = (e.lent setup peer).registry.closeChannel e.nextRef := by
  rcases Registry.attach_cases (r := (e.lent setup peer).registry) hr setup.resolve e.nextRef token
    with ⟨-, hclose⟩ | ⟨k, s, name, hout, -⟩
  · exact hclose
  · exact absurd hout (hfailed k)

/-- A session that is active gets the new channel. -/
lemma joins_of_success (hr : e.registry.Keyed)
    (hk : (e.attempted setup peer token).1 = .success k) :
    ∃ s, e.registry.core k = some s ∧ s.isActive = true ∧
      Registry.Joins k s e.nextRef e.channelIds.take.1 (e.lent setup peer).registry
        (e.refused setup peer token).registry := by
  rcases Registry.attach_cases (r := (e.lent setup peer).registry) hr setup.resolve e.nextRef token
    with ⟨hfailed, -⟩ | ⟨j, s, name, hout, hs, hactive, hname, hjoins⟩
  · exact absurd hk (hfailed k)
  · obtain rfl := AttachOutcome.success.inj (hk.symm.trans hout)
    have hnew : (e.lent setup peer).registry.channelId? e.nextRef = some e.channelIds.take.1 := by
      simp [Registry.channelId?, Registry.channel?, lent, nextRef, Registry.addChannel, Channel.id]
    obtain rfl := Option.some.inj (hname.symm.trans hnew)
    exact ⟨s, hs, hactive, hjoins⟩

lemma harmless_refused (hr : e.registry.Keyed) {target : Option SessionId} {n : ℕ}
    (hfailed : ∀ k, ((e.approached peer n).attempted setup peer token).1 ≠ .success k) :
    Harmless target peer e ((e.approached peer n).refused setup peer token) := by
  have hregistry := refused_registry (e := e.approached peer n) hr hfailed
  refine harmless_of_core (fun id => by rw [hregistry]; rfl) ?_ (fun ref c hc => .inl ?_)
    fun ref href => .inl (Index.values_erase_subset e.peers peer href)
  · rw [hregistry]
    exact ⟨rfl, rfl, rfl, rfl, rfl⟩
  · rw [hregistry, Registry.channel?_closeChannel_of_ne (ne_nextRef (e := e.approached peer n) hc)]
    exact channel?_lent (e := e.approached peer n) hc setup peer

section Joins

variable {r r' : Registry} {new : Channel}

/-- The session has the new channel. -/
lemma secondName?_of_joins
    (hjoins : Registry.Joins k s ⟨r.channels.size⟩ new.id (r.addChannel new).2 r') :
    r'.secondName? k = some new.id := by
  rw [Registry.secondName?, Registry.second?_of_core ((hjoins.core k).trans (if_pos rfl))]
  refine (hjoins.fades.channelId?_eq _).trans (Registry.channelId?_of_channel? (c := new) ?_)
  rw [Registry.channel?_addChannel, if_pos rfl]

lemma relisted_of_joins (hs : r.core k = some s) (hlive : r.get? k = some k)
    (hjoins : Registry.Joins k s ⟨r.channels.size⟩ new.id (r.addChannel new).2 r')
    (name : ChannelId) : Relisted (some k) r r' name := by
  have hlookup : r'.lookupSecondary name = (r'.bySecondary.find? name).bind r.get? := by
    rw [Registry.lookupSecondary, Registry.get?_of_live hjoins.live]
    rfl
  rw [hjoins.bySecondary] at hlookup
  split_ifs at hlookup with hnew hold
  · exact .gained k rfl (hnew ▸ secondName?_of_joins hjoins) (hlookup.trans hlive)
  · obtain ⟨old, hsecond, hold⟩ := Option.bind_eq_some_iff.1 hold
    refine .lost k rfl ?_ hlookup
    -- the new channel has another name, so that it is not the one that the session had
    rw [Registry.channelId?, Registry.channel?_addChannel] at hold
    split_ifs at hold
    · exact absurd (Option.some.inj hold).symm hnew
    · rw [Registry.secondName?, Registry.second?_of_core hs, hsecond]
      exact hold
  · exact .kept hlookup

lemma fares_of_joins {c : Channel} {listed : List ChannelRef} (hs : r.core k = some s)
    (hjoins : Registry.Joins k s ⟨r.channels.size⟩ new.id (r.addChannel new).2 r')
    (hc : r.channel? ref = some c) : Fares (some k) peer listed r r' ref c := by
  have hsecond : r.second? k = s.secondary := Registry.second?_of_core hs
  have hsecond' := secondName?_of_joins hjoins
  have hafter := hjoins.channel? ref
  rw [Registry.channelId?, Registry.channel?_addChannel_of_some hc] at hafter
  split_ifs at hafter with hold
  · refine .closed k rfl ⟨hsecond.trans hold.1, ?_⟩ hafter
    rw [hsecond', Registry.channelId?_of_channel? hc]
    exact hold.2.symm
  · refine .kept ?_ hafter
    rintro j hj ⟨hthere, hother⟩
    obtain rfl := Option.some.inj hj
    refine hold ⟨hsecond.symm.trans hthere, ?_⟩
    rw [hsecond', Registry.channelId?_of_channel? hc] at hother
    exact hother.symm

end Joins

/-- The session of the token has a new channel, and the one that it had is closed. -/
lemma harmless_joined (hr : e.registry.Keyed) {n : ℕ}
    (hk : ((e.approached peer n).attempted setup peer token).1 = .success k) :
    Harmless (e.registry.sessionForToken setup.resolve token) peer e
      ((e.approached peer n).joined setup peer token) := by
  obtain ⟨s, hs, -, hjoins⟩ := joins_of_success (e := e.approached peer n) hr hk
  have hcore : e.registry.core k = some s := hs
  have hafter : ∀ id, ((e.approached peer n).joined setup peer token).registry.core id
      = if id = k then some { s with secondary := some e.nextRef } else e.registry.core id :=
    hjoins.core
  let new : Channel :=
    .datagram { id := e.channelIds.take.1, remote := peer, link := setup.link }
  have hnew : Registry.Joins k s ⟨e.registry.channels.size⟩ new.id (e.registry.addChannel new).2
      ((e.approached peer n).joined setup peer token).registry := hjoins
  have htoken : e.registry.sessionForToken setup.resolve token = some k :=
    Registry.sessionForToken_of_attach (r := ((e.approached peer n).lent setup peer).registry) hr hk
  have hlive := Registry.get?_of_sessionForToken htoken
  refine ⟨fun id t ht => ?_, fun id hid => ?_, hjoins.live, hjoins.byPrimary, hjoins.byPlayer,
    htoken ▸ relisted_of_joins hcore hlive hnew,
    fun ref c hc => htoken ▸ fares_of_joins hcore hnew hc, fun ref href => ?_⟩
  · rw [hafter]
    split_ifs with hid
    · subst hid
      obtain rfl := Option.some.inj (hcore.symm.trans ht)
      refine ⟨_, rfl, ⟨.inl rfl, rfl, rfl⟩, .inr ⟨htoken, fun ref href => ?_⟩⟩
      obtain rfl := Option.some.inj href
      exact ⟨Registry.channel?_nextRef e.registry, hjoins.fades.exists_channel?_of_some
        ((Registry.channel?_addChannel e.registry _ _).trans (if_pos rfl))⟩
    · exact ⟨t, ht, .refl t, .inl rfl⟩
  · rw [hafter, if_neg]
    · exact hid
    · rintro rfl
      exact Option.some_ne_none s (hcore.symm.trans hid)
  · rcases Index.eq_or_mem_of_mem_values_insert href with rfl | hold
    · exact .inr (Registry.channel?_nextRef e.registry)
    · exact .inl (Index.values_erase_subset e.peers peer hold)

lemma Harmless.dispatch {target : Option SessionId} (h : Harmless target peer e e')
    (k : SessionId) (event : RequestEvent) (transport : Transport) (f : Frame) :
    Harmless target peer e (e'.dispatch k event transport f) := by
  obtain ⟨hcore, habsent, hlive, hprimary, hplayer, hrelisted, hfares, hpeers⟩ := h
  constructor <;> simpa only [registry_dispatch, peers_dispatch]

/-- What the five have in common. -/
lemma harmless_receiveDatagram (hr : e.registry.Keyed) (setup : Setup) (peer : Endpoint)
    (data : Bytes) :
    Harmless (e.addressee setup data) peer e (e.receiveDatagram setup peer data) := by
  cases reception setup e peer data with
  | bound k reached after =>
    rw [after]
    refine harmless_of_stirs (stirs_receiveBound setup (e.countBytes data.length) k data) ?_
    rw [peers_receiveBound]
    exact List.Subset.refl _
  | unreadable reached after =>
    rw [after]
    exact harmless_of_stirs (.of_alike (.refl _) (.refl _)) (Index.values_erase_subset e.peers peer)
  | moved f k name old ref reached decode owner entry after =>
    rw [after, addressee_of_decode decode]
    exact harmless_moved owner entry
  | joined f k reached decode success after =>
    rw [after, addressee_of_decode decode]
    exact (harmless_joined hr success).dispatch k _ _ f
  | refused f reached decode failed after =>
    rw [after]
    exact harmless_refused hr failed

/-! ## Other arrivals -/

/-- A session may have become active, and then one may have been closed, and endpoints are listed as
before. -/
structure Heeds (e e' : Engine) : Prop where
  registry : ∃ r, Stirs e.registry r ∧
    (e'.registry = r ∨ ∃ k reason, e'.registry = (r.close k reason).2)
  peers : e'.peers = e.peers

lemma heeds_of_stirs (h : Stirs e.registry e'.registry) (hpeers : e'.peers = e.peers) :
    Heeds e e' :=
  ⟨⟨_, h, .inl rfl⟩, hpeers⟩

lemma heeds_rejectFrame (e : Engine) (k : SessionId) (err : FrameError) :
    Heeds e (e.rejectFrame k err) :=
  ⟨⟨e.registry, .of_alike (.refl _) (.refl _), .inr ⟨k, _, rfl⟩⟩, rfl⟩

lemma heeds_settleFrame (e : Engine) (k : SessionId) (transport : Transport)
    (result : Except FrameError Frame) : Heeds e (e.settleFrame k transport result).2 := by
  cases result with
  | ok f =>
    exact heeds_of_stirs (stirs_acceptFrame e k transport f) (peers_acceptFrame e k transport f)
  | error err => exact heeds_rejectFrame e k err

/-- The bytes of a read are counted before. -/
lemma Heeds.of_counted {n : ℕ} (h : Heeds ((e.countRead k n).countBytes n) e') :
    Heeds e e' := by
  obtain ⟨r, hstirs, hafter⟩ := h.registry
  refine ⟨⟨r, hstirs.after ?_ ⟨rfl, rfl, rfl, rfl, rfl⟩, hafter⟩, h.peers⟩
  exact Registry.alike_modifySession (f := (·.recordRead e.registry.clock n)) (fun _ => rfl)
    e.registry k

lemma Heeds.within (h : Heeds e e') : Within e.registry e'.registry := by
  obtain ⟨r, hstirs, hsame | ⟨k, reason, hclosed⟩⟩ := h.registry
  · exact hsame ▸ hstirs.within
  · exact hclosed ▸ hstirs.within.trans (Registry.within_close r k reason)

/-- What arrives otherwise than as a datagram makes a session active or closes one. -/
lemma heeds_receive {a : Arrival} (ha : ∀ peer data, a ≠ .datagram peer data) (setup : Setup)
    (e : Engine) : Heeds e (e.receive setup a) := by
  cases a with
  | bytes k n => exact heeds_of_stirs (stirs_countRead e k n) rfl
  | body k h data => exact heeds_settleFrame e k .stream _
  | refusal k err => exact heeds_rejectFrame e k err
  | text k data => exact (heeds_settleFrame _ k .textSocket _).of_counted
  | delivery channel data =>
    show Heeds e (e.deliverSecondary setup channel data).2
    unfold deliverSecondary
    cases e.registry.lookupSecondary channel with
    | none => exact heeds_of_stirs (.of_alike (.refl _) (.refl _)) rfl
    | some k => exact (heeds_settleFrame _ k _ _).of_counted
  | datagram peer data => exact absurd rfl (ha peer data)

/-! ## Sessions are kept under their names -/

lemma keyed_occur (hr : e.registry.Keyed) (setup : Setup) (o : Occurrence) :
    (e.occur setup o).registry.Keyed := by
  cases o with
  | operation op =>
    rcases operate_cases hr setup op with
      ⟨dues, hchain, -⟩ | ⟨primary, rfl⟩ | ⟨ref, token, rfl⟩ | ⟨ref, change, rfl⟩
    · have hkeyed : ∀ {dues e e'}, Chain dues e e' → e.registry.Keyed → e'.registry.Keyed := by
        intro dues e e' h
        induction h with
        | nil => exact id
        | cons htends _ ih => exact fun hr => ih (htends.keyed hr)
      exact hkeyed hchain hr
    · exact Registry.keyed_act hr setup.resolve (.create primary)
    · exact Registry.keyed_act hr setup.resolve (.attach ref token)
    · exact hr
  | arrival a => exact keyed_receive hr setup a
  | _ => exact hr

lemma keyed_undergo {queueCapacity shards : ℕ} {config : DispatcherConfig} {os : List Occurrence}
    (setup : Setup) :
    ((Engine.start queueCapacity shards config).undergo setup os).registry.Keyed := by
  induction os using List.reverseRecOn with
  | nil => exact nofun
  | append_singleton os o ih =>
    rw [undergo_concat]
    exact keyed_occur ih setup o

end Engine

end SessionServer
