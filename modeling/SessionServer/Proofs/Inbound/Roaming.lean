/-
# Endpoints that move

A client that changes its network sends its token again, from another endpoint, and its channel
moves there.  It is the same channel, of the same session, so that answers go to the new endpoint at
once, and the old one is nobody's until a token comes from there.

That this works at any time rests on `Routed`, which is kept by all that happens as long as the
application does not add the channel of one session to another one (`Routed.occur`).  The same step
lemma tells which endpoints reach which sessions: those that did before, or that named them.

Main result: the list of the reader, the channels and the sessions agree at all times, frames go
where the list says, and a channel that moves takes its session along (`routes_agree`).
-/
import SessionServer.Proofs.Inbound.Routes

namespace SessionServer

/-- The occurrence is one of those that concern the channels that sessions have: what is done to the
registry, what arrives, and what happens besides; packets are not among them. -/
def Occurrence.routes : Occurrence → Bool
  | .operation (.registry _) => true
  | .operation _ => false
  | _ => true

namespace Engine

open Registry (Stirs)

variable {e e' : Engine} {setup : Setup} {k : SessionId} {peer : Endpoint} {data token : Bytes}
  {ref : ChannelRef} {f : Frame} {brought : List ChannelRef} {n : ℕ}

/-! ## Requests -/

/-- What an arrival does to sessions and to the list does not depend on the dispatcher. -/
lemma receive_withDispatcher (hr : e.registry.Keyed) (setup : Setup) (a : Arrival)
    (d : Dispatcher Request) :
    ((e.withDispatcher d).receive setup a).registry = (e.receive setup a).registry ∧
      ((e.withDispatcher d).receive setup a).peers = (e.receive setup a).peers := by
  cases heard_receive hr setup a with
  | mute m calls after_eq keyed tally_eq =>
    have hsame : e.receive setup a = m.withDispatcher e.dispatcher := after_eq e.dispatcher
    have hother : (e.withDispatcher d).receive setup a = m.withDispatcher d := after_eq d
    rw [hsame, hother]
    exact ⟨rfl, rfl⟩
  | told m k event transport f after_eq keyed admits tally_eq =>
    have hsame : e.receive setup a
        = (m.withDispatcher e.dispatcher).dispatch k event transport f := after_eq e.dispatcher
    have hother : (e.withDispatcher d).receive setup a
        = (m.withDispatcher d).dispatch k event transport f := after_eq d
    rw [hsame, hother, registry_dispatch, registry_dispatch, peers_dispatch, peers_dispatch]
    exact ⟨rfl, rfl⟩

section Empty

variable {q : Request}

lemma eq_request_of_waiting (he : e.dispatcher = .ofConfig {}) {event : RequestEvent}
    {transport : Transport}
    (hq : q ∈ (e.dispatch k event transport f).dispatcher.waiting.map (·.request)) :
    q = e.request k event transport f := by
  have hsame : e = e.withDispatcher (.ofConfig {}) := by rw [withDispatcher, ← he]
  rw [hsame, waiting_dispatch] at hq
  exact List.mem_singleton.1 hq

lemma not_waiting (he : e.dispatcher = .ofConfig {}) :
    q ∉ e.dispatcher.waiting.map (·.request) := by
  rw [he]
  exact List.not_mem_nil

lemma session_of_receiveBound (he : e.dispatcher = .ofConfig {})
    (hq : q ∈ (e.receiveBound setup k data).dispatcher.waiting.map (·.request)) :
    q.session = k := by
  unfold receiveBound at hq
  cases hdecode : setup.codec.decode data with
  | error err =>
    rw [hdecode] at hq
    exact absurd hq (not_waiting (e := (e.countRead k data.length).countDecodeError) he)
  | ok f =>
    rw [hdecode] at hq
    dsimp only at hq
    rw [acceptFrame_eq] at hq
    split_ifs at hq
    · exact absurd hq (not_waiting (e := e.countRead k data.length) he)
    · rw [eq_request_of_waiting (e := (e.countRead k data.length).greet k) he hq]
      rfl

/-- What waits after a datagram, if nothing did before, is for the session to which the endpoint
belongs, or it tells the session that the datagram names that a channel was added, and then the
endpoint is listed with that channel. -/
lemma waiting_receiveDatagram (hr : e.registry.Keyed) (he : e.dispatcher = .ofConfig {})
    (hq : q ∈ (e.receiveDatagram setup peer data).dispatcher.waiting.map (·.request)) :
    (e.reached peer = some q.session ∧
        Stirs e.registry (e.receiveDatagram setup peer data).registry ∧
        (e.receiveDatagram setup peer data).peers = e.peers) ∨
      (q.event = .secondaryAttached ∧ e.addressee setup data = some q.session ∧
        ∃ ref, (e.receiveDatagram setup peer data).peers.find? peer = some ref ∧
          (e.receiveDatagram setup peer data).registry.Holds q.session ref) := by
  cases reception setup e peer data with
  | bound k reached after =>
    rw [after] at hq ⊢
    refine .inl ⟨?_, stirs_receiveBound setup (e.countBytes data.length) k data,
      peers_receiveBound setup _ k data⟩
    rw [reached, session_of_receiveBound (e := e.countBytes data.length) he hq]
  | joined f k reached decode success after =>
    rw [after] at hq ⊢
    have hrequest := eq_request_of_waiting
      (e := (e.approached peer data.length).joined setup peer f.payload) he hq
    refine .inr ⟨hrequest ▸ rfl, ?_, e.nextRef, ?_, ?_⟩
    · rw [addressee_of_decode decode, hrequest]
      exact Registry.sessionForToken_of_attach
        (r := ((e.approached peer data.length).lent setup peer).registry) hr success
    · rw [peers_dispatch]
      exact (Index.find?_insert _ peer peer _).trans (if_pos rfl)
    · rw [registry_dispatch, hrequest]
      exact holds_of_success (e := e.approached peer data.length) hr success
  | unreadable reached after =>
    rw [after] at hq
    exact absurd hq (not_waiting (e := (e.approached peer data.length).countDecodeError) he)
  | moved f k name old ref reached decode owner entry after =>
    rw [after] at hq
    exact absurd hq (not_waiting
      (e := (e.approached peer data.length).moved k old peer ref f.payload.length) he)
  | refused f reached decode failed after =>
    rw [after] at hq
    exact absurd hq (not_waiting
      (e := (e.approached peer data.length).refused setup peer f.payload) he)

end Empty

namespace Routed

/-- Requests of datagrams are for the session that holds the channel listed for the endpoint.  The
one that tells that the channel was added is for the session that the datagram names, and this holds
the channel only afterwards. -/
lemma holds_of_mem_made (h : e.Routed brought) {q : Request}
    (hq : q ∈ e.made setup (.datagram peer data)) :
    (e.reached peer = some q.session ∨
        q.event = .secondaryAttached ∧ e.addressee setup data = some q.session) ∧
      ∃ ref, (e.receiveDatagram setup peer data).peers.find? peer = some ref ∧
        (e.receiveDatagram setup peer data).registry.Holds q.session ref := by
  obtain ⟨hregistry, hpeers⟩ :=
    receive_withDispatcher h.settled.keyed setup (.datagram peer data) (.ofConfig {})
  simp only [receive] at hregistry hpeers
  rw [← hregistry, ← hpeers]
  rcases waiting_receiveDatagram (e := e.withDispatcher (.ofConfig {})) h.settled.keyed rfl hq with
    ⟨hreached, hstirs, hsame⟩ | ⟨hevent, hnamed, hlisted⟩
  · obtain ⟨ref, -, href, -, -, hholds⟩ := h.reached_iff.1 hreached
    exact ⟨.inl hreached, ref, hsame ▸ href, hstirs.holds_iff.2 hholds⟩
  · exact ⟨.inr ⟨hevent, hnamed⟩, hlisted⟩

end Routed

/-! ## Tokens -/

/-- The datagram channel of a session leads to an endpoint now, and not any more to the one where it
led before. -/
structure MovedTo (e : Engine) (k : SessionId) (ref : ChannelRef) (c : DatagramChannel)
    (peer : Endpoint) : Prop where
  /-- The session still has the channel, and what it sends as datagrams goes there. -/
  chosen : ∃ s, e.registry.session? k = some s ∧ s.isClosed = false ∧ s.secondary = some ref ∧
    e.registry.channelFor s .datagram = some ref
  /-- The channel is the one that it was, but for where it leads. -/
  channel? : e.registry.channel? ref = some (.datagram (c.setRemote peer))
  writes : ∀ data n c', (c.setRemote peer).tryWrite data = (.ok n, c') →
    c'.id = c.id ∧ c'.sent = c.sent ++ [(peer, data)]
  listed : e.peers.find? peer = some ref
  reached : (e.boundSession peer).1 = some k
  left : e.peers.find? c.remote = none ∧ (e.boundSession c.remote).1 = none

lemma boundSession_fst (e : Engine) (peer : Endpoint) : (e.boundSession peer).1 = e.reached peer :=
  congrArg Prod.fst (boundSession_eq e peer)

section Token

variable {d : DatagramChannel}

namespace Routed

/-- The channel of a session is found in the list by its name, unless the reader has just heard from
the endpoint where it is. -/
lemma peerNamed_eq (h : e.Routed brought) (hlisted : e.peers.find? d.remote = some ref)
    (hc : e.registry.channel? ref = some (.datagram d)) (hne : d.remote ≠ peer) :
    (e.forget peer).peerNamed d.id = some (d.remote, ref) := by
  have hname : e.registry.channelId? ref = some d.id := Registry.channelId?_of_channel? hc
  have hmem : (d.remote, ref) ∈ (e.forget peer).peers.entries :=
    Index.mem_entries_erase.2 ⟨Index.mem_entries_of_find? hlisted, hne⟩
  cases hfound : (e.forget peer).peerNamed d.id with
  | none =>
    have hnone := List.find?_eq_none.1 hfound (d.remote, ref) hmem
    exact absurd (decide_eq_true hname) hnone
  | some entry =>
    obtain ⟨old, ref'⟩ := entry
    obtain ⟨hentry, hname'⟩ := mem_peers_of_peerNamed hfound
    obtain rfl := h.settled.distinct ref' ref d.id hname' hname
    have hremote := h.remote old ref' (Index.mem_entries_erase.1 hentry).1
    rw [Registry.remoteAt, hc] at hremote
    exact congrArg (fun p => some (p, ref')) (Option.some.inj hremote).symm

lemma datagramOwner_eq (htoken : e.registry.sessionForToken setup.resolve token = some k)
    (hk : e.registry.Holds k ref) (hc : e.registry.channel? ref = some (.datagram d))
    (hopen : d.isOpen = true) : e.datagramOwner setup token = some (k, d.id) := by
  obtain ⟨s, hs, -, href⟩ := hk
  obtain ⟨t, ht, rfl⟩ := Registry.core_eq_some_iff.1 hs
  have hsecond : t.secondary.bind e.registry.channel? = some (.datagram d) := by
    rw [show t.secondary = some ref from href, Option.bind_some, hc]
  have htest : (decide ((Channel.datagram d).transport = .datagram) && (Channel.datagram d).isOpen)
      = true := hopen
  simp only [datagramOwner, htoken, ht, hsecond, Option.bind_eq_bind, Option.bind_some, htest,
    if_true]
  rfl

lemma find?_remote (h : e.Routed brought) (href : ref ∉ brought)
    (hc : e.registry.channel? ref = some (.datagram d)) (hopen : d.isOpen = true) :
    e.peers.find? d.remote = some ref := by
  refine h.find?_of_mem_values (h.listed ref _ href hc hopen).1 ?_
  rw [Registry.remoteAt, hc]
  rfl

lemma remote_ne (h : e.Routed brought) (hreached : e.reached peer = none)
    (hk : e.registry.Holds k ref) (href : ref ∉ brought)
    (hc : e.registry.channel? ref = some (.datagram d)) (hopen : d.isOpen = true) :
    d.remote ≠ peer := by
  rintro rfl
  have hbelongs := h.reached_iff.2 ⟨ref, _, h.find?_remote href hc hopen, hc, hopen, hk⟩
  exact Option.some_ne_none k (hbelongs.symm.trans hreached)

lemma receiveDatagram_of_token (h : e.Routed brought) (hreached : e.reached peer = none)
    (hdecode : setup.codec.decode data = .ok f)
    (htoken : e.registry.sessionForToken setup.resolve f.payload = some k)
    (hk : e.registry.Holds k ref) (href : ref ∉ brought)
    (hc : e.registry.channel? ref = some (.datagram d)) (hopen : d.isOpen = true) :
    e.receiveDatagram setup peer data
      = (e.approached peer data.length).moved k d.remote peer ref f.payload.length := by
  have howner : (e.approached peer data.length).datagramOwner setup f.payload = some (k, d.id) :=
    datagramOwner_eq htoken hk hc hopen
  have hentry : (e.approached peer data.length).peerNamed d.id = some (d.remote, ref) :=
    h.peerNamed_eq (h.find?_remote href hc hopen) hc (h.remote_ne hreached hk href hc hopen)
  rw [receiveDatagram_eq, hreached]
  show (e.approached peer data.length).receiveUnbound setup peer data = _
  rw [receiveUnbound, hdecode]
  dsimp only
  rw [rebind_eq, howner, Option.bind_some, hentry]
  rfl

/-- A token from an endpoint that belongs to no session moves the channel of its session there. -/
lemma movedTo_of_token (h : e.Routed brought) (hreached : e.reached peer = none)
    (hdecode : setup.codec.decode data = .ok f)
    (htoken : e.registry.sessionForToken setup.resolve f.payload = some k)
    (hk : e.registry.Holds k ref) (href : ref ∉ brought)
    (hc : e.registry.channel? ref = some (.datagram d)) (hopen : d.isOpen = true) :
    (e.receiveDatagram setup peer data).MovedTo k ref d peer := by
  have hlisted := h.find?_remote href hc hopen
  have hne := h.remote_ne hreached hk href hc hopen
  rw [h.receiveDatagram_of_token hreached hdecode htoken hk href hc hopen]
  generalize hm : (e.approached peer data.length).moved k d.remote peer ref f.payload.length = m
  have hentry : (d.remote, ref) ∈ (e.approached peer data.length).peers.entries :=
    Index.mem_entries_erase.2 ⟨Index.mem_entries_of_find? hlisted, hne⟩
  have hrouted : m.Routed brought :=
    hm ▸ (h.approached hreached data.length).moved (find?_peers_approached e peer _) hentry k _
  have hfind : ∀ p, m.peers.find? p = if p = peer then some ref else if p = d.remote then none
      else (e.approached peer data.length).peers.find? p :=
    fun p => hm ▸ find?_peers_moved (e.approached peer data.length) k d.remote peer ref _ p
  have hchannel : m.registry.channel? ref = some (.datagram (d.setRemote peer)) := by
    rw [← hm, channel?_moved, if_pos rfl]
    exact congrArg (Option.map _) hc
  have hpeer : m.peers.find? peer = some ref := (hfind peer).trans (if_pos rfl)
  have hold : m.peers.find? d.remote = none :=
    (hfind d.remote).trans ((if_neg hne).trans (if_pos rfl))
  have hholds : m.registry.Holds k ref :=
    hm ▸ (holds_moved (e.approached peer data.length) k d.remote peer ref _ k ref).2 hk
  refine ⟨?_, hchannel, fun data n c' hsent => ?_, hpeer, ?_, hold, ?_⟩
  · obtain ⟨s, hs, hsopen, hsecond⟩ := hholds
    have hcarries : m.registry.carries .datagram ref = true := by
      rw [Registry.carries, hchannel]
      rfl
    have hchosen := hrouted.settled.channelFor_datagram hs hsecond hcarries
    obtain ⟨t, ht, rfl⟩ := Registry.core_eq_some_iff.1 hs
    exact ⟨t, ht, hsopen, hsecond, hchosen⟩
  · obtain ⟨-, rfl⟩ := DatagramChannel.tryWrite_ok hsent
    exact ⟨rfl, rfl⟩
  · rw [boundSession_fst]
    exact hrouted.reached_iff.2 ⟨ref, _, hpeer, hchannel, hopen, hholds⟩
  · rw [boundSession_fst, reached, hold, Option.bind_none]

end Routed

end Token

/-! ## All that happens -/

/-- The channels that an occurrence brings from outside. -/
def brings (e : Engine) : Occurrence → List ChannelRef
  | .channel _ => [e.nextRef]
  | _ => []

/-- The occurrence opens a session on no channel, or adds to one session the second channel of
another. -/
def abuses (setup : Setup) (e : Engine) : Occurrence → Bool
  | .operation (.registry (.create ref)) => (e.registry.channel? ref).isNone
  | .operation (.registry d) => e.registry.takes setup.resolve d
  | _ => false

/-- The occurrence concerns channels, which it does not abuse, and leaves them with names of their
own. -/
def Permits (setup : Setup) (e : Engine) (o : Occurrence) : Prop :=
  o.routes = true ∧ e.abuses setup o = false ∧ (e.occur setup o).registry.names.Nodup

instance (setup : Setup) (e : Engine) (o : Occurrence) : Decidable (e.Permits setup o) :=
  inferInstanceAs (Decidable (_ ∧ _ ∧ _))

/-- The occurrence is a datagram from an endpoint that names a session. -/
def recalls (setup : Setup) (peer : Endpoint) (k : SessionId) (e : Engine) : Occurrence → Bool
  | .arrival (.datagram source data) => decide (source = peer ∧ e.addressee setup data = some k)
  | _ => false

/-- Endpoints reach the sessions that they reached before, and at most those others that they may
reach. -/
structure Continues (may : Endpoint → SessionId → Prop) (brought : List ChannelRef)
    (e e' : Engine) : Prop where
  routed : e'.Routed brought
  reached : ∀ peer k, e'.reached peer = some k → e.reached peer = some k ∨ may peer k

lemma Heeds.upholds (h : Heeds e e') (hr : e.registry.Settled) :
    e'.registry.Settled ∧ Upholds e e' := by
  obtain ⟨r, hstirs, hafter⟩ := h.registry
  have hbetween : r.Settled := hr.of_stirs hstirs
  have hfirst : Upholds e { e with registry := r } := upholds_of_stirs hstirs rfl
  rcases hafter with hsame | ⟨k, reason, hclosed⟩
  · exact ⟨hsame ▸ hbetween, upholds_of_stirs (hsame ▸ hstirs) h.peers⟩
  · have hact : e'.registry = r.act (fun _ => none) (.close k reason) := hclosed
    have hsettled : (r.act (fun _ => none) (.close k reason)).Settled :=
      hbetween.act (d := .close k reason) nofun nofun rfl
    exact ⟨hact ▸ hsettled, hfirst.trans
      (upholds_act (e := { e with registry := r }) hbetween hact h.peers nofun)⟩

namespace Routed

variable {may : Endpoint → SessionId → Prop}

lemma continues_of_upholds (h : e.Routed brought) (hsettled : e'.registry.Settled)
    (hup : Upholds e e') : Continues may brought e e' :=
  have hrouted := h.of_upholds hsettled hup
  ⟨hrouted, fun _ _ hk => .inl (h.reached_of_upholds hrouted hup hk)⟩

lemma continues_of_stirs (h : e.Routed brought) (hstirs : Stirs e.registry e'.registry)
    (hpeers : e'.peers = e.peers) : Continues may brought e e' :=
  h.continues_of_upholds (h.settled.of_stirs hstirs) (upholds_of_stirs hstirs hpeers)

lemma continues_of_deed (h : e.Routed brought) (hn : e.Named n) {d : Registry.Deed}
    (hroom : d.opens = true → n + 1 < UInt64.size)
    (habuses : e.abuses setup (.operation (.registry d)) = false) :
    Continues may brought e (e.occur setup (.operation (.registry d))) := by
  have hfresh : d.opens = true → e.registry.core ⟨e.registry.nextId⟩ = none :=
    fun hopens => hn.numbered.fresh (hroom hopens)
  have hact : (e.occur setup (.operation (.registry d))).registry
      = e.registry.act setup.resolve d := rfl
  refine h.continues_of_upholds ?_ (upholds_act h.settled hact rfl hfresh)
  refine h.settled.act (fun primary hd => ?_) hfresh ?_
  · subst hd
    exact Option.isSome_iff_exists.1 (by simpa [abuses] using habuses)
  · cases d with
    | create primary => rfl
    | _ => exact habuses

lemma continues_of_channel (h : e.Routed brought) {new : Channel}
    (hdistinct : (e.occur setup (.channel new)).registry.Distinct) :
    Continues may (brought ++ [e.nextRef]) e (e.occur setup (.channel new)) := by
  have hregistry : (e.occur setup (.channel new)).registry = (e.registry.addChannel new).2 := rfl
  have hrouted : (e.occur setup (.channel new)).Routed (brought ++ [e.nextRef]) :=
    h.addChannel hregistry rfl hdistinct
  exact ⟨hrouted, fun peer k hk => .inl (h.reached_of_addChannel hrouted hregistry rfl hk)⟩

lemma continues_of_prune (h : e.Routed brought) : Continues may brought e e.prunePeers.2 := by
  have hregistry : e.prunePeers.2.registry = e.registry := rfl
  refine ⟨h.prunePeers, fun peer k hk => .inl (reached_of_peers hregistry (fun ref href => ?_) hk)⟩
  have hmem := (List.mem_filter.1 (Index.mem_entries_of_find? href)).1
  exact Index.find?_of_mem_entries h.nodup hmem

/-- **What one occurrence does**: list, channels and sessions agree as before, and an endpoint that
did not reach a session does so only after it has named the session. -/
lemma occur (h : e.Routed brought) (hn : e.Named n) (setup : Setup) {o : Occurrence}
    (hroom : o.opens = true → n + 1 < UInt64.size) (hpermits : e.Permits setup o) :
    Continues (fun peer k => e.recalls setup peer k o = true) (brought ++ e.brings o) e
      (e.occur setup o) := by
  obtain ⟨hroutes, habuses, hnames⟩ := hpermits
  have hdistinct := Registry.distinct_of_nodup hnames
  cases o with
  | channel new => exact h.continues_of_channel hdistinct
  | operation op =>
    simp only [brings, List.append_nil]
    cases op with
    | registry d => exact h.continues_of_deed hn hroom habuses
    | _ => exact absurd hroutes Bool.false_ne_true
  | arrival a =>
    simp only [brings, List.append_nil]
    by_cases ha : ∃ peer data, a = .datagram peer data
    · obtain ⟨peer, data, rfl⟩ := ha
      refine ⟨h.receiveDatagram setup peer data hdistinct, fun old j hj => ?_⟩
      refine (h.reached_of_receiveDatagram hdistinct hj).imp_right fun hnamed => ?_
      exact decide_eq_true ⟨hnamed.1.symm, hnamed.2⟩
    · have ha : ∀ peer data, a ≠ .datagram peer data := fun peer data heq => ha ⟨peer, data, heq⟩
      obtain ⟨hsettled, hup⟩ := (heeds_receive ha setup e).upholds h.settled
      exact h.continues_of_upholds hsettled hup
  | prune =>
    simp only [brings, List.append_nil]
    exact h.continues_of_prune
  | _ =>
    simp only [brings, List.append_nil]
    exact h.continues_of_stirs ⟨.inl fun _ => rfl, ⟨rfl, rfl, rfl, rfl, rfl⟩, fun _ => rfl⟩ rfl

end Routed

/-- Whatever the reader lists is so, and whatever is so is listed. -/
structure Agrees (setup : Setup) (brought : List ChannelRef) (e : Engine) : Prop where
  remote : ∀ peer ref, (peer, ref) ∈ e.peers.entries → e.registry.remoteAt ref = some peer
  nodup : e.peers.values.Nodup
  /-- The second channel of an open session, if it is open and was not brought from outside, is
  listed for the endpoint where it leads. -/
  listed : ∀ k ref c, e.registry.Holds k ref → ref ∉ brought → e.registry.channel? ref = some c →
    c.isOpen = true → ∃ peer, e.registry.remoteAt ref = some peer ∧ e.peers.find? peer = some ref
  /-- What is made of a datagram is for the session whose second channel is listed for the endpoint,
  or for the one that the datagram names, which then has such a channel. -/
  delivers : ∀ peer data, ∀ q ∈ e.made setup (.datagram peer data),
    ((∃ ref, e.peers.find? peer = some ref ∧ e.registry.Holds q.session ref) ∨
        q.event = .secondaryAttached ∧ e.addressee setup data = some q.session) ∧
      ∃ ref, (e.receiveDatagram setup peer data).peers.find? peer = some ref ∧
        (e.receiveDatagram setup peer data).registry.Holds q.session ref

lemma Routed.agrees (h : e.Routed brought) (setup : Setup) : e.Agrees setup brought where
  remote := h.remote
  nodup := h.nodup_values
  listed k ref c _ href hc hopen := by
    have hlisted := (h.listed ref c href hc hopen).1
    obtain ⟨peer, hpeer⟩ := Index.mem_values_iff.1 hlisted
    exact ⟨peer, h.remote peer ref hpeer, h.find?_of_mem_values hlisted (h.remote peer ref hpeer)⟩
  delivers peer data q hq := by
    obtain ⟨hbefore, hafter⟩ := h.holds_of_mem_made hq
    refine ⟨hbefore.imp_left fun hreached => ?_, hafter⟩
    obtain ⟨ref, -, href, -, -, hholds⟩ := h.reached_iff.1 hreached
    exact ⟨ref, href, hholds⟩

/-- An endpoint does not belong to a session, and the session is told of nothing that comes from
there, unless it is named by it. -/
structure Misses (setup : Setup) (e : Engine) (peer : Endpoint) (k : SessionId) : Prop where
  reached : (e.boundSession peer).1 ≠ some k
  made : ∀ data, e.addressee setup data ≠ some k →
    ∀ q ∈ e.made setup (.datagram peer data), q.session ≠ k

lemma Routed.misses (h : e.Routed brought) (hnot : e.reached peer ≠ some k) :
    e.Misses setup peer k where
  reached := boundSession_fst e peer ▸ hnot
  made data hnamed q hq := by
    rintro rfl
    rcases (h.holds_of_mem_made hq).1 with hreached | ⟨-, hnames⟩
    · exact hnot hreached
    · exact hnamed hnames

section Run

variable {queueCapacity shards : ℕ} {config : DispatcherConfig} {os after : List Occurrence}

lemma undergo_append (setup : Setup) (e : Engine) (os after : List Occurrence) :
    e.undergo setup (os ++ after) = (e.undergo setup os).undergo setup after :=
  List.foldl_append

lemma routed_undergo (setup : Setup)
    (hpermits : EachStep (occur setup) (Permits setup)
      (Engine.start queueCapacity shards config) os)
    (hcount : os.countP Occurrence.opens < UInt64.size) :
    let start := Engine.start queueCapacity shards config
    (start.undergo setup os).Routed (gather (occur setup) brings start os) := by
  intro start
  induction os using List.reverseRecOn with
  | nil => exact routed_start queueCapacity shards config
  | append_singleton os o ih =>
    obtain ⟨hbefore, hroom⟩ := room_of_opens hcount
    obtain ⟨hpermits, hlast⟩ := eachStep_concat.1 hpermits
    rw [undergo_concat, gather_concat]
    exact ((ih hpermits hbefore).occur (named_undergo setup queueCapacity shards config hbefore)
      setup hroom hlast).routed

/-- An endpoint that reaches a session no more does not do so again, unless it names the session. -/
lemma not_reached_undergo (setup : Setup)
    (hpermits : EachStep (occur setup) (Permits setup) (Engine.start queueCapacity shards config)
      (os ++ after))
    (hcount : (os ++ after).countP Occurrence.opens < UInt64.size)
    (hrecalls : EachStep (occur setup) (fun e o => e.recalls setup peer k o = false)
      ((Engine.start queueCapacity shards config).undergo setup os) after)
    (hnot : ((Engine.start queueCapacity shards config).undergo setup os).reached peer ≠ some k) :
    ((Engine.start queueCapacity shards config).undergo setup (os ++ after)).reached peer
      ≠ some k := by
  induction after using List.reverseRecOn with
  | nil => rwa [List.append_nil]
  | append_singleton after o ih =>
    rw [← List.append_assoc] at hpermits hcount ⊢
    obtain ⟨hbefore, hroom⟩ := room_of_opens hcount
    obtain ⟨hpermits, hlast⟩ := eachStep_concat.1 hpermits
    obtain ⟨hquiet, hsilent⟩ := eachStep_concat.1 hrecalls
    have hstep := (routed_undergo setup hpermits hbefore).occur
      (named_undergo setup queueCapacity shards config hbefore) setup hroom hlast
    rw [undergo_concat]
    intro hk
    rcases hstep.reached peer k hk with hreached | hnamed
    · exact ih hpermits hbefore hquiet hreached
    · rw [undergo_append] at hnamed
      exact Bool.false_ne_true (hsilent.symm.trans hnamed)

lemma misses_undergo (setup : Setup)
    (hpermits : EachStep (occur setup) (Permits setup) (Engine.start queueCapacity shards config)
      (os ++ after))
    (hcount : (os ++ after).countP Occurrence.opens < UInt64.size)
    (hrecalls : EachStep (occur setup) (fun e o => e.recalls setup peer k o = false)
      ((Engine.start queueCapacity shards config).undergo setup os) after)
    (hnot : ((Engine.start queueCapacity shards config).undergo setup os).reached peer ≠ some k) :
    (((Engine.start queueCapacity shards config).undergo setup os).undergo setup after).Misses setup
      peer k := by
  have hreached := not_reached_undergo setup hpermits hcount hrecalls hnot
  rw [← undergo_append]
  exact (routed_undergo setup hpermits hcount).misses hreached

end Run

/-- **The list, the channels and the sessions agree.**  Anything happens from the start on that
concerns channels, in any order, but channels that come from outside have names of their own and are
given to one session at a time, and there are names for all sessions.  Then what the reader lists is
so and what is so is listed, and frames go where the list says.

When a token comes from an endpoint that belongs to no session, and its session has an open channel
that the reader made, that channel moves to the endpoint.  It stays the channel of the session, and
whatever happens afterwards, the session is not reached from where the channel was, until its token
comes from there again. -/
theorem routes_agree (setup : Setup) (queueCapacity shards : ℕ) (config : DispatcherConfig)
    (os : List Occurrence)
    (hpermits : EachStep (occur setup) (Permits setup)
      (Engine.start queueCapacity shards config) os)
    (hcount : os.countP Occurrence.opens < UInt64.size) :
    let start := Engine.start queueCapacity shards config
    let e := start.undergo setup os
    let brought := gather (occur setup) brings start os
    e.Agrees setup brought ∧
      ∀ peer data f k ref c, (e.boundSession peer).1 = none → setup.codec.decode data = .ok f →
        e.registry.sessionForToken setup.resolve f.payload = some k → e.registry.Holds k ref →
        ref ∉ brought → e.registry.channel? ref = some (.datagram c) → c.isOpen = true →
        let e' := e.receiveDatagram setup peer data
        e'.MovedTo k ref c peer ∧
          ∀ after,
            EachStep (occur setup) (Permits setup) e (.arrival (.datagram peer data) :: after) →
            (os ++ after).countP Occurrence.opens < UInt64.size →
            EachStep (occur setup) (fun e o => e.recalls setup c.remote k o = false) e' after →
            (e'.undergo setup after).Misses setup c.remote k := by
  intro start e brought
  have h : e.Routed brought := routed_undergo setup hpermits hcount
  refine ⟨h.agrees setup, fun peer data f k ref c hbound hdecode htoken hk href hc hopen => ?_⟩
  have hreached : e.reached peer = none := boundSession_fst e peer ▸ hbound
  intro e'
  have hmoved : e'.MovedTo k ref c peer :=
    h.movedTo_of_token hreached hdecode htoken hk href hc hopen
  refine ⟨hmoved, fun after hafter hroom hrecalls => ?_⟩
  have hlast : start.undergo setup (os ++ [.arrival (.datagram peer data)]) = e' :=
    undergo_concat setup start os _
  have hall : EachStep (occur setup) (Permits setup) start
      (os ++ [.arrival (.datagram peer data)] ++ after) := by
    rw [List.append_assoc]
    exact eachStep_append.2 ⟨hpermits, hafter⟩
  have hopens : (os ++ [Occurrence.arrival (.datagram peer data)] ++ after).countP Occurrence.opens
      < UInt64.size := by
    simpa [List.countP_append, Occurrence.opens] using hroom
  have hleft : e'.reached c.remote ≠ some k := by
    rw [← boundSession_fst, hmoved.left.2]
    exact nofun
  rw [← hlast] at hleft hrecalls ⊢
  exact misses_undergo setup hall hopens hrecalls hleft

/-- One session has a channel that was brought from outside, and another one got a channel when its
token came from an endpoint.  Then the token comes from elsewhere, so that the channel moves, and a
frame from where it was does not reach the session afterwards. -/
theorem routes_agree_after_move :
    let setup : Setup :=
      { codec := .plain, resolve := fun token => token.head?.map fun b => ⟨b.toUInt64⟩ }
    let os : List Occurrence := [
      .channel (.stream { id := ⟨50⟩ }), .channel (.stream { id := ⟨51⟩ }),
      .channel (.memory { id := ⟨52⟩, transport := .reliableUdp }),
      .operation (.registry (.create ⟨0⟩)), .operation (.registry (.create ⟨1⟩)),
      .operation (.registry (.activate ⟨1⟩)), .operation (.registry (.activate ⟨2⟩)),
      .operation (.registry (.bindPlayer ⟨1⟩ ⟨7⟩)), .operation (.registry (.bindPlayer ⟨2⟩ ⟨8⟩)),
      .operation (.registry (.attach ⟨2⟩ [8])), .arrival (.datagram ⟨9⟩ [17, 0, 1, 7])]
    let after : List Occurrence := [.arrival (.datagram ⟨9⟩ [17, 0, 1, 6]), .prune]
    let config : DispatcherConfig := {}
    let e := (Engine.start 4 1 config).undergo setup os
    let c : DatagramChannel := { id := ⟨1⟩, remote := ⟨9⟩, link := setup.link }
    let e' := e.receiveDatagram setup ⟨10⟩ [17, 0, 1, 7]
    e.Agrees setup [⟨0⟩, ⟨1⟩, ⟨2⟩] ∧ e.peers.entries = [(⟨9⟩, ⟨3⟩)] ∧
      e'.MovedTo ⟨1⟩ ⟨3⟩ c ⟨10⟩ ∧ (e'.undergo setup after).Misses setup ⟨9⟩ ⟨1⟩ := by
  intro setup os after config e c e'
  have hpermits : EachStep (occur setup) (Permits setup) (Engine.start 4 1 config) os := by
    decide +kernel
  have hbrought : gather (occur setup) brings (Engine.start 4 1 config) os = [⟨0⟩, ⟨1⟩, ⟨2⟩] := by
    decide +kernel
  have hholds : e.registry.Holds ⟨1⟩ ⟨3⟩ := by
    have hfound : (e.registry.core ⟨1⟩).any
        (fun s => !s.isClosed && s.secondary = some ⟨3⟩) = true := by
      decide +kernel
    obtain ⟨s, hs, hs'⟩ := (Option.any_eq_true _ _).1 hfound
    exact ⟨s, hs, by simpa using hs'⟩
  obtain ⟨hagrees, htoken⟩ := routes_agree setup 4 1 config os hpermits (by decide)
  have hdecode : setup.codec.decode [17, 0, 1, 7]
      = .ok { header := { counting := true, dataType := .zero }, payload := [7] } := by
    decide +kernel
  have hchannel : e.registry.channel? ⟨3⟩ = some (.datagram c) := by decide +kernel
  obtain ⟨hmoved, hlater⟩ := htoken ⟨10⟩ [17, 0, 1, 7] _ ⟨1⟩ ⟨3⟩ c (by decide +kernel) hdecode
    (by decide +kernel) hholds (by decide +kernel) hchannel rfl
  exact ⟨hbrought ▸ hagrees, by decide +kernel, hmoved,
    hlater after (by decide +kernel) (by decide) (by decide +kernel)⟩

end Engine

end SessionServer
