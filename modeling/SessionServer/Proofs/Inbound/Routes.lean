/-
# Where datagrams go

The reader lists the endpoints that it knows, each with the channel that leads back to it.  Where a
datagram goes is decided by this list, by whether the channel is open, and by the session that is
found by the name of the channel; where answers go is decided by the channel, and whose channel it
is by the session.  All of these change on their own: channels are made and moved by datagrams,
replaced and closed with sessions, and endpoints are forgotten only when the reader comes across
them.

They say the same nevertheless (`Routed`).  A listed channel leads to the endpoint for which it is
listed, and a channel of the reader that is open is listed and held by a session.  To lose a channel
is to have it closed, so that an endpoint whose channel was lost reaches nobody.

Main results: no datagram breaks this (`Routed.receiveDatagram`), and by a datagram only its own
endpoint gets to a session, which is the one that it names (`Routed.reached_of_receiveDatagram`).
-/
import SessionServer.Proofs.Inbound.Datagrams

namespace SessionServer

namespace Index

variable {κ α : Type} {m : Index κ α} {k k' : κ} {v : α}

lemma mem_values_iff : v ∈ m.values ↔ ∃ k, (k, v) ∈ m.entries := by
  simp [values]

lemma nodup_keys_keep (h : m.keys.Nodup) (test : α → Bool) : (m.keep test).keys.Nodup :=
  h.sublist (List.filter_sublist.map _)

variable [DecidableEq κ]

lemma mem_entries_of_find? (h : m.find? k = some v) : (k, v) ∈ m.entries := by
  obtain ⟨before, after, hentries, -⟩ := List.lookup_eq_some_iff.1 h
  simp [hentries]

lemma find?_of_mem_entries (hnodup : m.keys.Nodup) (h : (k, v) ∈ m.entries) :
    m.find? k = some v := by
  cases hk : m.find? k with
  | none => exact absurd rfl (fst_ne_of_find?_eq_none hk (k, v) h)
  | some w =>
    have hsame := List.inj_on_of_nodup_map hnodup (mem_entries_of_find? hk) h rfl
    exact congrArg some (congrArg Prod.snd hsame)

lemma mem_entries_erase : (k', v) ∈ (m.erase k).entries ↔ (k', v) ∈ m.entries ∧ k' ≠ k := by
  simp [erase]

lemma nodup_keys_erase (h : m.keys.Nodup) (k : κ) : (m.erase k).keys.Nodup :=
  h.sublist (List.filter_sublist.map _)

end Index

lemma Registry.Fades.distinct_iff {r r' : Registry} (h : Registry.Fades r r') :
    r'.Distinct ↔ r.Distinct := by
  have hnames : r'.channelId? = r.channelId? := funext h.channelId?_eq
  simp only [Registry.Distinct, hnames]

namespace Engine

open Registry (Stirs Fades Settled)

variable {e e' : Engine} {setup : Setup} {j k : SessionId} {s : Session} {peer old : Endpoint}
  {data token : Bytes} {name : ChannelId} {ref : ChannelRef} {c : Channel} {f : Frame}
  {ref' : ChannelRef} {brought : List ChannelRef} {n : ℕ}

/-! ## The list and the channels -/

/-- The reader lists endpoints with channels that lead there.  Channels that were not brought from
outside are those that it made; they are listed and held by a session, if they are open. -/
structure Routed (brought : List ChannelRef) (e : Engine) : Prop where
  settled : e.registry.Settled
  nodup : e.peers.keys.Nodup
  remote : ∀ peer ref, (peer, ref) ∈ e.peers.entries → e.registry.remoteAt ref = some peer
  placed : ∀ ref ∈ brought, ∃ c, e.registry.channel? ref = some c
  foreign : ∀ ref ∈ brought, ref ∉ e.peers.values
  listed : ∀ ref c, ref ∉ brought → e.registry.channel? ref = some c → c.isOpen = true →
    ref ∈ e.peers.values ∧ ∃ k, e.registry.Holds k ref

lemma routed_start (queueCapacity shards : ℕ) (config : DispatcherConfig) :
    (Engine.start queueCapacity shards config).Routed [] where
  settled := Registry.settled_ofChannels queueCapacity
  nodup := List.nodup_nil
  remote _ _ h := absurd h List.not_mem_nil
  placed := nofun
  foreign := nofun
  listed _ _ _ hc := absurd hc nofun

namespace Routed

lemma find?_of_mem_values (h : e.Routed brought) (href : ref ∈ e.peers.values)
    (hremote : e.registry.remoteAt ref = some peer) : e.peers.find? peer = some ref := by
  obtain ⟨p, hp⟩ := Index.mem_values_iff.1 href
  obtain rfl := Option.some.inj ((h.remote p ref hp).symm.trans hremote)
  exact Index.find?_of_mem_entries h.nodup hp

lemma not_mem_brought (h : e.Routed brought) (href : e.peers.find? peer = some ref) :
    ref ∉ brought :=
  fun hmem => h.foreign ref hmem (Index.mem_values_of_find? href)

lemma exists_channel? (h : e.Routed brought) (href : ref ∈ e.peers.values) :
    ∃ c, e.registry.channel? ref = some c := by
  obtain ⟨p, hp⟩ := Index.mem_values_iff.1 href
  obtain ⟨c, hc, -⟩ := Option.bind_eq_some_iff.1 (h.remote p ref hp)
  exact ⟨c, hc⟩

/-- No channel is listed twice, since it leads to one endpoint only. -/
lemma nodup_values (h : e.Routed brought) : e.peers.values.Nodup := by
  refine List.Nodup.map_on (fun x hx y hy hxy => ?_) (List.Nodup.of_map _ h.nodup)
  obtain ⟨p, ref⟩ := x
  obtain ⟨q, ref'⟩ := y
  obtain rfl : ref = ref' := hxy
  obtain rfl := Option.some.inj ((h.remote p ref hx).symm.trans (h.remote q ref hy))
  rfl

/-- An endpoint belongs to the session that holds its channel, as long as that is open. -/
lemma reached_iff (h : e.Routed brought) :
    e.reached peer = some k ↔ ∃ ref c, e.peers.find? peer = some ref ∧
      e.registry.channel? ref = some c ∧ c.isOpen = true ∧ e.registry.Holds k ref := by
  unfold reached
  constructor
  · intro hk
    obtain ⟨ref, href, hk⟩ := Option.bind_eq_some_iff.1 hk
    obtain ⟨c, hc, hk⟩ := Option.bind_eq_some_iff.1 hk
    obtain ⟨hopen, hk⟩ := Option.ite_none_right_eq_some.1 hk
    exact ⟨ref, c, href, hc, hopen, (h.settled.lookupSecondary_iff hc).1 hk⟩
  · rintro ⟨ref, c, href, hc, hopen, hk⟩
    rw [href, Option.bind_some, hc, Option.bind_some, if_pos hopen]
    exact (h.settled.lookupSecondary_iff hc).2 hk

end Routed

/-! ## What happens to sessions -/

/-- Endpoints are listed as before, channels lead where they led, and whoever held a channel that is
open still holds it. -/
structure Upholds (e e' : Engine) : Prop where
  peers : e'.peers = e.peers
  remoteAt : ∀ ref, e'.registry.remoteAt ref = e.registry.remoteAt ref
  placed : ∀ ref c, e.registry.channel? ref = some c → ∃ c', e'.registry.channel? ref = some c'
  holds : ∀ ref c', e'.registry.channel? ref = some c' → c'.isOpen = true →
    ∃ c, e.registry.channel? ref = some c ∧ c.isOpen = true ∧
      ∀ k, e.registry.Holds k ref → e'.registry.Holds k ref

lemma upholds_of_stirs (h : Stirs e.registry e'.registry) (hpeers : e'.peers = e.peers) :
    Upholds e e' :=
  ⟨hpeers, fun ref => Registry.remoteAt_congr (h.channel? ref),
    fun ref c hc => ⟨c, (h.channel? ref).trans hc⟩,
    fun ref c' hc' hopen => ⟨c', (h.channel? ref).symm.trans hc', hopen, fun _ => h.holds_iff.2⟩⟩

lemma upholds_act {d : Registry.Deed} {resolve : Resolver} (hr : e.registry.Settled)
    (hregistry : e'.registry = e.registry.act resolve d) (hpeers : e'.peers = e.peers)
    (hfresh : d.opens = true → e.registry.core ⟨e.registry.nextId⟩ = none) : Upholds e e' := by
  have hfades := Registry.fades_act hr.keyed resolve d
  refine ⟨hpeers, fun ref => ?_, fun ref c hc => ?_, fun ref c' hc' hopen => ?_⟩
  · rw [hregistry]
    exact Registry.remoteAt_act hr.keyed resolve d ref
  · rw [hregistry]
    exact hfades.exists_channel?_of_some hc
  · rw [hregistry] at hc' ⊢
    obtain ⟨c, hc, hfade⟩ := hfades.exists_channel? hc'
    refine ⟨c, hc, ?_, fun k hk => hk.act_of_isOpen hr.keyed hr.distinct hfresh hc' hopen⟩
    by_contra hclosed
    exact Bool.false_ne_true ((hfade.closed (eq_false_of_ne_true hclosed)).symm.trans hopen)

lemma Upholds.trans {e₁ e₂ e₃ : Engine} (h₁ : Upholds e₁ e₂) (h₂ : Upholds e₂ e₃) :
    Upholds e₁ e₃ := by
  refine ⟨h₂.peers.trans h₁.peers, fun ref => (h₂.remoteAt ref).trans (h₁.remoteAt ref),
    fun ref c hc => ?_, fun ref c'' hc'' hopen'' => ?_⟩
  · obtain ⟨c', hc'⟩ := h₁.placed ref c hc
    exact h₂.placed ref c' hc'
  · obtain ⟨c', hc', hopen', hholds'⟩ := h₂.holds ref c'' hc'' hopen''
    obtain ⟨c, hc, hopen, hholds⟩ := h₁.holds ref c' hc' hopen'
    exact ⟨c, hc, hopen, fun k hk => hholds' k (hholds k hk)⟩

namespace Routed

lemma of_upholds (h : e.Routed brought) (hsettled : e'.registry.Settled) (hup : Upholds e e') :
    e'.Routed brought where
  settled := hsettled
  nodup := hup.peers ▸ h.nodup
  remote p ref hp := (hup.remoteAt ref).trans (h.remote p ref (hup.peers ▸ hp))
  placed ref href := by
    obtain ⟨c, hc⟩ := h.placed ref href
    exact hup.placed ref c hc
  foreign ref href := hup.peers ▸ h.foreign ref href
  listed ref c' href hc' hopen := by
    obtain ⟨c, hc, hcopen, hholds⟩ := hup.holds ref c' hc' hopen
    obtain ⟨hmem, k, hk⟩ := h.listed ref c href hc hcopen
    exact ⟨hup.peers ▸ hmem, k, hholds k hk⟩

/-- Whoever is reached now was reached before: the channel was held, and its holder still holds
it. -/
lemma reached_of_upholds (h : e.Routed brought) (h' : e'.Routed brought) (hup : Upholds e e')
    (hk : e'.reached peer = some k) : e.reached peer = some k := by
  obtain ⟨ref, c', href, hc', hopen, hkholds⟩ := h'.reached_iff.1 hk
  rw [hup.peers] at href
  obtain ⟨c, hc, hcopen, hholds⟩ := hup.holds ref c' hc' hopen
  obtain ⟨-, j, hj⟩ := h.listed ref c (h.not_mem_brought href) hc hcopen
  obtain rfl := h'.settled.eq_of_holds (hholds j hj) hkholds
  exact h.reached_iff.2 ⟨ref, c, href, hc, hcopen, hj⟩

lemma of_stirs (h : e.Routed brought) (hstirs : Stirs e.registry e'.registry)
    (hpeers : e'.peers = e.peers) : e'.Routed brought :=
  h.of_upholds (h.settled.of_stirs hstirs) (upholds_of_stirs hstirs hpeers)

/-! ## What happens to channels and to the list -/

/-- A channel comes into being. -/
lemma addChannel (h : e.Routed brought) {new : Channel}
    (hregistry : e'.registry = (e.registry.addChannel new).2) (hpeers : e'.peers = e.peers)
    (hdistinct : e'.registry.Distinct) : e'.Routed (brought ++ [e.nextRef]) := by
  have hchannel : ∀ ref, e'.registry.channel? ref
      = if ref = e.nextRef then some new else e.registry.channel? ref := by
    rw [hregistry]
    exact Registry.channel?_addChannel e.registry new
  have hold : ∀ ref c, e.registry.channel? ref = some c → e'.registry.channel? ref = some c :=
    fun ref c hc => (hchannel ref).trans ((if_neg (ne_nextRef hc)).trans hc)
  refine ⟨?_, hpeers ▸ h.nodup, fun p ref hp => ?_, fun ref href => ?_, fun ref href => ?_,
    fun ref c href hc hopen => ?_⟩
  · rw [hregistry] at hdistinct ⊢
    exact h.settled.addChannel new hdistinct
  · obtain ⟨c, hc, hremote⟩ := Option.bind_eq_some_iff.1 (h.remote p ref (hpeers ▸ hp))
    exact Option.bind_eq_some_iff.2 ⟨c, hold ref c hc, hremote⟩
  · rcases List.mem_append.1 href with hmem | hnew
    · obtain ⟨c, hc⟩ := h.placed ref hmem
      exact ⟨c, hold ref c hc⟩
    · exact ⟨new, (hchannel ref).trans (if_pos (List.mem_singleton.1 hnew))⟩
  · rw [hpeers]
    rcases List.mem_append.1 href with hmem | hnew
    · exact h.foreign ref hmem
    · intro hlisted
      obtain ⟨c, hc⟩ := h.exists_channel? hlisted
      exact ne_nextRef hc (List.mem_singleton.1 hnew)
  · simp only [List.mem_append, List.mem_singleton, not_or] at href
    rw [hchannel, if_neg href.2] at hc
    obtain ⟨hmem, k, hk⟩ := h.listed ref c href.1 hc hopen
    exact ⟨hpeers ▸ hmem, k, hregistry ▸ hk⟩

/-- Nobody is listed with the new channel. -/
lemma reached_of_addChannel {brought' : List ChannelRef} (h : e.Routed brought)
    (h' : e'.Routed brought') {new : Channel}
    (hregistry : e'.registry = (e.registry.addChannel new).2)
    (hpeers : e'.peers = e.peers) (hk : e'.reached peer = some k) : e.reached peer = some k := by
  obtain ⟨ref, c, href, hc, hopen, hholds⟩ := h'.reached_iff.1 hk
  rw [hpeers] at href
  rw [hregistry] at hc hholds
  obtain ⟨c', hc'⟩ := h.exists_channel? (Index.mem_values_of_find? href)
  obtain rfl := Option.some.inj ((Registry.channel?_addChannel_of_some hc' new).symm.trans hc)
  exact h.reached_iff.2 ⟨ref, c', href, hc', hopen, hholds⟩

/-- Endpoints are forgotten, but none whose channel is open. -/
lemma of_peers (h : e.Routed brought) (hregistry : e'.registry = e.registry)
    (hnodup : e'.peers.keys.Nodup) (hsub : ∀ entry ∈ e'.peers.entries, entry ∈ e.peers.entries)
    (hkept : ∀ p ref c, (p, ref) ∈ e.peers.entries → e.registry.channel? ref = some c →
      c.isOpen = true → ref ∉ brought → (p, ref) ∈ e'.peers.entries) : e'.Routed brought where
  settled := hregistry ▸ h.settled
  nodup := hnodup
  remote p ref hp := hregistry ▸ h.remote p ref (hsub _ hp)
  placed ref href := hregistry ▸ h.placed ref href
  foreign ref href hlisted := by
    obtain ⟨p, hp⟩ := Index.mem_values_iff.1 hlisted
    exact h.foreign ref href (Index.mem_values_iff.2 ⟨p, hsub _ hp⟩)
  listed ref c href hc hopen := by
    rw [hregistry] at hc ⊢
    obtain ⟨hlisted, hheld⟩ := h.listed ref c href hc hopen
    obtain ⟨p, hp⟩ := Index.mem_values_iff.1 hlisted
    exact ⟨Index.mem_values_iff.2 ⟨p, hkept p ref c hp hc hopen href⟩, hheld⟩

/-- An endpoint that belongs to no session is forgotten. -/
lemma forget (h : e.Routed brought) (hreached : e.reached peer = none) :
    (e.forget peer).Routed brought := by
  refine h.of_peers rfl (Index.nodup_keys_erase h.nodup peer)
    (fun entry hentry => (Index.mem_entries_erase.1 hentry).1) fun p ref c hp hc hopen href => ?_
  refine Index.mem_entries_erase.2 ⟨hp, ?_⟩
  rintro rfl
  obtain ⟨-, k, hk⟩ := h.listed ref c href hc hopen
  have hfound := Index.find?_of_mem_entries h.nodup hp
  exact Option.some_ne_none k
    ((h.reached_iff.2 ⟨ref, c, hfound, hc, hopen, hk⟩).symm.trans hreached)

lemma prunePeers (h : e.Routed brought) : e.prunePeers.2.Routed brought := by
  refine h.of_peers rfl (Index.nodup_keys_keep h.nodup _)
    (fun entry hentry => (List.mem_filter.1 hentry).1) fun p ref c hp hc hopen href => ?_
  exact List.mem_filter.2 ⟨hp, by simp [hc, hopen]⟩

/-- The channel that came into being last is closed. -/
lemma of_closed (h : e.Routed (brought ++ [ref]))
    (hclosed : ∀ c, e.registry.channel? ref = some c → c.isOpen = false) : e.Routed brought where
  settled := h.settled
  nodup := h.nodup
  remote := h.remote
  placed ref' href' := h.placed ref' (List.mem_append_left _ href')
  foreign ref' href' := h.foreign ref' (List.mem_append_left _ href')
  listed ref' c href' hc hopen := by
    refine h.listed ref' c (fun hmem => ?_) hc hopen
    rcases List.mem_append.1 hmem with hbrought | hlast
    · exact href' hbrought
    · obtain rfl := List.mem_singleton.1 hlast
      exact Bool.false_ne_true ((hclosed c hc).symm.trans hopen)

/-- The channel that came into being last is listed. -/
lemma insert (h : e.Routed (brought ++ [ref])) (hnew : ref ∉ brought)
    (hunknown : e.peers.find? peer = none) (hremote : e.registry.remoteAt ref = some peer)
    (hk : e.registry.Holds k ref) (hregistry : e'.registry = e.registry)
    (hpeers : e'.peers = e.peers.insert peer ref) : e'.Routed brought := by
  have hentries : e'.peers.entries = e.peers.entries ++ [(peer, ref)] := by
    rw [hpeers, Index.entries_insert hunknown]
  have hvalues : ∀ ref', ref' ∈ e'.peers.values ↔ ref' ∈ e.peers.values ∨ ref' = ref := by
    intro ref'
    simp [Index.values, hentries]
  refine ⟨hregistry ▸ h.settled, hpeers ▸ Index.nodup_keys_insert h.nodup hunknown ref,
    fun p ref' hp => ?_, fun ref' href' => hregistry ▸ h.placed ref' (List.mem_append_left _ href'),
    fun ref' href' => ?_, fun ref' c href' hc hopen => ?_⟩
  · rw [hregistry]
    rw [hentries, List.mem_append, List.mem_singleton] at hp
    rcases hp with hold | hlast
    · exact h.remote p ref' hold
    · obtain ⟨rfl, rfl⟩ := Prod.mk.inj hlast
      exact hremote
  · rw [hvalues]
    rintro (hlisted | rfl)
    · exact h.foreign ref' (List.mem_append_left _ href') hlisted
    · exact hnew href'
  · rw [hregistry] at hc ⊢
    rw [hvalues]
    by_cases hlast : ref' = ref
    · exact ⟨.inr hlast, k, hlast ▸ hk⟩
    · have hother : ref' ∉ brought ++ [ref] := by
        simp [href', hlast]
      obtain ⟨hlisted, hheld⟩ := h.listed ref' c hother hc hopen
      exact ⟨.inl hlisted, hheld⟩

/-- Neither the registry nor the list changes. -/
lemma of_eq (h : e.Routed brought) (hregistry : e'.registry = e.registry)
    (hpeers : e'.peers = e.peers) : e'.Routed brought :=
  h.of_peers hregistry (hpeers ▸ h.nodup) (fun _ => hpeers ▸ id) fun _ _ _ hp _ _ _ => hpeers ▸ hp

end Routed

/-- The endpoints that are listed now were listed before, with the same channels. -/
lemma reached_of_peers (hregistry : e'.registry = e.registry)
    (hsub : ∀ ref, e'.peers.find? peer = some ref → e.peers.find? peer = some ref)
    (hk : e'.reached peer = some k) : e.reached peer = some k := by
  obtain ⟨ref, href, hk⟩ := Option.bind_eq_some_iff.1 hk
  rw [hregistry] at hk
  exact Option.bind_eq_some_iff.2 ⟨ref, hsub ref href, hk⟩

lemma reached_of_forget (hk : (e.forget old).reached peer = some k) : e.reached peer = some k := by
  have hregistry : (e.forget old).registry = e.registry := rfl
  refine reached_of_peers hregistry (fun ref href => ?_) hk
  have hfind : (e.forget old).peers.find? peer = if peer = old then none else e.peers.find? peer :=
    Index.find?_erase e.peers old peer
  rw [hfind] at href
  split_ifs at href
  exact href

/-! ## Channels that move -/

lemma isOpen_setRemote (peer : Endpoint) (c : Channel) : (setRemote peer c).isOpen = c.isOpen := by
  cases c <;> rfl

lemma channel?_moved (e : Engine) (k : SessionId) (old peer : Endpoint) (ref : ChannelRef) (n : ℕ)
    (ref' : ChannelRef) :
    (e.moved k old peer ref n).registry.channel? ref'
      = if ref' = ref then (e.registry.channel? ref').map (setRemote peer)
        else e.registry.channel? ref' :=
  Registry.channel?_modifyChannel e.registry ref ref' (setRemote peer)

lemma core_moved (e : Engine) (k : SessionId) (old peer : Endpoint) (ref : ChannelRef) (n : ℕ)
    (id : SessionId) : (e.moved k old peer ref n).registry.core id = e.registry.core id :=
  (Registry.alike_modifySession (f := (·.recordRead e.registry.clock n)) (fun _ => rfl)
    (e.registry.modifyChannel ref (setRemote peer)) k).core id

lemma holds_moved (e : Engine) (k : SessionId) (old peer : Endpoint) (ref : ChannelRef) (n : ℕ)
    (j : SessionId) (ref' : ChannelRef) :
    (e.moved k old peer ref n).registry.Holds j ref' ↔ e.registry.Holds j ref' := by
  simp only [Registry.Holds, core_moved]

/-- A channel that was open before it moved is open, and the other way round. -/
lemma exists_channel?_of_moved (hc : (e.moved k old peer ref n).registry.channel? ref' = some c) :
    ∃ c', e.registry.channel? ref' = some c' ∧ c'.isOpen = c.isOpen := by
  rw [channel?_moved] at hc
  split_ifs at hc
  · obtain ⟨c', hc', rfl⟩ := Option.map_eq_some_iff.1 hc
    exact ⟨c', hc', (isOpen_setRemote peer c').symm⟩
  · exact ⟨c, hc, rfl⟩

lemma find?_peers_moved (e : Engine) (k : SessionId) (old peer : Endpoint) (ref : ChannelRef)
    (n : ℕ) (p : Endpoint) :
    (e.moved k old peer ref n).peers.find? p
      = if p = peer then some ref else if p = old then none else e.peers.find? p := by
  show ((e.peers.erase old).insert peer ref).find? p = _
  rw [Index.find?_insert, Index.find?_erase]

/-- The channel leads to the endpoint to which it has moved, and is listed for it instead of the one
where it was. -/
lemma Routed.moved (h : e.Routed brought) (hunknown : e.peers.find? peer = none)
    (hentry : (old, ref) ∈ e.peers.entries) (k : SessionId) (n : ℕ) :
    (e.moved k old peer ref n).Routed brought := by
  have hremote := h.remote old ref hentry
  have hunlisted : (e.peers.erase old).find? peer = none := by
    rw [Index.find?_erase, hunknown, ite_self]
  have hentries : (e.moved k old peer ref n).peers.entries
      = (e.peers.erase old).entries ++ [(peer, ref)] := Index.entries_insert hunlisted ref
  have hmem : ∀ p ref', (p, ref') ∈ (e.moved k old peer ref n).peers.entries ↔
      ((p, ref') ∈ e.peers.entries ∧ p ≠ old) ∨ (p = peer ∧ ref' = ref) := by
    intro p ref'
    rw [hentries, List.mem_append, Index.mem_entries_erase, List.mem_singleton, Prod.mk.injEq]
  refine ⟨?_, Index.nodup_keys_insert (Index.nodup_keys_erase h.nodup old) hunlisted ref,
    fun p ref' hp => ?_, fun ref' href' => ?_, fun ref' href' hlisted => ?_,
    fun ref' c' href' hc' hopen => ?_⟩
  · exact h.settled.of_listed ⟨rfl, rfl, rfl, rfl, rfl⟩
      (Registry.fades_modifyChannel fun c _ => fades_setRemote peer c)
      (core_moved e k old peer ref n)
  · rcases (hmem p ref').1 hp with ⟨hold, hne⟩ | ⟨rfl, rfl⟩
    · have hother : ref' ≠ ref := by
        rintro rfl
        exact hne (Option.some.inj ((h.remote p ref' hold).symm.trans hremote))
      have hsame : (e.moved k old peer ref n).registry.channel? ref' = e.registry.channel? ref' :=
        (channel?_moved e k old peer ref n ref').trans (if_neg hother)
      exact (Registry.remoteAt_congr hsame).trans (h.remote p ref' hold)
    · -- only a datagram channel leads anywhere
      obtain ⟨c, hc, hleads⟩ := Option.bind_eq_some_iff.1 hremote
      rw [Registry.remoteAt, channel?_moved, if_pos rfl, hc]
      cases c with
      | datagram d => rfl
      | _ => cases hleads
  · obtain ⟨c, hc⟩ := h.placed ref' href'
    rw [channel?_moved, hc]
    split_ifs
    · exact ⟨_, rfl⟩
    · exact ⟨c, rfl⟩
  · obtain ⟨p, hp⟩ := Index.mem_values_iff.1 hlisted
    rcases (hmem p ref').1 hp with ⟨hold, -⟩ | ⟨-, rfl⟩
    · exact h.foreign ref' href' (Index.mem_values_iff.2 ⟨p, hold⟩)
    · exact h.foreign ref' href' (Index.mem_values_iff.2 ⟨old, hentry⟩)
  · obtain ⟨c, hc, hsame⟩ := exists_channel?_of_moved hc'
    obtain ⟨hlisted, j, hj⟩ := h.listed ref' c href' hc (hsame.trans hopen)
    refine ⟨?_, j, (holds_moved e k old peer ref n j ref').2 hj⟩
    obtain ⟨p, hp⟩ := Index.mem_values_iff.1 hlisted
    by_cases hold : p = old
    · subst hold
      have hfirst := Index.find?_of_mem_entries h.nodup hp
      obtain rfl := Option.some.inj (hfirst.symm.trans (Index.find?_of_mem_entries h.nodup hentry))
      exact Index.mem_values_iff.2 ⟨peer, (hmem peer ref').2 (.inr ⟨rfl, rfl⟩)⟩
    · exact Index.mem_values_iff.2 ⟨p, (hmem p ref').2 (.inl ⟨hp, hold⟩)⟩

/-- Only the endpoint to which the channel has moved reaches a session that it did not reach before,
and this is the session that holds the channel. -/
lemma Routed.reached_of_moved (h : e.Routed brought)
    (h' : (e.moved k old peer ref n).Routed brought)
    {p : Endpoint} (hj : (e.moved k old peer ref n).reached p = some j) :
    e.reached p = some j ∨ p = peer ∧ e.registry.Holds j ref := by
  obtain ⟨ref', c', href', hc', hopen, hholds⟩ := h'.reached_iff.1 hj
  rw [holds_moved] at hholds
  rw [find?_peers_moved] at href'
  split_ifs at href' with hp hold
  · obtain rfl := Option.some.inj href'
    exact .inr ⟨hp, hholds⟩
  · obtain ⟨c, hc, hsame⟩ := exists_channel?_of_moved hc'
    exact .inl (h.reached_iff.2 ⟨ref', c, href', hc, hsame.trans hopen, hholds⟩)

/-! ## Channels that are made -/

lemma find?_peers_approached (e : Engine) (peer : Endpoint) (n : ℕ) :
    (e.approached peer n).peers.find? peer = none :=
  (Index.find?_erase e.peers peer peer).trans (if_pos rfl)

lemma Routed.approached (h : e.Routed brought) (hreached : e.reached peer = none) (n : ℕ) :
    (e.approached peer n).Routed brought :=
  (h.forget hreached).of_eq rfl rfl

lemma Routed.nextRef_not_mem (h : e.Routed brought) : e.nextRef ∉ brought := by
  intro hmem
  obtain ⟨c, hc⟩ := h.placed _ hmem
  exact ne_nextRef hc rfl

/-- Nobody holds a channel that was made just now. -/
lemma Routed.not_holds_nextRef (h : e.Routed brought) (j : SessionId) :
    ¬ e.registry.Holds j e.nextRef := by
  intro hj
  obtain ⟨c, hc⟩ := h.settled.exists_channel?_of_holds hj
  exact ne_nextRef hc rfl

section Made

variable (setup peer token)

lemma registry_lent : (e.lent setup peer).registry = (e.registry.addChannel
    (.datagram { id := e.channelIds.take.1, remote := peer, link := setup.link })).2 := rfl

lemma Routed.lent (h : e.Routed brought) (hdistinct : (e.lent setup peer).registry.Distinct) :
    (e.lent setup peer).Routed (brought ++ [e.nextRef]) :=
  h.addChannel (registry_lent setup peer) rfl hdistinct

lemma fades_refused (hr : e.registry.Keyed) :
    Fades (e.lent setup peer).registry (e.refused setup peer token).registry :=
  Registry.fades_act (r := (e.lent setup peer).registry) hr setup.resolve (.attach e.nextRef token)

lemma upholds_refused (h : (e.lent setup peer).registry.Settled) :
    Upholds (e.lent setup peer) (e.refused setup peer token) := by
  have hact : (e.refused setup peer token).registry
      = (e.lent setup peer).registry.act setup.resolve (.attach e.nextRef token) := rfl
  exact upholds_act h hact rfl nofun

/-- Whether the attempt succeeds or fails, all is well but for the new channel. -/
lemma Routed.refused (h : e.Routed brought)
    (hdistinct : (e.refused setup peer token).registry.Distinct) :
    (e.lent setup peer).Routed (brought ++ [e.nextRef]) ∧
      (e.refused setup peer token).Routed (brought ++ [e.nextRef]) := by
  have hlent := h.lent setup peer
    ((fades_refused setup peer token h.settled.keyed).distinct_iff.1 hdistinct)
  have hfree : ∀ j, ¬ (e.lent setup peer).registry.Holds j e.nextRef := h.not_holds_nextRef
  have hsettled : (e.refused setup peer token).registry.Settled :=
    hlent.settled.act (d := .attach e.nextRef token) nofun nofun
      (Registry.takes_eq_false hlent.settled.toConsistent hfree token)
  exact ⟨hlent, hlent.of_upholds hsettled (upholds_refused setup peer token hlent.settled)⟩

lemma remoteAt_refused (hr : e.registry.Keyed) :
    (e.refused setup peer token).registry.remoteAt e.nextRef = some peer := by
  have hlent : (e.lent setup peer).registry.remoteAt e.nextRef = some peer := by
    rw [Registry.remoteAt]
    refine (congrArg (Option.bind · _)
      ((Registry.channel?_addChannel e.registry _ e.nextRef).trans (if_pos rfl))).trans ?_
    rfl
  exact (Registry.remoteAt_act (r := (e.lent setup peer).registry) hr setup.resolve
    (.attach e.nextRef token) e.nextRef).trans hlent

variable {setup peer token}

lemma holds_of_success (hr : e.registry.Keyed)
    (hk : (e.attempted setup peer token).1 = .success k) :
    (e.refused setup peer token).registry.Holds k e.nextRef := by
  obtain ⟨s, -, hactive, hjoins⟩ := joins_of_success hr hk
  exact (hjoins.holds_iff (Session.isClosed_of_isActive hactive) e.nextRef).2 (by rw [if_pos rfl])

lemma Routed.joined (h : e.Routed brought) (hunknown : e.peers.find? peer = none)
    (hk : (e.attempted setup peer token).1 = .success k)
    (hdistinct : (e.refused setup peer token).registry.Distinct) :
    (e.joined setup peer token).Routed brought :=
  (h.refused setup peer token hdistinct).2.insert h.nextRef_not_mem hunknown
    (remoteAt_refused setup peer token h.settled.keyed) (holds_of_success h.settled.keyed hk) rfl rfl

/-- The channel for which no session was found is closed. -/
lemma Routed.refused_of_failed (h : e.Routed brought)
    (hfailed : ∀ k, (e.attempted setup peer token).1 ≠ .success k)
    (hdistinct : (e.refused setup peer token).registry.Distinct) :
    (e.refused setup peer token).Routed brought := by
  refine (h.refused setup peer token hdistinct).2.of_closed fun c hc => ?_
  rw [refused_registry h.settled.keyed hfailed, Registry.channel?_closeChannel_self] at hc
  obtain ⟨made, -, rfl⟩ := Option.map_eq_some_iff.1 hc
  exact Channel.isOpen_close made

/-- The attempt makes no endpoint reach a session that it did not reach before. -/
lemma Routed.reached_of_refused (h : e.Routed brought)
    (hdistinct : (e.refused setup peer token).registry.Distinct) {p : Endpoint}
    (hj : (e.refused setup peer token).reached p = some j) : e.reached p = some j := by
  obtain ⟨hlent, hrefused⟩ := h.refused setup peer token hdistinct
  have hbefore := hlent.reached_of_upholds hrefused
    (upholds_refused setup peer token hlent.settled) hj
  exact h.reached_of_addChannel hlent (registry_lent setup peer) rfl hbefore

/-- Only the endpoint for which the channel was made may reach a session that it did not reach
before, and this is the session that got the channel. -/
lemma Routed.reached_of_joined (h : e.Routed brought) (hunknown : e.peers.find? peer = none)
    (hk : (e.attempted setup peer token).1 = .success k)
    (hdistinct : (e.refused setup peer token).registry.Distinct) {p : Endpoint}
    (hj : (e.joined setup peer token).reached p = some j) :
    e.reached p = some j ∨ p = peer ∧ j = k := by
  have hfind : (e.joined setup peer token).peers.find? p
      = if p = peer then some e.nextRef else e.peers.find? p :=
    Index.find?_insert e.peers peer p e.nextRef
  by_cases hp : p = peer
  · refine .inr ⟨hp, ?_⟩
    have hjoined := h.joined hunknown hk hdistinct
    obtain ⟨ref, -, href, -, -, hholds⟩ := hjoined.reached_iff.1 hj
    rw [hfind, if_pos hp] at href
    obtain rfl := Option.some.inj href
    exact hjoined.settled.eq_of_holds hholds (holds_of_success h.settled.keyed hk)
  · have hregistry : (e.joined setup peer token).registry
        = (e.refused setup peer token).registry := rfl
    refine .inl (h.reached_of_refused hdistinct
      (reached_of_peers hregistry (fun ref href => ?_) hj))
    rw [hfind, if_neg hp] at href
    exact href

end Made

/-! ## Datagrams -/

lemma reached_dispatch (e : Engine) (k : SessionId) (event : RequestEvent) (transport : Transport)
    (f : Frame) (peer : Endpoint) :
    (e.dispatch k event transport f).reached peer = e.reached peer := by
  simp only [reached, registry_dispatch, peers_dispatch]

/-- The session that a token names holds the channel that is listed by the name of its channel. -/
lemma Routed.holds_of_datagramOwner (h : e.Routed brought)
    (howner : e.datagramOwner setup token = some (k, name))
    (hname : e.registry.channelId? ref = some name) : e.registry.Holds k ref := by
  obtain ⟨htoken, s, given, c, hs, hgiven, hc, -, -, rfl⟩ := exists_of_datagramOwner howner
  obtain ⟨player, -, hplayer⟩ := Option.bind_eq_some_iff.1 htoken
  obtain ⟨t, ⟨ht, -, htopen⟩, -⟩ := h.settled.toConsistent.sound.sessionOf player k hplayer
  obtain rfl := Option.some.inj (hs.symm.trans ht)
  obtain rfl := h.settled.distinct given ref c.id (Registry.channelId?_of_channel? hc) hname
  exact ⟨s.core, Registry.core_eq_some_iff.2 ⟨s, hs, rfl⟩, htopen, hgiven⟩

/-- The list stays right when a datagram is taken. -/
lemma Routed.receiveDatagram (h : e.Routed brought) (setup : Setup) (peer : Endpoint) (data : Bytes)
    (hdistinct : (e.receiveDatagram setup peer data).registry.Distinct) :
    (e.receiveDatagram setup peer data).Routed brought := by
  cases reception setup e peer data with
  | bound k reached after =>
    rw [after]
    exact h.of_stirs (stirs_receiveBound setup (e.countBytes data.length) k data)
      (peers_receiveBound setup _ k data)
  | unreadable reached after =>
    rw [after]
    exact (h.approached reached data.length).of_eq rfl rfl
  | moved f k name old ref reached decode owner entry after =>
    rw [after]
    exact (h.approached reached data.length).moved (find?_peers_approached e peer _)
      (mem_peers_of_peerNamed entry).1 k f.payload.length
  | joined f k reached decode success after =>
    rw [after] at hdistinct ⊢
    rw [registry_dispatch] at hdistinct
    have hjoined := (h.approached reached data.length).joined
      (find?_peers_approached e peer data.length) success hdistinct
    exact hjoined.of_eq (registry_dispatch ..) (peers_dispatch ..)
  | refused f reached decode failed after =>
    rw [after] at hdistinct ⊢
    exact (h.approached reached data.length).refused_of_failed failed hdistinct

/-- Only the endpoint of a datagram reaches a session that it did not reach before, and this is the
session that the datagram names. -/
lemma Routed.reached_of_receiveDatagram (h : e.Routed brought)
    (hdistinct : (e.receiveDatagram setup peer data).registry.Distinct)
    (hj : (e.receiveDatagram setup peer data).reached old = some j) :
    e.reached old = some j ∨ old = peer ∧ e.addressee setup data = some j := by
  have h' := h.receiveDatagram setup peer data hdistinct
  cases reception setup e peer data with
  | bound k reached after =>
    refine .inl (h.reached_of_upholds h' (upholds_of_stirs ?_ ?_) hj)
    · rw [after]
      exact stirs_receiveBound setup (e.countBytes data.length) k data
    · rw [after]
      exact peers_receiveBound setup (e.countBytes data.length) k data
  | unreadable reached after =>
    rw [after] at hj
    exact .inl (reached_of_forget (e := e) hj)
  | moved f k name given ref reached decode owner entry after =>
    rw [after] at hj h'
    rcases (h.approached reached data.length).reached_of_moved h' hj with hbefore | ⟨hpeer, hholds⟩
    · exact .inl (reached_of_forget (e := e) hbefore)
    · have hk : e.registry.Holds k ref :=
        h.holds_of_datagramOwner owner (mem_peers_of_peerNamed entry).2
      obtain rfl := h.settled.eq_of_holds hk hholds
      exact .inr ⟨hpeer, (addressee_of_decode decode).trans (exists_of_datagramOwner owner).1⟩
  | joined f k reached decode success after =>
    rw [after] at hdistinct hj
    rw [registry_dispatch] at hdistinct
    rw [reached_dispatch] at hj
    rcases (h.approached reached data.length).reached_of_joined
      (find?_peers_approached e peer data.length) success hdistinct hj with hbefore | ⟨hpeer, rfl⟩
    · exact .inl (reached_of_forget (e := e) hbefore)
    · refine .inr ⟨hpeer, (addressee_of_decode decode).trans ?_⟩
      exact Registry.sessionForToken_of_attach
        (r := ((e.approached peer data.length).lent setup peer).registry) h.settled.keyed success
  | refused f reached decode failed after =>
    rw [after] at hdistinct hj
    exact .inl (reached_of_forget (e := e)
      ((h.approached reached data.length).reached_of_refused hdistinct hj))

end Engine

end SessionServer
