/-
# What sessions hold on to

A session holds on to the channel on which it was opened, and to the one that was added to it as
long as it is open and gets no other one.  The other way round, a channel that is open is still held
by whoever held it: to lose a channel is to have it closed.  None of this depends on who closes
sessions and gives channels away, so it is told here of single registries and deeds.

Two relations say what little most events do.  `Stirs` is what comes of a frame that is accepted:
one session may have become active.  `Within` is what comes of whatever neither opens a session nor
gives a channel away.  A registry is `Settled` if sessions and lists agree about second channels,
which is so as long as names are different and no channel is taken from a session.

Main results: a settled registry stays so (`Settled.act`, `Settled.addChannel`), whoever holds a
channel that stays open goes on to hold it (`Holds.act_of_isOpen`), and no deed changes where a
channel leads (`remoteAt_act`).
-/
import SessionServer.Proofs.Registry.Bindings
import SessionServer.Proofs.Registry.Ownership

namespace SessionServer

namespace Index

variable {κ α : Type} {m : Index κ α} {k : κ} {v : α}

lemma values_keep_subset (m : Index κ α) (test : α → Bool) : (m.keep test).values ⊆ m.values :=
  List.map_subset _ (List.filter_sublist.subset)

variable [DecidableEq κ]

lemma mem_values_of_find? (h : m.find? k = some v) : v ∈ m.values := by
  obtain ⟨before, after, hentries, -⟩ := List.lookup_eq_some_iff.1 h
  exact List.mem_map.2 ⟨(k, v), by simp [hentries], rfl⟩

lemma values_erase_subset (m : Index κ α) (k : κ) : (m.erase k).values ⊆ m.values :=
  List.map_subset _ (List.filter_sublist.subset)

lemma eq_or_mem_of_mem_values_insert {w : α} (h : w ∈ (m.insert k v).values) :
    w = v ∨ w ∈ m.values := by
  simp only [insert, values, List.map_append, List.mem_append, List.map_cons, List.map_nil,
    List.mem_singleton] at h
  rcases h with hold | hnew
  · exact .inr (values_erase_subset m k hold)
  · exact .inl hnew

end Index

namespace Registry

variable {r r' r₁ r₂ r₃ : Registry} {resolve : Resolver} {j k : SessionId} {s t : Session}
  {ref : ChannelRef} {c : Channel} {d : Deed}

/-! ## Sessions that become active -/

lemma Listed.refl (r : Registry) : Listed r r := ⟨rfl, rfl, rfl, rfl, rfl⟩

lemma Listed.trans (h : Listed r₁ r₂) (h' : Listed r₂ r₃) : Listed r₁ r₃ :=
  ⟨h'.live.trans h.live, h'.nextId.trans h.nextId, h'.byPrimary.trans h.byPrimary,
    h'.bySecondary.trans h.bySecondary, h'.byPlayer.trans h.byPlayer⟩

/-- A fresh session has become active, or none has, and this is all that has happened to sessions,
lists and channels. -/
structure Stirs (r r' : Registry) : Prop where
  core : (∀ id, r'.core id = r.core id) ∨ ∃ k s, r.core k = some s ∧ s.state = .fresh ∧
    ∀ id, r'.core id = if id = k then some { s with state := .active } else r.core id
  listed : Listed r r'
  channel? : ∀ ref, r'.channel? ref = r.channel? ref

lemma Stirs.of_alike (h : Alike r r') (hlisted : Listed r r') : Stirs r r' :=
  ⟨.inl h.core, hlisted, h.channel⟩

lemma stirs_modifySession {f : Session → Session} (hf : ∀ s, (f s).core = s.core) (r : Registry)
    (k : SessionId) : Stirs r (r.modifySession k f) :=
  .of_alike (alike_modifySession hf r k) ⟨rfl, rfl, rfl, rfl, rfl⟩

/-- Counting before makes no difference. -/
lemma Stirs.after (h : Stirs r₂ r₃) (halike : Alike r₁ r₂) (hlisted : Listed r₁ r₂) :
    Stirs r₁ r₃ := by
  have hcores : r₂.core = r₁.core := funext halike.core
  exact ⟨hcores ▸ h.core, hlisted.trans h.listed,
    fun ref => (h.channel? ref).trans (halike.channel ref)⟩

lemma stirs_activate (r : Registry) (k : SessionId) : Stirs r (r.activate k).2 := by
  refine ⟨?_, listed_activate r k, channel?_activate r k⟩
  rcases activate_cases r k with hsame | ⟨s, hs, hfresh, hcore⟩
  · exact .inl fun id => by rw [hsame]
  · exact .inr ⟨k, s, hs, hfresh, hcore⟩

/-! ## Tokens -/

/-- A channel is added to the session of the token. -/
lemma sessionForToken_of_attach (hr : r.Keyed) {token : Bytes}
    (hout : (r.attach resolve ref token).1 = .success k) :
    r.sessionForToken resolve token = some k := by
  unfold attach tryAttach at hout
  cases hplayer : resolve token with
  | none => simp [hplayer] at hout
  | some player =>
    cases hfound : (r.sessionOf player).bind r.session? with
    | none => simp [hplayer, hfound] at hout
    | some s =>
      cases hname : r.channelId? ref with
      | none => simp [hplayer, hfound, hname] at hout
      | some name =>
        simp only [hplayer, hfound, hname] at hout
        split_ifs at hout
        obtain ⟨j, hj, hs⟩ := Option.bind_eq_some_iff.1 hfound
        have hkey : s.id = j := hr j s.core (core_eq_some_iff.2 ⟨s, hs, rfl⟩)
        obtain rfl : j = k := hkey.symm.trans (AttachOutcome.success.inj hout)
        rw [sessionForToken, hplayer]
        exact hj

/-! ## New channels -/

lemma channelId?_of_channel? (hc : r.channel? ref = some c) : r.channelId? ref = some c.id :=
  congrArg (Option.map Channel.id) hc

lemma channel?_addChannel (r : Registry) (new : Channel) (ref : ChannelRef) :
    (r.addChannel new).2.channel? ref
      = if ref = ⟨r.channels.size⟩ then some new else r.channel? ref := by
  obtain ⟨i⟩ := ref
  simp only [addChannel, channel?, Array.getElem?_push, ChannelRef.mk.injEq]

lemma channel?_addChannel_of_some (hc : r.channel? ref = some c) (new : Channel) :
    (r.addChannel new).2.channel? ref = some c := by
  obtain ⟨hlt, hget⟩ := Array.getElem?_eq_some_iff.1 hc
  exact (Array.getElem?_push_lt hlt).trans (congrArg some hget)

lemma channel?_nextRef (r : Registry) : r.channel? ⟨r.channels.size⟩ = none :=
  Array.getElem?_eq_none (Nat.le_refl _)

/-! ## Channels that are not given away -/

/-- No session was opened or got a channel, and the channels are still there. -/
structure Within (r r' : Registry) : Prop where
  core : ∀ k s', r'.core k = some s' → ∃ s, r.core k = some s ∧ s'.primary = s.primary ∧
    (s'.secondary = s.secondary ∨ s'.secondary = none)
  channel? : ∀ ref c, r.channel? ref = some c → ∃ c', r'.channel? ref = some c'

lemma Within.trans (h : Within r₁ r₂) (h' : Within r₂ r₃) : Within r₁ r₃ where
  core k s₃ hs₃ := by
    obtain ⟨s₂, hs₂, hprimary₂, hsecondary₂⟩ := h'.core k s₃ hs₃
    obtain ⟨s₁, hs₁, hprimary₁, hsecondary₁⟩ := h.core k s₂ hs₂
    refine ⟨s₁, hs₁, hprimary₂.trans hprimary₁, ?_⟩
    rcases hsecondary₂ with hsame | hnone
    · exact hsame ▸ hsecondary₁
    · exact .inr hnone
  channel? ref c hc := by
    obtain ⟨c', hc'⟩ := h.channel? ref c hc
    exact h'.channel? ref c' hc'

lemma within_of_core (hcore : ∀ id, r'.core id = r.core id)
    (hchannel : ∀ ref c, r.channel? ref = some c → ∃ c', r'.channel? ref = some c') :
    Within r r' :=
  ⟨fun k s hs => ⟨s, (hcore k).symm.trans hs, rfl, .inl rfl⟩, hchannel⟩

lemma within_refl (r : Registry) : Within r r :=
  within_of_core (fun _ => rfl) fun _ c hc => ⟨c, hc⟩

lemma Stirs.within (h : Stirs r r') : Within r r' := by
  have hchannel : ∀ ref c, r.channel? ref = some c → ∃ c', r'.channel? ref = some c' :=
    fun ref c hc => ⟨c, (h.channel? ref).trans hc⟩
  rcases h.core with hsame | ⟨k, s, hs, -, hcore⟩
  · exact within_of_core hsame hchannel
  · refine ⟨fun id t ht => ?_, hchannel⟩
    rw [hcore] at ht
    split_ifs at ht with hid
    · obtain rfl := Option.some.inj ht
      exact ⟨s, hid ▸ hs, rfl, .inl rfl⟩
    · exact ⟨t, ht, rfl, .inl rfl⟩

lemma Fades.exists_channel?_of_some (h : Fades r r') (hc : r.channel? ref = some c) :
    ∃ c', r'.channel? ref = some c' := by
  obtain ⟨f, -, heq⟩ := h ref
  exact ⟨f c, by rw [heq, hc]; rfl⟩

lemma within_close (r : Registry) (k : SessionId) (reason : CloseReason) :
    Within r (r.close k reason).2 := by
  rcases close_cases r k reason with ⟨hsame, -⟩ | ⟨s, hs, -, hshuts⟩
  · rw [hsame]
    exact within_refl r
  · refine ⟨fun id t ht => ?_, fun ref c => hshuts.fades.exists_channel?_of_some⟩
    rw [hshuts.core] at ht
    split_ifs at ht with hid
    · obtain rfl := Option.some.inj ht
      exact ⟨s, hid ▸ hs, rfl, .inr rfl⟩
    · exact ⟨t, ht, rfl, .inl rfl⟩

/-- What a test of all sessions tells of each of them, if it looks at channels only. -/
lemma any_sessions_eq_false {test : Session → Bool} (htest : ∀ s, test s.core = test s)
    (h : r.sessions.values.any test = false) (hs : r.core k = some s) : test s = false := by
  obtain ⟨t, ht, rfl⟩ := core_eq_some_iff.1 hs
  rw [htest]
  exact eq_false_of_ne_true (List.any_eq_false.1 h t (Index.mem_values_of_find? ht))

/-! ## Whoever holds a channel that stays open -/

lemma Holds.keep (hs : r.core k = some s)
    (hcore : ∀ id, r'.core id = if id = k then some t else r.core id)
    (hclosed : t.isClosed = s.isClosed) (hsecondary : t.secondary = s.secondary)
    (h : r.Holds j ref) : r'.Holds j ref := by
  have hself : r'.core k = some t := (hcore k).trans (if_pos rfl)
  refine Holds.of_update hself (fun id => ?_) hclosed.symm hsecondary.symm h
  rw [hcore]
  split_ifs with hid
  · rw [hid, hs]
  · rfl

lemma Stirs.holds_iff (h : Stirs r r') : r'.Holds j ref ↔ r.Holds j ref := by
  rcases h.core with hsame | ⟨k, s, hs, hfresh, hcore⟩
  · simp only [Holds, hsame]
  · have hclosed : ({ s with state := .active } : Session).isClosed = s.isClosed := by
      simp [Session.isClosed, hfresh]
    exact ⟨Holds.of_update hs hcore hclosed rfl, Holds.keep hs hcore hclosed rfl⟩

/-- The channel of a session stays open only if the session keeps it. -/
lemma Holds.act_of_isOpen (h : r.Holds j ref) (hr : r.Keyed) (hdistinct : r.Distinct)
    (hfresh : d.opens = true → r.core ⟨r.nextId⟩ = none)
    (hc : (r.act resolve d).channel? ref = some c) (hopen : c.isOpen = true) :
    (r.act resolve d).Holds j ref := by
  obtain ⟨u, hu, huopen, husecond⟩ := h
  cases d with
  | create primary =>
    refine ⟨u, (core_create r primary j).trans ((if_neg ?_).trans hu), huopen, husecond⟩
    rintro rfl
    exact Option.some_ne_none u (hu.symm.trans (hfresh rfl))
  | activate k => exact (stirs_activate r k).holds_iff.2 ⟨u, hu, huopen, husecond⟩
  | bindPlayer k player =>
    rcases bindPlayer_cases r k player with hsame | ⟨s, hs, -, hmeets⟩
    · rw [act, hsame]
      exact ⟨u, hu, huopen, husecond⟩
    · exact Holds.keep hs hmeets.core rfl rfl ⟨u, hu, huopen, husecond⟩
  | attach given token =>
    rcases attach_cases hr resolve given token with
      ⟨-, hclose⟩ | ⟨k, s, name, -, hs, hactive, hname, hjoins⟩
    · rw [act, hclose]
      exact ⟨u, hu, huopen, husecond⟩
    · refine (hjoins.holds_iff (Session.isClosed_of_isActive hactive) ref).2 ?_
      split_ifs with hjk
      · subst hjk
        obtain rfl := Option.some.inj (hs.symm.trans hu)
        by_contra hne
        -- the session lets go of the channel, which is closed then
        have hother : r.channelId? ref ≠ some name :=
          fun hsame => hne (hdistinct ref given name hsame hname)
        rw [act, hjoins.channel?, if_pos ⟨husecond, hother⟩] at hc
        obtain ⟨old, -, rfl⟩ := Option.map_eq_some_iff.1 hc
        exact Bool.false_ne_true ((Channel.isOpen_close old).symm.trans hopen)
      · exact ⟨u, hu, huopen, husecond⟩
  | enqueue k p =>
    rcases enqueue_cases hr k p with ⟨-, hsame⟩ | ⟨s, admission, queue, hs, -, -, -, -, hcore⟩
    · exact ⟨u, (hsame j).trans hu, huopen, husecond⟩
    · exact Holds.keep hs hcore rfl rfl ⟨u, hu, huopen, husecond⟩
  | close k reason =>
    rcases close_cases r k reason with ⟨hsame, -⟩ | ⟨s, hs, -, hshuts⟩
    · rw [act, hsame]
      exact ⟨u, hu, huopen, husecond⟩
    · refine (hshuts.holds_iff ref).2 ⟨?_, u, hu, huopen, husecond⟩
      rintro rfl
      obtain rfl := Option.some.inj (hs.symm.trans hu)
      have hclosed := hshuts.closed ref c (.inr husecond) hc
      exact Bool.false_ne_true (hclosed.symm.trans hopen)

/-- A channel that no session holds is taken from nobody. -/
lemma takes_eq_false (hr : r.Consistent) (hfree : ∀ j, ¬ r.Holds j ref) (token : Bytes) :
    r.takes resolve (.attach ref token) = false := by
  refine eq_false_of_ne_true fun htakes => ?_
  cases hout : (r.attach resolve ref token).1 with
  | success k =>
    obtain ⟨j, -, hj⟩ := (takes_attach_iff hr hout).1 htakes
    exact hfree j hj
  | _ => simp [takes, hout, AttachOutcome.session?] at htakes

/-! ## Settled registries -/

lemma Consistent.act (hr : r.Consistent)
    (hchannel : ∀ primary, d = .create primary → ∃ c, r.channel? primary = some c)
    (hfresh : d.opens = true → r.core ⟨r.nextId⟩ = none) : (r.act resolve d).Consistent := by
  refine ⟨hr.toCoherent.act hchannel hfresh, fun j => ?_⟩
  have hquiet : (∀ primary, d ≠ .create primary) → (∀ k reason, d ≠ .close k reason) →
      (j ∈ (r.act resolve d).live ↔ (r.act resolve d).fate j = some false) := by
    intro hopens hcloses
    obtain ⟨hlive, -, hfate⟩ := quiet_act hr.keyed resolve hopens hcloses
    rw [hlive, hfate]
    exact hr.mem_live_iff j
  cases d with
  | create primary =>
    show j ∈ r.live ++ [_] ↔ (r.create primary).2.fate j = some false
    rw [fate_create, List.mem_append, List.mem_singleton, hr.mem_live_iff]
    split_ifs with hj <;> simp [hj]
  | close k reason =>
    have hclosed : (r.act resolve (.close k reason)).Consistent :=
      hr.act_of_on (k := k) (d := .close k reason) rfl
    exact hclosed.mem_live_iff j
  | _ => exact hquiet nofun nofun

/-- Sessions and lists agree about second channels, and these are there and belong to sessions that
may have them. -/
structure Settled (r : Registry) : Prop extends r.Consistent where
  distinct : r.Distinct
  indexed : r.Indexed
  entitled : r.Entitled
  exists_channel?_secondary : ∀ k s ref, r.core k = some s → s.secondary = some ref →
    ∃ c, r.channel? ref = some c

lemma settled_ofChannels (queueCapacity : ℕ) : (ofChannels queueCapacity #[]).Settled where
  toConsistent := ⟨coherent_ofChannels queueCapacity #[], fun _ => ⟨nofun, nofun⟩⟩
  distinct := distinct_ofChannels List.nodup_nil
  indexed := nofun
  entitled := nofun
  exists_channel?_secondary := nofun

namespace Settled

lemma exists_channel?_of_holds (h : r.Settled) (hk : r.Holds k ref) :
    ∃ c, r.channel? ref = some c := by
  obtain ⟨s, hs, -, href⟩ := hk
  exact h.exists_channel?_secondary k s ref hs href

lemma act (h : r.Settled) (hchannel : ∀ primary, d = .create primary →
      ∃ c, r.channel? primary = some c)
    (hfresh : d.opens = true → r.core ⟨r.nextId⟩ = none) (hnot : r.takes resolve d = false) :
    (r.act resolve d).Settled := by
  have hfades := fades_act h.keyed resolve d
  refine ⟨h.toConsistent.act hchannel hfresh, h.distinct.of_fades hfades,
    h.indexed.act h.toConsistent h.distinct hnot, h.entitled.act h.keyed resolve d,
    fun k s ref hs href => ?_⟩
  rcases second_act h.keyed hs href with ⟨t, ht, htref, -⟩ | ⟨token, t, rfl, hout, -⟩
  · obtain ⟨c, hc⟩ := h.exists_channel?_secondary k t ref ht htref
    exact hfades.exists_channel?_of_some hc
  · rcases attach_cases h.keyed resolve ref token with ⟨hfailed, -⟩ | ⟨-, -, name, -, -, -, hname, -⟩
    · exact absurd hout (hfailed k)
    · obtain ⟨c, hc, -⟩ := Option.map_eq_some_iff.1 hname
      exact hfades.exists_channel?_of_some hc

/-- Nothing happens to sessions, and channels keep their names. -/
lemma of_listed (h : r.Settled) (hlisted : Listed r r') (hfades : Fades r r')
    (hcore : ∀ id, r'.core id = r.core id) : r'.Settled where
  toConsistent := by
    refine ⟨h.toCoherent.of_listed hlisted hfades hcore, fun k => ?_⟩
    have hfate : r'.fate k = r.fate k := congrArg (Option.map _) (hcore k)
    rw [hlisted.live, hfate]
    exact h.mem_live_iff k
  distinct := h.distinct.of_fades hfades
  indexed := by
    refine h.indexed.of_holds hfades (fun j ref hj => ?_) hlisted.bySecondary
    simpa only [Holds, hcore] using hj
  entitled k s hs hsecond :=
    (h.entitled k s ((hcore k).symm.trans hs) hsecond).of_fades hfades rfl id
  exists_channel?_secondary k s ref hs href := by
    obtain ⟨c, hc⟩ := h.exists_channel?_secondary k s ref ((hcore k).symm.trans hs) href
    exact hfades.exists_channel?_of_some hc

lemma of_stirs (h : r.Settled) (hstirs : Stirs r r') : r'.Settled := by
  have hfades : Fades r r' := Fades.of_eq hstirs.channel?
  rcases hstirs.core with hsame | ⟨k, s, hs, hfresh, hcore⟩
  · exact h.of_listed hstirs.listed hfades hsame
  · have hclosed : ({ s with state := .active } : Session).isClosed = s.isClosed := by
      simp [Session.isClosed, hfresh]
    refine ⟨⟨h.toCoherent.keep hstirs.listed hfades hs hcore rfl rfl rfl rfl rfl, fun j => ?_⟩,
      h.distinct.of_fades hfades,
      h.indexed.of_holds hfades (fun j ref => hstirs.holds_iff.1) hstirs.listed.bySecondary,
      fun j t ht hsecond => ?_, fun j t ref ht href => ?_⟩
    · rw [hstirs.listed.live, fate_update hs hcore hclosed]
      exact h.mem_live_iff j
    · rw [hcore] at ht
      split_ifs at ht
      · obtain rfl := Option.some.inj ht
        exact (h.entitled k s hs hsecond).of_fades hfades rfl fun _ => rfl
      · exact (h.entitled j t ht hsecond).of_fades hfades rfl id
    · rw [hcore] at ht
      rw [hstirs.channel?]
      split_ifs at ht
      · obtain rfl := Option.some.inj ht
        exact h.exists_channel?_secondary k s ref hs href
      · exact h.exists_channel?_secondary j t ref ht href

/-- A session that holds a datagram channel has it for datagrams, since its first channel is a
stream. -/
lemma channelFor_datagram (h : r.Settled) (hs : r.core k = some s) (href : s.secondary = some ref)
    (hcarries : r.carries .datagram ref = true) : r.channelFor s .datagram = some ref := by
  have hstream := (h.entitled k s hs (by simp [href])).stream
  have hother : r.carries .datagram s.primary = false := by
    cases hc : r.channel? s.primary with
    | none => simp [carries, hc]
    | some c =>
      have htransport : c.transport = .stream := by simpa [carries, hc] using hstream
      simp [carries, hc, htransport]
  rw [channelFor, hother, href]
  simp [hcarries]

/-- A channel is held by one session at most. -/
lemma eq_of_holds (h : r.Settled) (hj : r.Holds j ref) (hk : r.Holds k ref) : j = k := by
  obtain ⟨c, hc⟩ := h.exists_channel?_of_holds hj
  exact h.indexed.eq_of_holds (channelId?_of_channel? hc) hj hk

/-- Whoever holds a channel is found by its name. -/
lemma lookupSecondary_iff (h : r.Settled) (hc : r.channel? ref = some c) :
    r.lookupSecondary c.id = some k ↔ r.Holds k ref := by
  have hname := channelId?_of_channel? hc
  constructor
  · intro hk
    obtain ⟨s, hs, hsecond⟩ := h.toConsistent.sound.lookupSecondary c.id k hk
    obtain ⟨ref', href', hname'⟩ := Option.bind_eq_some_iff.1 hsecond
    exact h.distinct ref' ref c.id hname' hname ▸ holds_of_live hs href'
  · exact fun hk => h.indexed.lookupSecondary h.toConsistent hk hname

end Settled

/-- What an index lists stays right if keys do. -/
lemma Lists.of_key {κ : Type} [DecidableEq κ] {m : Index κ SessionId}
    {key key' : Session → Option κ} (h : Lists r m key) (hcore : ∀ id, r'.core id = r.core id)
    (hkey : ∀ s name, key s = some name → key' s = some name) : Lists r' m key' := by
  intro name k hk
  obtain ⟨s, hs, hopen, hname⟩ := h name k hk
  exact ⟨s, (hcore k).trans hs, hopen, hkey s name hname⟩

lemma channelId?_addChannel_of_some {name : ChannelId} (h : r.channelId? ref = some name)
    (new : Channel) : (r.addChannel new).2.channelId? ref = some name := by
  obtain ⟨c, hc, hname⟩ := Option.map_eq_some_iff.1 h
  exact Option.map_eq_some_iff.2 ⟨c, channel?_addChannel_of_some hc new, hname⟩

/-- A channel comes into being, under a name that no other one has. -/
lemma Settled.addChannel (h : r.Settled) (new : Channel)
    (hdistinct : (r.addChannel new).2.Distinct) : (r.addChannel new).2.Settled where
  toConsistent := by
    refine ⟨⟨h.keyed, h.byPrimary.of_key (fun _ => rfl) fun s name hname =>
      channelId?_addChannel_of_some hname new, h.bySecondary.of_key (fun _ => rfl)
        fun s name hname => ?_, h.byPlayer, fun k s hs => ?_⟩, h.mem_live_iff⟩
    · obtain ⟨ref, href, hname⟩ := Option.bind_eq_some_iff.1 hname
      exact Option.bind_eq_some_iff.2 ⟨ref, href, channelId?_addChannel_of_some hname new⟩
    · obtain ⟨c, hc⟩ := (h.sane k s hs).exists_channel?
      refine ⟨⟨c, channel?_addChannel_of_some hc new⟩, fun hclosed => ?_⟩
      obtain ⟨hqueue, hsecondary, d, hd, hdclosed⟩ := (h.sane k s hs).of_isClosed hclosed
      exact ⟨hqueue, hsecondary, d, channel?_addChannel_of_some hd new, hdclosed⟩
  distinct := hdistinct
  indexed k ref name hk hname := by
    obtain ⟨c, hc⟩ := h.exists_channel?_of_holds hk
    have hold := channelId?_of_channel? hc
    have hsame := (channelId?_addChannel_of_some hold new).symm.trans hname
    exact h.indexed k ref name hk (hold.trans hsame)
  entitled k s hs hsecond := by
    have hentitles := h.entitled k s hs hsecond
    obtain ⟨c, hc, hstream⟩ := (Option.any_eq_true _ _).1 hentitles.stream
    refine ⟨hentitles.isActive, ?_⟩
    rw [carries, channel?_addChannel_of_some hc new]
    exact hstream
  exists_channel?_secondary k s ref hs href := by
    obtain ⟨c, hc⟩ := h.exists_channel?_secondary k s ref hs href
    exact ⟨c, channel?_addChannel_of_some hc new⟩

end Registry

/-! ## Where channels lead -/

/-- Where a datagram channel sends. -/
def Channel.remote? : Channel → Option Endpoint
  | .datagram c => some c.remote
  | _ => none

@[simp] lemma Channel.remote?_close (c : Channel) : c.close.remote? = c.remote? := by
  cases c <;> rfl

namespace Registry

variable {r r' : Registry} {resolve : Resolver} {k : SessionId} {s : Session} {ref : ChannelRef}

/-- Where the channel at a place sends, if it is a datagram channel. -/
def remoteAt (r : Registry) (ref : ChannelRef) : Option Endpoint :=
  (r.channel? ref).bind Channel.remote?

lemma remoteAt_congr (h : r'.channel? ref = r.channel? ref) : r'.remoteAt ref = r.remoteAt ref :=
  congrArg (Option.bind · _) h

lemma remoteAt_of_closed (h : r'.channel? ref = (r.channel? ref).map Channel.close) :
    r'.remoteAt ref = r.remoteAt ref := by
  rw [remoteAt, h, remoteAt]
  cases r.channel? ref <;> simp

lemma remoteAt_closeChannel (r : Registry) (ref' ref : ChannelRef) :
    (r.closeChannel ref').remoteAt ref = r.remoteAt ref := by
  by_cases href : ref = ref'
  · exact href ▸ remoteAt_of_closed (channel?_closeChannel_self r ref)
  · exact remoteAt_congr (channel?_closeChannel_of_ne href)

lemma remoteAt_close (r : Registry) (k : SessionId) (reason : CloseReason) (ref : ChannelRef) :
    (r.close k reason).2.remoteAt ref = r.remoteAt ref := by
  have hdrop : ∀ (r : Registry) (s : Session),
      (r.dropSecondary s).remoteAt ref = r.remoteAt ref := by
    intro r s
    unfold dropSecondary
    cases s.secondary with
    | none => rfl
    | some ref' =>
      dsimp only
      split <;> exact remoteAt_closeChannel r ref' ref
  unfold close
  cases r.session? k with
  | none => rfl
  | some s =>
    dsimp only
    split_ifs
    · rfl
    · exact (hdrop _ s).trans (remoteAt_closeChannel _ s.primary ref)

/-- No deed changes where a channel leads. -/
lemma remoteAt_act (hr : r.Keyed) (resolve : Resolver) (d : Deed) (ref : ChannelRef) :
    (r.act resolve d).remoteAt ref = r.remoteAt ref := by
  cases d with
  | create primary => rfl
  | activate k => exact remoteAt_congr (channel?_activate r k ref)
  | bindPlayer k player =>
    rcases bindPlayer_cases r k player with hsame | ⟨s, -, -, hmeets⟩
    · rw [act, hsame]
    · exact remoteAt_congr (hmeets.channel? ref)
  | attach given token =>
    rcases attach_cases hr resolve given token with ⟨-, hclose⟩ | ⟨k, s, name, -, -, -, -, hjoins⟩
    · rw [act, hclose]
      exact remoteAt_closeChannel r given ref
    · have hchannel := hjoins.channel? ref
      split_ifs at hchannel
      · exact remoteAt_of_closed hchannel
      · exact remoteAt_congr hchannel
  | enqueue k p => exact remoteAt_congr (channel?_enqueue r k p ref)
  | close k reason => exact remoteAt_close r k reason ref

end Registry

end SessionServer
