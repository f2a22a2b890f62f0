/-
# Channels with two uses

No datagram closes a session or throws a packet away, but it may close a channel: the session that
its token names gets a new channel, and the second channel that it had is closed, without anybody
asking whether it has another use.  It has one if it is the second channel of another session too,
or if a session was opened on it.  Both can be brought about by adding a channel to a session, since
all that is asked then is whether the session may have a second channel.

This is the only harm there is.  Which channels a datagram closes is told exactly (`Fares`), and as
long as no channel was given a second use, first channels and the second ones of other sessions are
as they were.  That no channel has two uses is an invariant (`Apart`) of everything that happens
(`Apart.occur`), datagrams among them.

Main results: what a datagram does, whatever has happened before (`no_datagram_ends_a_session`), and
two runs in which it closes a channel that is still in use (`shared_channels_closed_by_datagram`).
-/
import SessionServer.Proofs.Inbound.Datagrams

namespace SessionServer

namespace Engine

open Registry (Stirs Within Replaced)

variable {e e' : Engine} {setup : Setup} {j k : SessionId} {s : Session} {peer : Endpoint}
  {data token : Bytes} {name : ChannelId} {ref : ChannelRef} {f : Frame}
  {target : Option SessionId}

/-! ## What became of channels, and who has them -/

lemma Fares.channelId?_eq {listed : List ChannelRef} {r r' : Registry} {c : Channel}
    (h : Fares target peer listed r r' ref c) : r'.channelId? ref = some c.id := by
  cases h with
  | closed k named replaced after =>
    exact (Registry.channelId?_of_channel? after).trans (congrArg some (Channel.id_close c))
  | moved k named not_replaced listed name_eq after =>
    exact (Registry.channelId?_of_channel? after).trans
      (congrArg some (fades_setRemote peer c).id_eq)
  | kept not_replaced after => exact Registry.channelId?_of_channel? after

lemma exists_channel?_of_name {r : Registry} (h : r.channelId? ref = some name) :
    ∃ c, r.channel? ref = some c ∧ c.id = name :=
  Option.map_eq_some_iff.1 h

namespace Harmless

lemma channelId?_of_some (h : Harmless target peer e e')
    (hname : e.registry.channelId? ref = some name) : e'.registry.channelId? ref = some name := by
  obtain ⟨c, hc, rfl⟩ := exists_channel?_of_name hname
  exact (h.fares ref c hc).channelId?_eq

lemma exists_channel?_of_some {c : Channel} (h : Harmless target peer e e')
    (hc : e.registry.channel? ref = some c) : ∃ c', e'.registry.channel? ref = some c' := by
  obtain ⟨c', hc', -⟩ := exists_channel?_of_name (h.fares ref c hc).channelId?_eq
  exact ⟨c', hc'⟩

lemma distinct (h : Harmless target peer e e') (hdistinct : e'.registry.Distinct) :
    e.registry.Distinct := fun ref ref' name hname hname' =>
  hdistinct ref ref' name (h.channelId?_of_some hname) (h.channelId?_of_some hname')

/-- The sessions were there before. -/
lemma exists_core (h : Harmless target peer e e') {s' : Session}
    (hs' : e'.registry.core k = some s') : ∃ s, e.registry.core k = some s ∧ s.Withstands s' := by
  cases hs : e.registry.core k with
  | none => exact absurd ((h.absent k hs).symm.trans hs') (Option.some_ne_none s').symm
  | some s =>
    obtain ⟨t, ht, hwithstands, -⟩ := h.core k s hs
    obtain rfl := Option.some.inj (ht.symm.trans hs')
    exact ⟨s, rfl, hwithstands⟩

/-- A second channel is the one that the session had, or is new. -/
lemma second?_cases (h : Harmless target peer e e') (href : e'.registry.second? k = some ref) :
    e.registry.second? k = some ref ∨ target = some k ∧ e.registry.channel? ref = none ∧
      ∃ c, e'.registry.channel? ref = some c := by
  obtain ⟨s', hs', hsecond⟩ := Registry.exists_core_of_second? href
  obtain ⟨s, hs, -⟩ := h.exists_core hs'
  obtain ⟨t, ht, -, hsame | ⟨htarget, hnew⟩⟩ := h.core k s hs
  · obtain rfl := Option.some.inj (ht.symm.trans hs')
    exact .inl ((Registry.second?_of_core hs).trans (hsame.symm.trans hsecond))
  · obtain rfl := Option.some.inj (ht.symm.trans hs')
    exact .inr ⟨htarget, hnew ref hsecond⟩

end Harmless

/-! ## Channels with one use -/

/-- The occurrence gives a channel a second use: a session is opened on a channel that is listed for
an endpoint or is the second one of a session, or on none, or a channel that a session has is added
to a session. -/
def mixes (e : Engine) : Occurrence → Bool
  | .operation (.registry (.create ref)) =>
    (e.registry.channel? ref).isNone || decide (ref ∈ e.peers.values) ||
      e.registry.sessions.values.any fun s => decide (s.secondary = some ref)
  | .operation (.registry (.attach ref _)) =>
    e.registry.sessions.values.any fun s => decide (s.primary = ref ∨ s.secondary = some ref)
  | _ => false

/-- The channels that sessions have are there.  Those on which sessions were opened are no second
ones and are not listed for endpoints, and the second ones have one session each. -/
structure Apart (e : Engine) : Prop where
  exists_channel? : ∀ k s ref, e.registry.core k = some s → s.Binds ref →
    ∃ c, e.registry.channel? ref = some c
  primary_ne : ∀ k s, e.registry.core k = some s → ∀ j, e.registry.second? j ≠ some s.primary
  alone : ∀ j k ref, e.registry.second? j = some ref → e.registry.second? k = some ref → j = k
  not_listed : ∀ k s, e.registry.core k = some s → s.primary ∉ e.peers.values

lemma apart_start (queueCapacity shards : ℕ) (config : DispatcherConfig) :
    (Engine.start queueCapacity shards config).Apart :=
  ⟨nofun, nofun, nofun, nofun⟩

namespace Apart

lemma channel?_ne_none (h : e.Apart) (hs : e.registry.core k = some s) (hb : s.Binds ref) :
    e.registry.channel? ref ≠ none := by
  obtain ⟨c, hc⟩ := h.exists_channel? k s ref hs hb
  exact fun hnone => Option.some_ne_none c (hc.symm.trans hnone)

lemma channel?_ne_none_of_second? (h : e.Apart) (href : e.registry.second? k = some ref) :
    e.registry.channel? ref ≠ none := by
  obtain ⟨s, hs, hsecond⟩ := Registry.exists_core_of_second? href
  exact h.channel?_ne_none hs (.inr hsecond)

/-- A channel on which a session was opened is as it was. -/
lemma channel?_primary_eq (h : e.Apart) (hstep : Harmless target peer e e')
    (hs : e.registry.core k = some s) :
    e'.registry.channel? s.primary = e.registry.channel? s.primary := by
  obtain ⟨c, hc⟩ := h.exists_channel? k s s.primary hs (.inl rfl)
  cases hstep.fares s.primary c hc with
  | closed j named replaced after => exact absurd replaced.1 (h.primary_ne k s hs j)
  | moved j named not_replaced listed name_eq after =>
    exact absurd listed (h.not_listed k s hs)
  | kept not_replaced after => exact after.trans hc.symm

/-- The second channel of a session that is not meant is as it was. -/
lemma channel?_second_eq (h : e.Apart) (hdistinct : e.registry.Distinct)
    (hstep : Harmless target peer e e') (href : e.registry.second? j = some ref)
    (hother : target ≠ some j) : e'.registry.channel? ref = e.registry.channel? ref := by
  obtain ⟨c, hc⟩ := Option.ne_none_iff_exists'.1 (h.channel?_ne_none_of_second? href)
  cases hstep.fares ref c hc with
  | closed k named replaced after => exact absurd (h.alone k j ref replaced.1 href ▸ named) hother
  | moved k named not_replaced listed name_eq after =>
    obtain ⟨given, hgiven, hname⟩ := Registry.exists_second?_of_name name_eq
    obtain rfl := hdistinct given ref c.id hname (Registry.channelId?_of_channel? hc)
    exact absurd (h.alone k j given hgiven href ▸ named) hother
  | kept not_replaced after => exact after.trans hc.symm

/-- And the session is found by its name as before. -/
lemma lookupSecondary_eq (h : e.Apart) (hdistinct : e'.registry.Distinct)
    (hstep : Harmless target peer e e') (href : e.registry.second? j = some ref)
    (hname : e.registry.channelId? ref = some name) (hother : target ≠ some j) :
    e'.registry.lookupSecondary name = e.registry.lookupSecondary name := by
  cases hstep.relisted name with
  | kept after => exact after
  | gained k named name_eq after =>
    obtain ⟨given, hgiven, hsame⟩ := Registry.exists_second?_of_name name_eq
    obtain rfl := hdistinct given ref name hsame (hstep.channelId?_of_some hname)
    rcases hstep.second?_cases hgiven with hold | ⟨-, hnone, -⟩
    · exact absurd (h.alone k j given hold href ▸ named) hother
    · exact absurd hnone (h.channel?_ne_none_of_second? href)
  | lost k named name_eq after =>
    obtain ⟨given, hgiven, hsame⟩ := Registry.exists_second?_of_name name_eq
    obtain rfl := hstep.distinct hdistinct given ref name hsame hname
    exact absurd (h.alone k j given hgiven href ▸ named) hother

/-- What a session or an endpoint gets is new, so that it has no other use. -/
lemma of_harmless (h : e.Apart) (hstep : Harmless target peer e e') : e'.Apart where
  exists_channel? k s' ref hs' hb := by
    obtain ⟨s, hs, hwithstands⟩ := hstep.exists_core hs'
    rcases hb with rfl | hsecond
    · obtain ⟨c, hc⟩ := h.exists_channel? k s s'.primary hs (.inl hwithstands.primary_eq.symm)
      exact hstep.exists_channel?_of_some hc
    · rcases hstep.second?_cases ((Registry.second?_of_core hs').trans hsecond) with
        hold | ⟨-, -, hc⟩
      · obtain ⟨c, hc⟩ := Option.ne_none_iff_exists'.1 (h.channel?_ne_none_of_second? hold)
        exact hstep.exists_channel?_of_some hc
      · exact hc
  primary_ne k s' hs' j hj := by
    obtain ⟨s, hs, hwithstands⟩ := hstep.exists_core hs'
    rw [hwithstands.primary_eq] at hj
    rcases hstep.second?_cases hj with hold | ⟨-, hnone, -⟩
    · exact h.primary_ne k s hs j hold
    · exact h.channel?_ne_none hs (.inl rfl) hnone
  alone i j ref hi hj := by
    rcases hstep.second?_cases hi with hi | ⟨hi, hnone, -⟩
    · rcases hstep.second?_cases hj with hj | ⟨-, hnone, -⟩
      · exact h.alone i j ref hi hj
      · exact absurd hnone (h.channel?_ne_none_of_second? hi)
    · rcases hstep.second?_cases hj with hj | ⟨hj, -, -⟩
      · exact absurd hnone (h.channel?_ne_none_of_second? hj)
      · exact Option.some.inj (hi.symm.trans hj)
  not_listed k s' hs' hmem := by
    obtain ⟨s, hs, hwithstands⟩ := hstep.exists_core hs'
    rw [hwithstands.primary_eq] at hmem
    rcases hstep.peers _ hmem with hold | hnew
    · exact h.not_listed k s hs hold
    · exact h.channel?_ne_none hs (.inl rfl) hnew

/-- No session was opened and no channel given to a session or an endpoint. -/
lemma of_within (h : e.Apart) (hstep : Within e.registry e'.registry)
    (hpeers : e'.peers.values ⊆ e.peers.values) : e'.Apart := by
  have hsecond : ∀ {k ref}, e'.registry.second? k = some ref →
      e.registry.second? k = some ref := by
    intro k ref href
    obtain ⟨s', hs', hsecond⟩ := Registry.exists_core_of_second? href
    obtain ⟨s, hs, -, hsame | hnone⟩ := hstep.core k s' hs'
    · exact (Registry.second?_of_core hs).trans (hsame.symm.trans hsecond)
    · exact absurd (hsecond.symm.trans hnone) (Option.some_ne_none ref)
  refine ⟨fun k s' ref hs' hb => ?_, fun k s' hs' j hj => ?_,
    fun i j ref hi hj => h.alone i j ref (hsecond hi) (hsecond hj), fun k s' hs' hmem => ?_⟩
  · obtain ⟨s, hs, hprimary, -⟩ := hstep.core k s' hs'
    have hthere : e.registry.channel? ref ≠ none := by
      rcases hb with rfl | hb
      · exact h.channel?_ne_none hs (.inl hprimary.symm)
      · exact h.channel?_ne_none_of_second? (hsecond ((Registry.second?_of_core hs').trans hb))
    obtain ⟨c, hc⟩ := Option.ne_none_iff_exists'.1 hthere
    exact hstep.channel? ref c hc
  · obtain ⟨s, hs, hprimary, -⟩ := hstep.core k s' hs'
    exact h.primary_ne k s hs j (hprimary ▸ hsecond hj)
  · obtain ⟨s, hs, hprimary, -⟩ := hstep.core k s' hs'
    exact h.not_listed k s hs (hpeers (hprimary ▸ hmem))

end Apart

/-- What is done for one session changes neither the channel on which it was opened nor the one that
was added to it, except that it loses the second one when it ends. -/
lemma within_of_tends {d : Dues} (h : Tends k d e e') :
    Within e.registry e'.registry := by
  refine ⟨fun id s' hs' => ?_, fun ref c hc => ?_⟩
  · obtain ⟨t', ht', rfl⟩ := Registry.core_eq_some_iff.1 hs'
    by_cases hid : id = k
    · subst hid
      obtain ⟨f, hf⟩ := h.session? id
      obtain ⟨t, ht, -⟩ := Option.map_eq_some_iff.1 ((hf.trans (if_pos rfl)).symm.trans ht')
      have hages := h.ages t t' ht ht'
      exact ⟨t.core, Registry.core_eq_some_iff.2 ⟨t, ht, rfl⟩, hages.primary_eq,
        hages.secondary_or⟩
    · have hsame := (h.session?_of_ne hid).symm.trans ht'
      exact ⟨t'.core, Registry.core_eq_some_iff.2 ⟨t', hsame, rfl⟩, rfl, .inl rfl⟩
  · obtain ⟨c', hc', -⟩ := h.seals ref c hc
    exact ⟨c', hc'⟩

lemma within_of_chain {dues : List (SessionId × Dues)} (h : Chain dues e e') :
    Within e.registry e'.registry := by
  induction h with
  | nil => exact Registry.within_refl _
  | cons htends _ ih => exact (within_of_tends htends).trans ih

/-- No session has the channel as its second one. -/
lemma second?_ne_of_any_eq_false {test : Session → Bool} (htest : ∀ s, test s.core = test s)
    (hany : e.registry.sessions.values.any test = false)
    (hholds : ∀ s : Session, s.secondary = some ref → test s = true) :
    e.registry.second? j ≠ some ref := by
  intro href
  obtain ⟨s, hs, hsecond⟩ := Registry.exists_core_of_second? href
  have hfalse := Registry.any_sessions_eq_false htest hany hs
  exact Bool.false_ne_true (hfalse.symm.trans (hholds s hsecond))

lemma Apart.create (h : e.Apart) (setup : Setup)
    (hmixes : e.mixes (.operation (.registry (.create ref))) = false) :
    (e.operate setup (.registry (.create ref))).Apart := by
  simp only [mixes, Bool.or_eq_false_iff, Option.isNone_eq_false_iff, decide_eq_false_iff_not]
    at hmixes
  obtain ⟨⟨hthere, hunlisted⟩, hunheld⟩ := hmixes
  have hcore := Registry.core_create e.registry ref
  have hcases : ∀ {k s}, (e.registry.create ref).2.core k = some s →
      s.primary = ref ∧ s.secondary = none ∨ e.registry.core k = some s := by
    intro k s hs
    rw [hcore] at hs
    split_ifs at hs
    · obtain rfl := Option.some.inj hs
      exact .inl ⟨rfl, rfl⟩
    · exact .inr hs
  have hsecond : ∀ {k ref'}, (e.registry.create ref).2.second? k = some ref' →
      e.registry.second? k = some ref' := by
    intro k ref' href
    obtain ⟨s, hs, hsecond⟩ := Registry.exists_core_of_second? href
    rcases hcases hs with ⟨-, hnone⟩ | hold
    · exact absurd (hsecond.symm.trans hnone) (Option.some_ne_none ref')
    · exact (Registry.second?_of_core hold).trans hsecond
  refine ⟨fun k s ref' hs hb => ?_, fun k s hs j hj => ?_,
    fun i j ref' hi hj => h.alone i j ref' (hsecond hi) (hsecond hj), fun k s hs => ?_⟩
  · rcases hcases hs with ⟨hnew, hnone⟩ | hold
    · rcases hb with hb | hb
      · exact Option.isSome_iff_exists.1 (hb ▸ hnew ▸ hthere)
      · exact absurd (hb.symm.trans hnone) (Option.some_ne_none ref')
    · exact h.exists_channel? k s ref' hold hb
  · rcases hcases hs with ⟨hnew, -⟩ | hold
    · exact second?_ne_of_any_eq_false (fun _ => rfl) hunheld (fun s => decide_eq_true)
        (hnew ▸ hsecond hj)
    · exact h.primary_ne k s hold j (hsecond hj)
  · rcases hcases hs with ⟨hnew, -⟩ | hold
    · exact hnew ▸ hunlisted
    · exact h.not_listed k s hold

lemma Apart.attach (h : e.Apart) (hr : e.registry.Keyed) (setup : Setup)
    (hmixes : e.mixes (.operation (.registry (.attach ref token))) = false) :
    (e.operate setup (.registry (.attach ref token))).Apart := by
  rcases Registry.attach_cases hr setup.resolve ref token with
    ⟨-, hclose⟩ | ⟨k, s, name, -, hs, -, hname, hjoins⟩
  · have hwithin : Within e.registry (e.registry.attach setup.resolve ref token).2 := by
      rw [hclose]
      exact Registry.within_of_core (fun _ => rfl) fun other c =>
        (Registry.fades_closeChannel e.registry ref).exists_channel?_of_some
    exact h.of_within hwithin (List.Subset.refl _)
  · have hunheld : ∀ j, e.registry.second? j ≠ some ref := fun j =>
      second?_ne_of_any_eq_false (fun _ => rfl) hmixes fun s hsecond =>
        decide_eq_true (.inr hsecond)
    have hbefore : ∀ j t', (e.registry.attach setup.resolve ref token).2.core j = some t' →
        ∃ t, e.registry.core j = some t ∧ t'.primary = t.primary ∧
          (j = k ∧ t'.secondary = some ref ∨ j ≠ k ∧ t' = t) := by
      intro j t' ht'
      rw [hjoins.core] at ht'
      split_ifs at ht' with hj
      · obtain rfl := Option.some.inj ht'
        exact ⟨s, hj ▸ hs, rfl, .inl ⟨hj, rfl⟩⟩
      · exact ⟨t', ht', rfl, .inr ⟨hj, rfl⟩⟩
    have hsecond : ∀ {j ref'}, (e.registry.attach setup.resolve ref token).2.second? j = some ref' →
        j = k ∧ ref' = ref ∨ j ≠ k ∧ e.registry.second? j = some ref' := by
      intro j ref' href
      obtain ⟨t', ht', hsecond⟩ := Registry.exists_core_of_second? href
      obtain ⟨t, ht, -, ⟨hj, hnew⟩ | ⟨hj, rfl⟩⟩ := hbefore j t' ht'
      · exact .inl ⟨hj, Option.some.inj (hsecond.symm.trans hnew)⟩
      · exact .inr ⟨hj, (Registry.second?_of_core ht).trans hsecond⟩
    refine ⟨fun j t' ref' ht' hb => ?_, fun j t' ht' i hi => ?_, fun i j ref' hi hj => ?_,
      fun j t' ht' => ?_⟩
    · obtain ⟨t, ht, hprimary, -⟩ := hbefore j t' ht'
      have hthere : ∃ c, e.registry.channel? ref' = some c := by
        rcases hb with rfl | hb
        · exact h.exists_channel? j t _ ht (.inl hprimary.symm)
        · rcases hsecond ((Registry.second?_of_core ht').trans hb) with ⟨-, rfl⟩ | ⟨-, hold⟩
          · obtain ⟨c, hc, -⟩ := exists_channel?_of_name hname
            exact ⟨c, hc⟩
          · exact Option.ne_none_iff_exists'.1 (h.channel?_ne_none_of_second? hold)
      obtain ⟨c, hc⟩ := hthere
      exact hjoins.fades.exists_channel?_of_some hc
    · obtain ⟨t, ht, hprimary, -⟩ := hbefore j t' ht'
      rw [hprimary] at hi
      rcases hsecond hi with ⟨-, hnew⟩ | ⟨-, hold⟩
      · have hfalse := Registry.any_sessions_eq_false (fun _ => rfl) hmixes ht
        exact of_decide_eq_false hfalse (.inl hnew)
      · exact h.primary_ne j t ht i hold
    · rcases hsecond hi with ⟨rfl, rfl⟩ | ⟨-, holdi⟩
      · rcases hsecond hj with ⟨rfl, -⟩ | ⟨-, holdj⟩
        · rfl
        · exact absurd holdj (hunheld j)
      · rcases hsecond hj with ⟨-, rfl⟩ | ⟨-, holdj⟩
        · exact absurd holdi (hunheld i)
        · exact h.alone i j ref' holdi holdj
    · obtain ⟨t, ht, hprimary, -⟩ := hbefore j t' ht'
      exact hprimary ▸ h.not_listed j t ht

/-! ## All that happens -/

lemma Apart.occur (h : e.Apart) (hr : e.registry.Keyed) (setup : Setup) {o : Occurrence}
    (hmixes : e.mixes o = false) : (e.occur setup o).Apart := by
  cases o with
  | operation op =>
    rcases operate_cases hr setup op with
      ⟨dues, hchain, -⟩ | ⟨primary, rfl⟩ | ⟨ref, token, rfl⟩ | ⟨ref, change, rfl⟩
    · have hpeers : (e.operate setup op).peers = e.peers :=
        congrArg Intake.peers (intake_operate setup e op)
      exact h.of_within (within_of_chain hchain) (hpeers ▸ List.Subset.refl _)
    · exact h.create setup hmixes
    · exact h.attach hr setup hmixes
    · refine h.of_within (Registry.within_of_core (fun _ => rfl) fun other c hc => ?_)
        (List.Subset.refl _)
      refine Option.isSome_iff_exists.1 ?_
      rw [Engine.occur, operate, Registry.channel?_modifyChannel, hc]
      split_ifs <;> rfl
  | arrival a =>
    by_cases ha : ∃ peer data, a = .datagram peer data
    · obtain ⟨peer, data, rfl⟩ := ha
      exact h.of_harmless (harmless_receiveDatagram hr setup peer data)
    · have ha : ∀ peer data, a ≠ .datagram peer data := fun peer data heq => ha ⟨peer, data, heq⟩
      have hheeds := heeds_receive ha setup e
      exact h.of_within hheeds.within (hheeds.peers ▸ List.Subset.refl _)
  | channel c =>
    exact h.of_within (Registry.within_of_core (fun _ => rfl) fun ref c' hc' =>
      ⟨c', Registry.channel?_addChannel_of_some hc' c⟩) (List.Subset.refl _)
  | prune => exact h.of_within (Registry.within_refl _) (Index.values_keep_subset e.peers _)
  | _ =>
    exact h.of_within (Registry.within_of_core (fun _ => rfl) fun _ c hc => ⟨c, hc⟩)
      (List.Subset.refl _)

section Run

variable {queueCapacity shards : ℕ} {config : DispatcherConfig} {os : List Occurrence}

lemma apart_undergo (setup : Setup)
    (hmixes : EachStep (occur setup) (fun e o => e.mixes o = false)
      (Engine.start queueCapacity shards config) os) :
    ((Engine.start queueCapacity shards config).undergo setup os).Apart := by
  induction os using List.reverseRecOn with
  | nil => exact apart_start queueCapacity shards config
  | append_singleton os o ih =>
    obtain ⟨hbefore, hlast⟩ := eachStep_concat.1 hmixes
    rw [undergo_concat]
    exact (ih hbefore).occur (keyed_undergo setup) setup hlast

end Run

/-- **No datagram ends a session.**  Whatever has happened from the start on, and wherever a
datagram comes from and whatever is in it: every session withstands it, which is to say that it is
not closed if it was not before and that its packets still wait, and is found by its name, its
player and its first channel as before.  Only the session that is named by the token of the datagram
may have another second channel, and only the names of these two channels may lead to other
sessions.  The one that it had is closed then, and no other channel is; a channel that is listed for
an endpoint and has the name of that one may have moved, and all others are as they were.

So a channel is closed that another session uses, if it was given a second use.  As long as none
was, every channel on which a session was opened is as it was, and so are, if no two channels have
one name, the second channels of all other sessions and what is found by their names. -/
theorem no_datagram_ends_a_session (setup : Setup) (queueCapacity shards : ℕ)
    (config : DispatcherConfig) (os : List Occurrence) (peer : Endpoint) (data : Bytes) :
    let start := Engine.start queueCapacity shards config
    let e := start.undergo setup os
    let e' := e.receiveDatagram setup peer data
    let target := e.addressee setup data
    (∀ k s, e.registry.session? k = some s → ∃ s', e'.registry.session? k = some s' ∧
        s.Withstands s' ∧ (s'.secondary = s.secondary ∨ target = some k)) ∧
      e'.registry.get? = e.registry.get? ∧
      e'.registry.lookupPrimary = e.registry.lookupPrimary ∧
      e'.registry.sessionOf = e.registry.sessionOf ∧
      (∀ name, Relisted target e.registry e'.registry name) ∧
      (∀ ref c, e.registry.channel? ref = some c →
        Fares target peer e.peers.values e.registry e'.registry ref c) ∧
      (EachStep (occur setup) (fun e o => e.mixes o = false) start os →
        (∀ k s, e.registry.session? k = some s →
          e'.registry.channel? s.primary = e.registry.channel? s.primary) ∧
        (e'.registry.names.Nodup → ∀ k ref name, target ≠ some k →
          e.registry.second? k = some ref → e.registry.channelId? ref = some name →
          e'.registry.channel? ref = e.registry.channel? ref ∧
            e'.registry.lookupSecondary name = e.registry.lookupSecondary name)) := by
  intro start e e' target
  have hharmless : Harmless target peer e e' :=
    harmless_receiveDatagram (keyed_undergo setup) setup peer data
  have hget : e'.registry.get? = e.registry.get? := Registry.get?_of_live hharmless.live
  refine ⟨fun k s hs => ?_, hget, ?_, ?_, hharmless.relisted, hharmless.fares, fun hmixes => ?_⟩
  · obtain ⟨t, ht, hwithstands, hsecondary⟩ :=
      hharmless.core k s.core (Registry.core_eq_some_iff.2 ⟨s, hs, rfl⟩)
    obtain ⟨s', hs', rfl⟩ := Registry.core_eq_some_iff.1 ht
    exact ⟨s', hs', ⟨hwithstands.state, hwithstands.queue_eq, hwithstands.primary_eq⟩,
      hsecondary.imp_right And.left⟩
  · funext name
    rw [Registry.lookupPrimary, Registry.lookupPrimary, hget, hharmless.byPrimary]
  · funext player
    rw [Registry.sessionOf, Registry.sessionOf, hget, hharmless.byPlayer]
  · have hapart : e.Apart := apart_undergo setup hmixes
    refine ⟨fun k s hs => ?_, fun hnodup k ref name hother href hname => ?_⟩
    · have hcore : e.registry.core k = some s.core := Registry.core_eq_some_iff.2 ⟨s, hs, rfl⟩
      have hsame := hapart.channel?_primary_eq hharmless hcore
      exact hsame
    · have hdistinct : e'.registry.Distinct := Registry.distinct_of_nodup hnodup
      exact ⟨hapart.channel?_second_eq (hharmless.distinct hdistinct) hharmless href hother,
        hapart.lookupSecondary_eq hdistinct hharmless href hname hother⟩

/-- Two sessions have second channels.  From a new endpoint comes the token of one of them, which
gets a new channel and loses the one that it had, and all else is as it was. -/
theorem no_datagram_ends_either_session :
    let setup : Setup :=
      { codec := .plain, resolve := fun token => token.head?.map fun b => ⟨b.toUInt64⟩ }
    let os : List Occurrence :=
      [.channel (.stream { id := ⟨50⟩ }), .channel (.stream { id := ⟨51⟩ }),
      .channel (.memory { id := ⟨52⟩, transport := .reliableUdp }),
      .operation (.registry (.create ⟨0⟩)), .operation (.registry (.create ⟨1⟩)),
      .operation (.registry (.activate ⟨1⟩)), .operation (.registry (.activate ⟨2⟩)),
      .operation (.registry (.bindPlayer ⟨1⟩ ⟨7⟩)), .operation (.registry (.bindPlayer ⟨2⟩ ⟨8⟩)),
      .operation (.registry (.attach ⟨2⟩ [8])), .arrival (.datagram ⟨9⟩ [17, 0, 1, 7])]
    let config : DispatcherConfig := {}
    let e := (Engine.start 4 1 config).undergo setup os
    let e' := e.receiveDatagram setup ⟨10⟩ [17, 0, 1, 8]
    e.addressee setup [17, 0, 1, 8] = some ⟨2⟩ ∧
      e'.registry.second? ⟨2⟩ = some ⟨4⟩ ∧
      (e'.registry.channel? ⟨2⟩).map (·.isOpen) = some false ∧
      (∀ s, e.registry.session? ⟨1⟩ = some s → ∃ s', e'.registry.session? ⟨1⟩ = some s' ∧
        s.Withstands s' ∧ s'.secondary = s.secondary) ∧
      (∀ k s, e.registry.session? k = some s →
        e'.registry.channel? s.primary = e.registry.channel? s.primary) ∧
      e.registry.second? ⟨1⟩ = some ⟨3⟩ ∧
      e'.registry.channel? ⟨3⟩ = e.registry.channel? ⟨3⟩ := by
  intro setup os config e e'
  obtain ⟨hsessions, -, -, -, -, -, hrest⟩ :=
    no_datagram_ends_a_session setup 4 1 config os ⟨10⟩ [17, 0, 1, 8]
  have htoken : e.addressee setup [17, 0, 1, 8] = some ⟨2⟩ := by decide +kernel
  have hmixes : EachStep (occur setup) (fun e o => e.mixes o = false)
      (Engine.start 4 1 config) os := by
    decide +kernel
  obtain ⟨hprimary, hsecond⟩ := hrest hmixes
  have hnodup : e'.registry.names.Nodup := by decide +kernel
  have hgiven : e.registry.second? ⟨1⟩ = some ⟨3⟩ := by decide +kernel
  have hname : ∃ name, e.registry.channelId? ⟨3⟩ = some name := by
    refine Option.isSome_iff_exists.1 ?_
    decide +kernel
  obtain ⟨name, hname⟩ := hname
  have hother : e.addressee setup [17, 0, 1, 8] ≠ some ⟨1⟩ := by
    rw [htoken]
    decide
  refine ⟨htoken, by decide +kernel, by decide +kernel, fun s hs => ?_, hprimary, hgiven,
    (hsecond hnodup ⟨1⟩ ⟨3⟩ name hother hgiven hname).1⟩
  obtain ⟨s', hs', hwithstands, hsame | hmeant⟩ := hsessions ⟨1⟩ s hs
  · exact ⟨s', hs', hwithstands, hsame⟩
  · exact absurd hmeant hother

/-- Two runs in which a channel has two uses, and then a datagram comes with the token of the second
session, from an endpoint that nobody knows.  In the first one the channel on which the first
session was opened is added to the second session, and the datagram closes it.  In the other one a
channel is added to the first session and then to the second one, and the datagram closes it, and
nobody is found by its name, but the first session still has it. -/
theorem shared_channels_closed_by_datagram :
    let setup : Setup :=
      { codec := .plain, resolve := fun token => token.head?.map fun b => ⟨b.toUInt64⟩ }
    let opened : List Occurrence :=
      [.channel (.stream { id := ⟨50⟩ }), .channel (.stream { id := ⟨51⟩ }),
      .channel (.memory { id := ⟨52⟩, transport := .reliableUdp }),
      .operation (.registry (.create ⟨0⟩)), .operation (.registry (.create ⟨1⟩)),
      .operation (.registry (.activate ⟨1⟩)), .operation (.registry (.activate ⟨2⟩)),
      .operation (.registry (.bindPlayer ⟨1⟩ ⟨7⟩)), .operation (.registry (.bindPlayer ⟨2⟩ ⟨8⟩))]
    let config : DispatcherConfig := {}
    let start := Engine.start 4 1 config
    let e₁ := start.undergo setup (opened ++ [.operation (.registry (.attach ⟨0⟩ [8]))])
    let e₁' := e₁.receiveDatagram setup ⟨9⟩ [17, 0, 1, 8]
    let e₂ := start.undergo setup (opened ++ [.operation (.registry (.attach ⟨2⟩ [7])),
      .operation (.registry (.attach ⟨2⟩ [8]))])
    let e₂' := e₂.receiveDatagram setup ⟨9⟩ [17, 0, 1, 8]
    ((e₁.registry.session? ⟨1⟩).map (·.primary) = some ⟨0⟩ ∧
        e₁.addressee setup [17, 0, 1, 8] = some ⟨2⟩ ∧
        (e₁.registry.channel? ⟨0⟩).map (·.isOpen) = some true ∧
        (e₁'.registry.channel? ⟨0⟩).map (·.isOpen) = some false) ∧
      e₂.registry.second? ⟨1⟩ = some ⟨2⟩ ∧ e₂'.registry.second? ⟨1⟩ = some ⟨2⟩ ∧
        e₂.addressee setup [17, 0, 1, 8] = some ⟨2⟩ ∧
        (e₂.registry.channel? ⟨2⟩).map (·.isOpen) = some true ∧
        (e₂'.registry.channel? ⟨2⟩).map (·.isOpen) = some false ∧
        (e₂.registry.lookupSecondary ⟨52⟩).isSome ∧ e₂'.registry.lookupSecondary ⟨52⟩ = none := by
  decide +kernel

end Engine

end SessionServer
