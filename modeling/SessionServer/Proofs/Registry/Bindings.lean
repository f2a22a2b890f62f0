/-
# Which second channels are legal

A second channel is for traffic beside a stream: only a session that is active and was opened on a
stream may have one, and only datagram channels and reliable ones over datagrams may be one.  The
first half holds at all times, since a session is asked about itself before it gets a channel and
loses the channel when it is closed.  The second half fails: nobody asks the channel.  Whatever the
application offers is added, even another stream.

All of this is about pairs of a session and its second channel.  Such a pair is as it was before a
deed, or it was made by the deed (`second_act`).

Main result: sessions with a second channel are active and were opened on a stream, and second
channels are legal in all states of a run exactly if no deed of the run adds an unfit one
(`legal_iff_forall_not_misfits`).
-/
import SessionServer.Proofs.Registry.Indexes

namespace SessionServer

namespace Registry

variable {r r' : Registry} {resolve : Resolver} {j k : SessionId} {s t : Session}
  {ref : ChannelRef} {name : ChannelId} {d : Deed}

/-- The channel at a place is of a kind that may be added to a session. -/
def fits (r : Registry) (ref : ChannelRef) : Bool :=
  (r.channel? ref).any (·.transport.isSecondaryCapable)

/-- The session may have a second channel. -/
structure Entitles (r : Registry) (s : Session) : Prop where
  isActive : s.isActive = true
  stream : r.carries .stream s.primary = true

/-- Every second channel is a fit one and belongs to a session that may have one. -/
def Legal (r : Registry) : Prop :=
  ∀ k s ref, r.session? k = some s → s.secondary = some ref → r.Entitles s ∧ r.fits ref = true

/-- The deed gives a session a channel that is unfit to be its second one. -/
def misfits (resolve : Resolver) (r : Registry) : Deed → Bool
  | .attach ref token => (r.attach resolve ref token).1.session?.isSome && !r.fits ref
  | _ => false

/-! ## What becomes of a session with its second channel -/

/-- Closing a channel does not show in a property of its transport. -/
lemma Fades.any_transport_eq (h : Fades r r') (p : Transport → Bool) (ref : ChannelRef) :
    (r'.channel? ref).any (fun c => p c.transport)
      = (r.channel? ref).any fun c => p c.transport := by
  obtain ⟨f, hf, heq⟩ := h ref
  rw [heq, Option.any_map]
  exact congrArg (Option.any · _) (funext fun c => congrArg p (hf c).transport_eq)

lemma Fades.fits_eq (h : Fades r r') (ref : ChannelRef) : r'.fits ref = r.fits ref :=
  h.any_transport_eq Transport.isSecondaryCapable ref

lemma Entitles.of_fades (h : r.Entitles s) (hfades : Fades r r') (hprimary : t.primary = s.primary)
    (hactive : s.isActive = true → t.isActive = true) : r'.Entitles t where
  isActive := hactive h.isActive
  stream := by
    rw [hprimary]
    exact (hfades.any_transport_eq (· = .stream) s.primary).trans h.stream

/-- Whoever gets a channel may have one. -/
lemma entitles_of_attach (hr : r.Keyed) {token : Bytes}
    (hout : (r.attach resolve ref token).1 = .success k) (hs : r.core k = some s) :
    r.Entitles s := by
  unfold attach tryAttach at hout
  cases hplayer : resolve token with
  | none => simp [hplayer] at hout
  | some player =>
    cases hfound : (r.sessionOf player).bind r.session? with
    | none => simp [hplayer, hfound] at hout
    | some u =>
      cases hname : r.channelId? ref with
      | none => simp [hplayer, hfound, hname] at hout
      | some name =>
        simp only [hplayer, hfound, hname] at hout
        split_ifs at hout with hactive hstream
        obtain ⟨j, -, hj⟩ := Option.bind_eq_some_iff.1 hfound
        have hcore : r.core j = some u.core := core_eq_some_iff.2 ⟨u, hj, rfl⟩
        have hkey : u.id = j := hr j u.core hcore
        obtain rfl : j = k := hkey.symm.trans (AttachOutcome.success.inj hout)
        obtain rfl : u.core = s := Option.some.inj (hcore.symm.trans hs)
        have huactive : u.isActive = true := by simpa using hactive
        have hustream : r.carries .stream u.primary = true := by simpa using hstream
        exact ⟨huactive, hustream⟩

/-- The session has the second channel as the first session had it before. -/
def Retains (s t : Session) (ref : ChannelRef) : Prop :=
  s.secondary = some ref ∧ t.primary = s.primary ∧ (s.isActive = true → t.isActive = true)

/-- A session that is changed in something else retains its second channel. -/
lemma retains_update (hs : r.core k = some s)
    (hcore : ∀ id, r'.core id = if id = k then some t else r.core id)
    (hprimary : t.primary = s.primary) (hactive : s.isActive = true → t.isActive = true)
    (hsecondary : t.secondary = s.secondary) {u : Session} (hu : r'.core j = some u)
    (href : u.secondary = some ref) : ∃ v, r.core j = some v ∧ Retains v u ref := by
  rw [hcore] at hu
  split_ifs at hu with hjk
  · obtain rfl := Option.some.inj hu
    exact ⟨s, hjk ▸ hs, hsecondary.symm.trans href, hprimary, hactive⟩
  · exact ⟨u, hu, href, rfl, fun h => h⟩

/-- A session with a second channel after a deed retains it, or got it by the deed. -/
lemma second_act (hr : r.Keyed) (hs : (r.act resolve d).core k = some s)
    (href : s.secondary = some ref) :
    (∃ t, r.core k = some t ∧ Retains t s ref) ∨
      ∃ token t, d = .attach ref token ∧ (r.attach resolve ref token).1 = .success k ∧
        r.core k = some t ∧ s = { t with secondary := some ref } := by
  cases d with
  | create primary =>
    rw [act, core_create] at hs
    split_ifs at hs
    · obtain rfl := Option.some.inj hs
      cases href
    · exact .inl ⟨s, hs, href, rfl, fun h => h⟩
  | activate id =>
    rcases activate_cases r id with hsame | ⟨t, ht, -, hcore⟩
    · rw [act, hsame] at hs
      exact .inl ⟨s, hs, href, rfl, fun h => h⟩
    · exact .inl (retains_update ht hcore rfl (fun _ => rfl) rfl hs href)
  | bindPlayer id player =>
    rcases bindPlayer_cases r id player with hsame | ⟨t, ht, -, hmeets⟩
    · rw [act, hsame] at hs
      exact .inl ⟨s, hs, href, rfl, fun h => h⟩
    · exact .inl (retains_update ht hmeets.core rfl (fun h => h) rfl hs href)
  | attach given token =>
    rcases attach_cases hr resolve given token with
      ⟨-, hclose⟩ | ⟨id, t, name, hout, ht, -, -, hjoins⟩
    · rw [act, hclose] at hs
      exact .inl ⟨s, hs, href, rfl, fun h => h⟩
    · rw [act, hjoins.core] at hs
      split_ifs at hs with hid
      · obtain rfl := Option.some.inj hs
        obtain rfl := Option.some.inj href
        exact .inr ⟨token, t, rfl, hid ▸ hout, hid ▸ ht, rfl⟩
      · exact .inl ⟨s, hs, href, rfl, fun h => h⟩
  | enqueue id p =>
    rcases enqueue_cases hr id p with ⟨-, hsame⟩ | ⟨t, admission, queue, ht, -, -, -, -, hcore⟩
    · exact .inl ⟨s, (hsame k).symm.trans hs, href, rfl, fun h => h⟩
    · exact .inl (retains_update ht hcore rfl (fun h => h) rfl hs href)
  | close id reason =>
    rcases close_cases r id reason with ⟨hsame, -⟩ | ⟨t, ht, -, hshuts⟩
    · rw [act, hsame] at hs
      exact .inl ⟨s, hs, href, rfl, fun h => h⟩
    · rw [act, hshuts.core] at hs
      split_ifs at hs
      · obtain rfl := Option.some.inj hs
        cases href
      · exact .inl ⟨s, hs, href, rfl, fun h => h⟩

/-! ## Who has a second channel -/

/-- Every session with a second channel may have one. -/
def Entitled (r : Registry) : Prop :=
  ∀ k s, r.core k = some s → s.secondary ≠ none → r.Entitles s

lemma Entitled.act (h : r.Entitled) (hr : r.Keyed) (resolve : Resolver) (d : Deed) :
    (r.act resolve d).Entitled := by
  intro k s hs hsecond
  have hfades := fades_act hr resolve d
  obtain ⟨ref, href⟩ := Option.ne_none_iff_exists'.1 hsecond
  rcases second_act hr hs href with
    ⟨t, ht, htref, hprimary, hactive⟩ | ⟨token, t, rfl, hout, ht, rfl⟩
  · exact (h k t ht (by simp [htref])).of_fades hfades hprimary hactive
  · exact (entitles_of_attach hr hout ht).of_fades hfades rfl fun hactive => hactive

lemma keyed_entitled_run (queueCapacity : Nat) (channels : Array Channel) (resolve : Resolver)
    (deeds : List Deed) :
    ((ofChannels queueCapacity channels).run resolve deeds).Keyed ∧
      ((ofChannels queueCapacity channels).run resolve deeds).Entitled := by
  induction deeds using List.reverseRecOn with
  | nil => exact ⟨nofun, nofun⟩
  | append_singleton deeds d ih =>
    rw [run_concat]
    exact ⟨keyed_act ih.1 resolve d, ih.2.act ih.1 resolve d⟩

/-! ## Which channels are second ones -/

lemma legal_iff_core : r.Legal ↔ ∀ k s ref, r.core k = some s → s.secondary = some ref →
    r.Entitles s ∧ r.fits ref = true := by
  constructor
  · rintro h k s ref hs href
    obtain ⟨t, ht, rfl⟩ := core_eq_some_iff.1 hs
    obtain ⟨hentitles, hfits⟩ := h k t ref ht href
    exact ⟨⟨hentitles.isActive, hentitles.stream⟩, hfits⟩
  · rintro h k s ref hs href
    obtain ⟨hentitles, hfits⟩ := h k s.core ref (core_eq_some_iff.2 ⟨s, hs, rfl⟩) href
    exact ⟨⟨hentitles.isActive, hentitles.stream⟩, hfits⟩

lemma misfits_eq_false_of_success {token : Bytes}
    (hout : (r.attach resolve ref token).1 = .success k)
    (hfits : r.misfits resolve (.attach ref token) = false) : r.fits ref = true := by
  simpa [misfits, hout, AttachOutcome.session?] using hfits

/-- A deed that adds no unfit channel leaves everything legal. -/
lemma Legal.act (h : r.Legal) (hr : r.Keyed) (hd : r.misfits resolve d = false) :
    (r.act resolve d).Legal := by
  rw [legal_iff_core] at h ⊢
  intro k s ref hs href
  have hfades := fades_act hr resolve d
  rw [hfades.fits_eq]
  rcases second_act hr hs href with
    ⟨t, ht, htref, hprimary, hactive⟩ | ⟨token, t, rfl, hout, ht, rfl⟩
  · obtain ⟨hentitles, hfits⟩ := h k t ref ht htref
    exact ⟨hentitles.of_fades hfades hprimary hactive, hfits⟩
  · exact ⟨(entitles_of_attach hr hout ht).of_fades hfades rfl fun hactive => hactive,
      misfits_eq_false_of_success hout hd⟩

/-- A deed that adds an unfit channel leaves it where it was put. -/
lemma not_legal_act (hr : r.Keyed) (hd : r.misfits resolve d = true) :
    ¬ (r.act resolve d).Legal := by
  intro hlegal
  cases d with
  | attach ref token =>
    rw [misfits, Bool.and_eq_true, Bool.not_eq_true'] at hd
    obtain ⟨hout, hunfit⟩ := hd
    rcases attach_cases hr resolve ref token with ⟨hfailed, -⟩ | ⟨k, s, name, -, -, -, -, hjoins⟩
    · cases houtcome : (r.attach resolve ref token).1 with
      | success k => exact hfailed k houtcome
      | _ => simp [houtcome, AttachOutcome.session?] at hout
    · have hs : (r.act resolve (.attach ref token)).core k
          = some { s with secondary := some ref } := by
        rw [act, hjoins.core, if_pos rfl]
      have hfits := (legal_iff_core.1 hlegal k _ ref hs rfl).2
      rw [(fades_act hr resolve (.attach ref token)).fits_eq, hunfit] at hfits
      cases hfits
  | _ => cases hd

/-- Whatever is done to a registry, whoever has a second channel is active and was opened on a
stream.  The second channels are fit ones in all states of a run, exactly if no deed of the run
adds an unfit one: that it is unfit does not keep it from being added. -/
theorem legal_iff_forall_not_misfits (queueCapacity : Nat) (channels : Array Channel)
    (resolve : Resolver) (deeds : List Deed) :
    let start := ofChannels queueCapacity channels
    (∀ k s, (start.run resolve deeds).session? k = some s → s.secondary ≠ none →
      (start.run resolve deeds).Entitles s) ∧
    ((∀ before, before <+: deeds → (start.run resolve before).Legal) ↔
      EachStep (act resolve) (fun r d => r.misfits resolve d = false) start deeds) := by
  intro start
  refine ⟨fun k s hs hsecond => ?_, ?_⟩
  · obtain ⟨-, hentitled⟩ := keyed_entitled_run queueCapacity channels resolve deeds
    obtain ⟨hactive, hstream⟩ := hentitled k s.core (core_eq_some_iff.2 ⟨s, hs, rfl⟩) hsecond
    exact ⟨hactive, hstream⟩
  · have hkeyed := fun before => (keyed_entitled_run queueCapacity channels resolve before).1
    constructor
    · intro hlegal
      refine eachStep_of_forall fun before d hbefore => ?_
      have hafter := hlegal _ hbefore
      rw [run_concat] at hafter
      exact eq_false_of_ne_true fun hd => not_legal_act (hkeyed before) hd hafter
    · intro hsteps before hbefore
      obtain ⟨after, rfl⟩ := hbefore
      have hbefore := (eachStep_append.1 hsteps).1
      clear hsteps
      induction before using List.reverseRecOn with
      | nil => exact fun k s ref hs => absurd hs nofun
      | append_singleton before d ih =>
        rw [eachStep_concat] at hbefore
        rw [run_concat]
        exact (ih hbefore.1).act (hkeyed before) hbefore.2

/-- The session of a player was opened on a stream and is active, and gets a text channel. -/
theorem text_channel_added_to_session :
    let resolve : Resolver := fun token => if token = [7] then some ⟨7⟩ else none
    let start := ofChannels 100 #[.stream { id := ⟨1⟩ }, .text { id := ⟨2⟩, capacity := 64 }]
    ¬ (start.run resolve
      [.create ⟨0⟩, .activate ⟨1⟩, .bindPlayer ⟨1⟩ ⟨7⟩, .attach ⟨1⟩ [7]]).Legal := by
  intro resolve start hlegal
  have hfits := (hlegal ⟨1⟩ _ ⟨1⟩ rfl rfl).2
  revert hfits
  decide

end Registry

end SessionServer
