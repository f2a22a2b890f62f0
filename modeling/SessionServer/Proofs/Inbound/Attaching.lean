/-
# Adding a second channel

Whoever opens a second channel names a player by a token, and the session of that player gets the
channel if it is active and was opened on a stream.  Otherwise the channel is closed, and whoever
offered it learns why.  Which of the four answers is given is decided by the token, the player's
session and its first channel alone (`Decides`).

A session that gets a channel lets go of the one that it had.  It may get the very channel that it
has, which then must not be closed: a channel of the same name is taken for the same one.  All that
changes when a channel is refused or granted is told by `Refuses` and `Grants`, which also say that
nothing else does.

Main results: what is answered (`attach_eq_iff`), what it comes with (`refuses_attach`,
`grants_attach`), and both for every registry that an engine can come to (`attach_decided_cleanly`).
-/
import SessionServer.Proofs.Inbound.Datagrams

namespace SessionServer

namespace Registry

variable {r r' : Registry} {resolve : Resolver} {token : Bytes} {ref : ChannelRef} {c : Channel}
  {k : SessionId} {s : Session} {player : PlayerId} {outcome : AttachOutcome}

/-! ## What is answered -/

/-- The session of a player, if there is one that lookups find. -/
def sessionFor? (r : Registry) (player : PlayerId) : Option Session :=
  (r.sessionOf player).bind r.session?

/-- What is to be answered to whoever offers a second channel. -/
inductive Decides (r : Registry) (resolve : Resolver) (token : Bytes) : AttachOutcome → Prop
  /-- The token names nobody. -/
  | unknown (hplayer : resolve token = none) : Decides r resolve token .playerNotFound
  /-- The player has no session, or one that is not active. -/
  | inactive {player : PlayerId} (hplayer : resolve token = some player)
      (hinactive : ∀ s, r.sessionFor? player = some s → s.isActive = false) :
      Decides r resolve token .sessionNotFound
  /-- The session of the player is active, and was not opened on a stream. -/
  | unfit {player : PlayerId} {s : Session} (hplayer : resolve token = some player)
      (hs : r.sessionFor? player = some s) (hactive : s.isActive = true)
      (hprimary : r.carries .stream s.primary = false) :
      Decides r resolve token .invalidSessionProtocol
  | fit {player : PlayerId} {k : SessionId} {s : Session} (hplayer : resolve token = some player)
      (hk : r.sessionOf player = some k) (hs : r.session? k = some s) (hactive : s.isActive = true)
      (hprimary : r.carries .stream s.primary = true) : Decides r resolve token (.success k)

lemma sessionFor?_of_sessionOf (hk : r.sessionOf player = some k) (hs : r.session? k = some s) :
    r.sessionFor? player = some s := by
  rw [sessionFor?, hk, Option.bind_some, hs]

/-- There is always something to answer. -/
lemma exists_decides (r : Registry) (resolve : Resolver) (token : Bytes) :
    ∃ outcome, r.Decides resolve token outcome := by
  cases hplayer : resolve token with
  | none => exact ⟨_, .unknown hplayer⟩
  | some player =>
    by_cases hactive : ∃ s, r.sessionFor? player = some s ∧ s.isActive = true
    · obtain ⟨s, hs, hactive⟩ := hactive
      cases hprimary : r.carries .stream s.primary with
      | false => exact ⟨_, .unfit hplayer hs hactive hprimary⟩
      | true =>
        obtain ⟨k, hk, hs⟩ := Option.bind_eq_some_iff.1 hs
        exact ⟨_, .fit hplayer hk hs hactive hprimary⟩
    · refine ⟨_, .inactive hplayer fun s hs => eq_false_of_ne_true fun h => ?_⟩
      exact hactive ⟨s, hs, h⟩

/-- A channel that is not granted is closed, and nothing else is done. -/
lemma Decides.attach_eq (h : r.Decides resolve token outcome) (hno : outcome.session? = none)
    (hc : r.channel? ref = some c) :
    r.attach resolve ref token = (outcome, r.closeChannel ref) := by
  have hname := channelId?_of_channel? hc
  unfold attach tryAttach
  cases h with
  | unknown hplayer => rw [hplayer]
  | @inactive player hplayer hinactive =>
    cases hs : (r.sessionOf player).bind r.session? with
    | none => simp only [hplayer, hs]
    | some s =>
      have hinactive : s.isActive = false := hinactive s hs
      simp only [hplayer, hs, hname, hinactive, Bool.not_false, if_true]
  | @unfit player s hplayer hs hactive hprimary =>
    have hs : (r.sessionOf player).bind r.session? = some s := hs
    simp only [hplayer, hs, hname, hactive, hprimary, Bool.not_true, Bool.not_false, if_true,
      Bool.false_eq_true, if_false]
  | fit => cases hno

/-- The registry after a session has got a channel in place of the one that it had. -/
def granted (r : Registry) (k : SessionId) (previous : Option ChannelRef) (ref : ChannelRef)
    (name : ChannelId) : Registry :=
  ({ r with bySecondary := r.bySecondary.insert name k }.modifySession k
    fun s => { s with secondary := some ref }).replaceSecondary previous name

lemma attach_eq_of_fit (hr : r.Keyed) (hplayer : resolve token = some player)
    (hk : r.sessionOf player = some k) (hs : r.session? k = some s) (hactive : s.isActive = true)
    (hprimary : r.carries .stream s.primary = true) (hc : r.channel? ref = some c) :
    r.attach resolve ref token = (.success k, r.granted k s.secondary ref c.id) := by
  have hkey : s.id = k := hr k s.core (core_eq_some_iff.2 ⟨s, hs, rfl⟩)
  have hfound : (r.sessionOf player).bind r.session? = some s := sessionFor?_of_sessionOf hk hs
  unfold attach tryAttach
  simp only [hplayer, hfound, channelId?_of_channel? hc, hactive, hprimary, Bool.not_true,
    Bool.false_eq_true, if_false, hkey, granted]

/-- The answer is the one that is to be given. -/
lemma attach_eq_iff (hr : r.Keyed) (hc : r.channel? ref = some c) :
    (r.attach resolve ref token).1 = outcome ↔ r.Decides resolve token outcome := by
  have hanswer : ∀ outcome, r.Decides resolve token outcome →
      (r.attach resolve ref token).1 = outcome := by
    intro outcome h
    cases hno : outcome.session? with
    | none => rw [h.attach_eq hno hc]
    | some k =>
      cases h with
      | fit hplayer hk hs hactive hprimary =>
        rw [attach_eq_of_fit hr hplayer hk hs hactive hprimary hc]
      | _ => cases hno
  -- some answer is to be given, and it is the one that is given
  refine ⟨fun h => ?_, hanswer outcome⟩
  obtain ⟨outcome', hdecides⟩ := r.exists_decides resolve token
  exact (hanswer outcome' hdecides).symm.trans h ▸ hdecides

/-! ## What it comes with -/

/-- The channel is closed, and nothing else changes. -/
structure Refuses (ref : ChannelRef) (c : Channel) (r r' : Registry) : Prop where
  rest : r' = { r with channels := r'.channels }
  closed : r'.channel? ref = some c.close ∧ c.close.isOpen = false
  others : ∀ ref', ref' ≠ ref → r'.channel? ref' = r.channel? ref'

/-- The session has the channel as its second one, is found by its name, and nothing happens to the
channel.  If the session had another one, of another name, that one is closed and nobody is found by
its name.  Nothing else changes. -/
structure Grants (k : SessionId) (s : Session) (ref : ChannelRef) (c : Channel)
    (r r' : Registry) : Prop where
  rest : r' = { r with
    sessions := r.sessions.modify k fun s => { s with secondary := some ref }
    channels := r'.channels
    bySecondary := r'.bySecondary }
  session : r'.session? k = some { s with secondary := some ref }
  others : ∀ id, id ≠ k → r'.session? id = r.session? id
  found : r'.lookupSecondary c.id = some k
  channel : r'.channel? ref = some c
  replaced : ∀ old c', s.secondary = some old → r.channel? old = some c' → c'.id ≠ c.id →
    r'.channel? old = some c'.close ∧ c'.close.isOpen = false ∧ r'.lookupSecondary c'.id = none
  channels : ∀ ref', (s.secondary = some ref' → r.channelId? ref' = some c.id) →
    r'.channel? ref' = r.channel? ref'
  entries : ∀ name, name ≠ c.id → s.secondary.bind r.channelId? ≠ some name →
    r'.bySecondary.find? name = r.bySecondary.find? name

lemma refuses_closeChannel (hc : r.channel? ref = some c) :
    Refuses ref c r (r.closeChannel ref) where
  rest := rfl
  closed := by
    rw [channel?_closeChannel_self, hc]
    exact ⟨rfl, Channel.isOpen_close c⟩
  others ref' hne := channel?_closeChannel_of_ne hne

lemma mem_live_of_sessionOf (hk : r.sessionOf player = some k) : k ∈ r.live := by
  obtain ⟨found, -, hget⟩ := Option.bind_eq_some_iff.1 hk
  obtain rfl := eq_of_get? hget
  unfold get? at hget
  split_ifs at hget with hlive
  exact hlive

lemma grants_granted (hs : r.session? k = some s) (hlive : k ∈ r.live)
    (hc : r.channel? ref = some c) : Grants k s ref c r (r.granted k s.secondary ref c.id) := by
  have hjoins : Joins k s.core ref c.id r (r.granted k s.secondary ref c.id) :=
    joins_replaceSecondary (core_eq_some_iff.2 ⟨s, hs, rfl⟩) ref c.id
  obtain ⟨channels, bySecondary, heq⟩ : ∃ channels bySecondary,
      r.granted k s.secondary ref c.id = { r with
        sessions := r.sessions.modify k fun s => { s with secondary := some ref }
        channels
        bySecondary } := replaceSecondary_eq _ s.secondary c.id
  have hsessions : (r.granted k s.secondary ref c.id).sessions
      = r.sessions.modify k fun s => { s with secondary := some ref } := by rw [heq]
  generalize r.granted k s.secondary ref c.id = r' at hjoins heq hsessions ⊢
  have hname := channelId?_of_channel? hc
  exact
    { rest := by rw [heq]
      session := by rw [session?_of_modify hsessions, if_pos rfl, hs, Option.map_some]
      others id hid := by rw [session?_of_modify hsessions, if_neg hid]
      found := by
        rw [lookupSecondary, hjoins.bySecondary, if_pos rfl, Option.bind_some, get?, hjoins.live,
          if_pos hlive]
      channel := by rw [hjoins.channel?, if_neg fun h => h.2 hname, hc]
      replaced old c' hold hc' hne := by
        have hname' := channelId?_of_channel? hc'
        have hother : r.channelId? old ≠ some c.id := by simpa [hname'] using hne
        have hlost : s.core.secondary.bind r.channelId? = some c'.id := by
          rw [show s.core.secondary = some old from hold, Option.bind_some, hname']
        refine ⟨?_, Channel.isOpen_close c', ?_⟩
        · rw [hjoins.channel?, if_pos ⟨hold, hother⟩, hc', Option.map_some]
        · rw [lookupSecondary, hjoins.bySecondary, if_neg hne, if_pos hlost, Option.bind_none]
      channels ref' hsame := by rw [hjoins.channel?, if_neg fun h => h.2 (hsame h.1)]
      entries name hother hold :=
        (hjoins.bySecondary name).trans ((if_neg hother).trans (if_neg hold)) }

lemma refuses_attach (hr : r.Keyed) (hc : r.channel? ref = some c)
    (hno : ∀ k, (r.attach resolve ref token).1 ≠ .success k) :
    Refuses ref c r (r.attach resolve ref token).2 := by
  have hdecides := (attach_eq_iff hr hc).1 (rfl : (r.attach resolve ref token).1 = _)
  have hnone : (r.attach resolve ref token).1.session? = none := by
    cases h : (r.attach resolve ref token).1 with
    | success k => exact absurd h (hno k)
    | _ => rfl
  rw [hdecides.attach_eq hnone hc]
  exact refuses_closeChannel hc

lemma grants_attach (hr : r.Keyed) (hc : r.channel? ref = some c)
    (hk : (r.attach resolve ref token).1 = .success k) :
    ∃ s, r.session? k = some s ∧ Grants k s ref c r (r.attach resolve ref token).2 := by
  cases (attach_eq_iff hr hc).1 hk with
  | @fit player _ s hplayer hsession hs hactive hprimary =>
    refine ⟨s, hs, ?_⟩
    rw [attach_eq_of_fit hr hplayer hsession hs hactive hprimary hc]
    exact grants_granted hs (mem_live_of_sessionOf hsession) hc

end Registry

namespace Engine

/-- **A second channel is granted or refused, and nothing else happens.**  Whatever has happened
from the start on, whatever tokens stand for, and whichever channel is offered with whatever token:
the answer is the one that `Decides` says.  With any answer but success the channel is closed, and
otherwise all is as it was.  With success the session has the channel and is found by its name,
loses the one of another name that it had, and all else is as it was. -/
theorem attach_decided_cleanly (setup : Setup) (queueCapacity shards : ℕ)
    (config : DispatcherConfig) (os : List Occurrence) (resolve : Resolver) (ref : ChannelRef)
    (c : Channel) (token : Bytes)
    (hc : ((Engine.start queueCapacity shards config).undergo setup os).registry.channel? ref
      = some c) :
    let r := ((Engine.start queueCapacity shards config).undergo setup os).registry
    let answer := (r.attach resolve ref token).1
    let r' := (r.attach resolve ref token).2
    (∀ outcome, answer = outcome ↔ r.Decides resolve token outcome) ∧
    ((∀ k, answer ≠ .success k) → r.Refuses ref c r') ∧
    ∀ k, answer = .success k → ∃ s, r.session? k = some s ∧ r.Grants k s ref c r' := by
  intro r answer r'
  have hr : r.Keyed := keyed_undergo setup
  exact ⟨fun outcome => Registry.attach_eq_iff hr hc, Registry.refuses_attach hr hc,
    fun k => Registry.grants_attach hr hc⟩

/-- A session that has a second channel is offered another one, with the token of its player. -/
theorem second_channel_replaced :
    let setup : Setup :=
      { codec := .plain, resolve := fun token => token.head?.map fun b => ⟨b.toUInt64⟩ }
    let os : List Occurrence := [.channel (.stream { id := ⟨50⟩ }),
      .channel (.memory { id := ⟨51⟩, transport := .datagram }),
      .channel (.memory { id := ⟨52⟩, transport := .datagram }),
      .operation (.registry (.create ⟨0⟩)), .operation (.registry (.activate ⟨1⟩)),
      .operation (.registry (.bindPlayer ⟨1⟩ ⟨7⟩)), .operation (.registry (.attach ⟨1⟩ [7]))]
    let r := ((Engine.start 4 1 {}).undergo setup os).registry
    let r' := (r.attach setup.resolve ⟨2⟩ [7]).2
    (r.attach setup.resolve ⟨2⟩ [7]).1 = .success ⟨1⟩ ∧
      (r'.session? ⟨1⟩).bind (·.secondary) = some ⟨2⟩ ∧ r'.lookupSecondary ⟨52⟩ = some ⟨1⟩ ∧
      (r'.channel? ⟨1⟩).map (·.isOpen) = some false ∧ r'.lookupSecondary ⟨51⟩ = none ∧
      r'.channel? ⟨0⟩ = r.channel? ⟨0⟩ := by
  intro setup os r r'
  let c : Channel := .memory { id := ⟨52⟩, transport := .datagram }
  have hc : r.channel? ⟨2⟩ = some c := by decide +kernel
  obtain ⟨-, -, hsuccess⟩ :=
    attach_decided_cleanly setup 4 1 {} os setup.resolve ⟨2⟩ c [7] hc
  have hsecond : (r.session? ⟨1⟩).bind (·.secondary) = some ⟨1⟩ := by decide +kernel
  have hanswer : (r.attach setup.resolve ⟨2⟩ [7]).1 = .success ⟨1⟩ := by decide +kernel
  obtain ⟨s, hs, hgrants⟩ := hsuccess ⟨1⟩ hanswer
  have hold : s.secondary = some ⟨1⟩ := by rwa [hs, Option.bind_some] at hsecond
  have hc' : r.channel? ⟨1⟩ = some (.memory { id := ⟨51⟩, transport := .datagram }) := by
    decide +kernel
  obtain ⟨hclosed, hopen, hlost⟩ := hgrants.replaced ⟨1⟩ _ hold hc' (by decide)
  refine ⟨hanswer, ?_, hgrants.found, ?_, hlost, hgrants.channels ⟨0⟩ fun h => ?_⟩
  · rw [hgrants.session, Option.bind_some]
  · rw [hclosed, Option.map_some, hopen]
  · rw [hold] at h
    cases h

end Engine

end SessionServer
