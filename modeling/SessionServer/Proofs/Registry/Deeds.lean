/-
# What is done to the registry

Sessions are opened, made active, given to players, given channels, offered packets and closed, in
any order.  Each of these is a *deed*, and a registry lives through a list of them.  A deed does
its work piecemeal: closing, for one, changes the session, two channels and up to four lists.  This
file says of each deed what is different afterwards, all in one place, so that an invariant is
checked against what deeds do and not against how they do it.

A channel that is closed keeps its name, its transport and what was written to it.  No deed does
anything else to channels (`fades_act`).

Main results: what a deed does to the sessions, the lists and the channels (`core_create`,
`core_activate`, `bindPlayer_cases`, `attach_cases`, `close_cases`), and that of these lists
queueing a packet changes none (`listed_enqueue`).
-/
import SessionServer.Proofs.Registry.Core

namespace SessionServer

/-! ## Runs -/

section Runs

variable {σ δ α : Type} (step : σ → δ → σ)

/-- Every step of a run is taken in a state that allows it. -/
def EachStep (allows : σ → δ → Prop) : σ → List δ → Prop
  | _, [] => True
  | s, d :: deeds => allows s d ∧ EachStep allows (step s d) deeds

instance EachStep.decidable (allows : σ → δ → Prop) [∀ s d, Decidable (allows s d)] :
    ∀ (s : σ) (deeds : List δ), Decidable (EachStep step allows s deeds)
  | _, [] => isTrue trivial
  | s, d :: deeds =>
    have := EachStep.decidable allows (step s d) deeds
    inferInstanceAs (Decidable (allows s d ∧ EachStep step allows (step s d) deeds))

/-- What there is to note about the steps of a run, each noted when it is taken. -/
def gather (note : σ → δ → List α) : σ → List δ → List α
  | _, [] => []
  | s, d :: deeds => note s d ++ gather note (step s d) deeds

variable {step}

lemma eachStep_append {allows : σ → δ → Prop} {s : σ} {before after : List δ} :
    EachStep step allows s (before ++ after)
      ↔ EachStep step allows s before ∧ EachStep step allows (before.foldl step s) after := by
  induction before generalizing s with
  | nil => simp [EachStep]
  | cons first before ih =>
    simp only [List.cons_append, EachStep, List.foldl_cons, ih, and_assoc]

lemma eachStep_concat {allows : σ → δ → Prop} {s : σ} {deeds : List δ} {d : δ} :
    EachStep step allows s (deeds ++ [d])
      ↔ EachStep step allows s deeds ∧ allows (deeds.foldl step s) d := by
  simp [eachStep_append, EachStep]

lemma eachStep_of_forall {allows : σ → δ → Prop} {s : σ} {deeds : List δ}
    (h : ∀ before d, before ++ [d] <+: deeds → allows (before.foldl step s) d) :
    EachStep step allows s deeds := by
  induction deeds generalizing s with
  | nil => trivial
  | cons first deeds ih =>
    have hmore : ∀ before d, before ++ [d] <+: deeds → first :: before ++ [d] <+: first :: deeds :=
      fun before d hb => (List.prefix_cons_inj first).2 hb
    exact ⟨h [] first (by simp), ih fun before d hb => h (first :: before) d (hmore before d hb)⟩

lemma gather_concat (note : σ → δ → List α) (s : σ) (deeds : List δ) (d : δ) :
    gather step note s (deeds ++ [d])
      = gather step note s deeds ++ note (deeds.foldl step s) d := by
  induction deeds generalizing s with
  | nil => simp [gather]
  | cons first deeds ih =>
    simp only [List.cons_append, gather, List.foldl_cons, ih, List.append_assoc]

end Runs

lemma Session.isClosed_of_isActive {s : Session} (h : s.isActive = true) : s.isClosed = false := by
  have hstate : s.state = .active := by simpa [isActive] using h
  simp [isClosed, hstate]

/-! ## Closed channels -/

/-- The second channel is the first one, or what is left of it after it was closed. -/
structure Channel.Fades (c c' : Channel) : Prop where
  id_eq : c'.id = c.id
  transport_eq : c'.transport = c.transport
  written_eq : c'.written = c.written
  closed : c.isOpen = false → c'.isOpen = false

namespace Channel

lemma Fades.refl (c : Channel) : c.Fades c := ⟨rfl, rfl, rfl, fun h => h⟩

lemma Fades.trans {c₁ c₂ c₃ : Channel} (h₁ : c₁.Fades c₂) (h₂ : c₂.Fades c₃) : c₁.Fades c₃ :=
  ⟨h₂.id_eq.trans h₁.id_eq, h₂.transport_eq.trans h₁.transport_eq,
    h₂.written_eq.trans h₁.written_eq, h₂.closed ∘ h₁.closed⟩

/-- The message that closes a text channel carries no bytes. -/
lemma accepted_close (c : Channel) : c.close.accepted = c.accepted := by
  cases c with
  | text c =>
    simp only [close, accepted, TextChannel.close]
    split_ifs
    · rfl
    · simp [TextChannel.accepted, TextChannel.traffic, TextChannel.payload?]
    · rfl
  | _ => rfl

lemma fades_close (c : Channel) : c.Fades c.close :=
  ⟨id_close c, transport_close c, congrArg List.flatten (accepted_close c), fun _ => isOpen_close c⟩

end Channel

namespace Registry

variable {r r' r₁ r₂ r₃ : Registry} {resolve : Resolver} {id k : SessionId} {s : Session}
  {ref : ChannelRef} {name : ChannelId}

/-- Some channels of the first registry are closed in the second one. -/
def Fades (r r' : Registry) : Prop :=
  ∀ ref, ∃ f : Channel → Channel, (∀ c, Channel.Fades c (f c)) ∧
    r'.channel? ref = (r.channel? ref).map f

lemma Fades.of_eq (h : ∀ ref, r'.channel? ref = r.channel? ref) : Fades r r' :=
  fun ref => ⟨fun c => c, Channel.Fades.refl, by simp [h]⟩

lemma Fades.trans (h₁ : Fades r₁ r₂) (h₂ : Fades r₂ r₃) : Fades r₁ r₃ := by
  intro ref
  obtain ⟨f, hf, heq₁⟩ := h₁ ref
  obtain ⟨g, hg, heq₂⟩ := h₂ ref
  exact ⟨g ∘ f, fun c => (hf c).trans (hg (f c)), by rw [heq₂, heq₁, Option.map_map]⟩

lemma Fades.channelId?_eq (h : Fades r r') (ref : ChannelRef) :
    r'.channelId? ref = r.channelId? ref := by
  obtain ⟨f, hf, heq⟩ := h ref
  simp only [channelId?, heq, Option.map_map]
  exact congrArg (Option.map · _) (funext fun c => (hf c).id_eq)

lemma Fades.channel?_of_closed (h : Fades r r') {c : Channel} (hc : r.channel? ref = some c)
    (hclosed : c.isOpen = false) : ∃ c', r'.channel? ref = some c' ∧ c'.isOpen = false := by
  obtain ⟨f, hf, heq⟩ := h ref
  exact ⟨f c, by rw [heq, hc]; rfl, (hf c).closed hclosed⟩

lemma fades_modifyChannel {f : Channel → Channel}
    (hf : ∀ c, r.channel? ref = some c → c.Fades (f c)) : Fades r (r.modifyChannel ref f) := by
  intro ref'
  rw [channel?_modifyChannel]
  split_ifs with href
  · subst href
    cases hc : r.channel? ref' with
    | none => exact ⟨fun c => c, Channel.Fades.refl, rfl⟩
    | some c =>
      refine ⟨fun c' => if c' = c then f c else c', fun c' => ?_, by simp⟩
      dsimp only
      split_ifs with hsame
      · exact hsame ▸ hf c hc
      · exact Channel.Fades.refl c'
  · exact ⟨fun c => c, Channel.Fades.refl, by simp⟩

lemma fades_closeChannel (r : Registry) (ref : ChannelRef) : Fades r (r.closeChannel ref) :=
  fades_modifyChannel fun c _ => Channel.fades_close c

lemma channel?_closeChannel_self (r : Registry) (ref : ChannelRef) :
    (r.closeChannel ref).channel? ref = (r.channel? ref).map Channel.close := by
  rw [closeChannel, channel?_modifyChannel, if_pos rfl]

/-! ## The lists of sessions -/

/-- The two registries list the same sessions under the same names. -/
structure Listed (r r' : Registry) : Prop where
  live : r'.live = r.live
  nextId : r'.nextId = r.nextId
  byPrimary : r'.byPrimary = r.byPrimary
  bySecondary : r'.bySecondary = r.bySecondary
  byPlayer : r'.byPlayer = r.byPlayer

lemma listed_offer (r : Registry) (s : Session) (p : Packet) : Listed r (r.offer s p).2 := by
  unfold offer
  split <;> exact ⟨rfl, rfl, rfl, rfl, rfl⟩

lemma listed_enqueue (r : Registry) (k : SessionId) (p : Packet) :
    Listed r (r.enqueue k p).2 := by
  unfold enqueue
  cases r.session? k with
  | none => exact ⟨rfl, rfl, rfl, rfl, rfl⟩
  | some s =>
    dsimp only
    split_ifs
    · exact ⟨rfl, rfl, rfl, rfl, rfl⟩
    · exact ⟨rfl, rfl, rfl, rfl, rfl⟩
    · exact listed_offer r s p

lemma listed_activate (r : Registry) (k : SessionId) : Listed r (r.activate k).2 := by
  unfold activate
  cases r.session? k with
  | none => exact ⟨rfl, rfl, rfl, rfl, rfl⟩
  | some s =>
    dsimp only
    split_ifs <;> exact ⟨rfl, rfl, rfl, rfl, rfl⟩

/-! ## Opening and activating -/

/-- What a session is when it is opened, but for the time. -/
def newSession (r : Registry) (primary : ChannelRef) : Session :=
  { id := ⟨r.nextId⟩, primary, queue := .ofCapacity r.queueCapacity, createdAt := r.clock }

lemma core_create (r : Registry) (primary : ChannelRef) (id : SessionId) :
    (r.create primary).2.core id
      = if id = ⟨r.nextId⟩ then some (r.newSession primary) else r.core id := by
  have hfind : (r.create primary).2.session? id
      = if id = ⟨r.nextId⟩ then some { r.newSession primary with lastActive := r.clock }
        else r.session? id := Index.find?_insert r.sessions _ id _
  unfold core
  rw [hfind]
  split_ifs <;> rfl

lemma find?_byPrimary_create (r : Registry) (primary : ChannelRef) (name : ChannelId) :
    (r.create primary).2.byPrimary.find? name
      = if r.channelId? primary = some name then some ⟨r.nextId⟩ else r.byPrimary.find? name := by
  unfold create
  cases r.channelId? primary with
  | none => simp
  | some channel => simp [eq_comm]

/-- Only a fresh session becomes active. -/
lemma activate_cases (r : Registry) (k : SessionId) :
    (r.activate k).2 = r ∨ ∃ s, r.core k = some s ∧ s.state = .fresh ∧
      ∀ id, (r.activate k).2.core id
        = if id = k then some { s with state := .active } else r.core id := by
  unfold activate
  cases hk : r.session? k with
  | none => exact .inl rfl
  | some s =>
    have hcore : r.core k = some s.core := core_eq_some_iff.2 ⟨s, hk, rfl⟩
    dsimp only
    split_ifs with hfresh
    · exact .inr ⟨s.core, hcore, hfresh, fun id => core_eq_of_map hcore
        (core_modifySession (g := fun s => { s with state := .active }) (fun _ => rfl) r k id)⟩
    · exact .inl rfl

lemma channel?_activate (r : Registry) (k : SessionId) (ref : ChannelRef) :
    (r.activate k).2.channel? ref = r.channel? ref := by
  unfold activate
  cases r.session? k with
  | none => rfl
  | some s =>
    dsimp only
    split_ifs <;> rfl

/-! ## Giving a session to a player -/

lemma find?_unlink (m : Index PlayerId SessionId) (player other : PlayerId) (k : SessionId) :
    (unlink m player k).find? other
      = if other = player ∧ m.find? other = some k then none else m.find? other := by
  unfold unlink
  split_ifs with hk hother hother
  · rw [Index.find?_erase, if_pos hother.1]
  · rw [Index.find?_erase, if_neg fun heq => hother ⟨heq, heq ▸ hk⟩]
  · exact absurd (hother.1 ▸ hother.2) hk
  · rfl

/-- The index of players when a session leaves one player for another. -/
lemma find?_relink (m : Index PlayerId SessionId) (previous : Option PlayerId)
    (player other : PlayerId) (k : SessionId) :
    ((match previous with
        | some previous => if previous = player then m else unlink m previous k
        | none => m).insert player k).find? other
      = if other = player then some k
        else if previous = some other ∧ m.find? other = some k then none
        else m.find? other := by
  rw [Index.find?_insert]
  refine if_ctx_congr Iff.rfl (fun _ => rfl) fun hother => ?_
  cases previous with
  | none => simp
  | some previous =>
    simp only [Option.some.injEq]
    by_cases hsame : previous = player
    · rw [if_pos hsame, if_neg fun h => hother (h.1.symm.trans hsame)]
    · rw [if_neg hsame, find?_unlink]
      exact if_congr (and_congr_left fun _ => eq_comm) rfl rfl

/-- What giving a session to a player does. -/
structure Meets (k : SessionId) (s : Session) (player : PlayerId) (r r' : Registry) : Prop where
  core : ∀ id, r'.core id = if id = k then some { s with player := some player } else r.core id
  live : r'.live = r.live
  nextId : r'.nextId = r.nextId
  byPrimary : r'.byPrimary = r.byPrimary
  bySecondary : r'.bySecondary = r.bySecondary
  byPlayer : ∀ other, r'.byPlayer.find? other
    = if other = player then some k
      else if s.player = some other ∧ r.byPlayer.find? other = some k then none
      else r.byPlayer.find? other
  channel? : ∀ ref, r'.channel? ref = r.channel? ref

lemma bindPlayer_of_over (h : r.Over k) (player : PlayerId) :
    r.bindPlayer k player = (.error (.closed k), r) := by
  unfold bindPlayer
  cases hk : r.session? k with
  | none => rfl
  | some s =>
    have hclosed : s.isClosed = true := h s.core (core_eq_some_iff.2 ⟨s, hk, rfl⟩)
    simp only [hclosed, if_true]

lemma bindPlayer_of_open (hs : r.core k = some s) (hopen : s.isClosed = false)
    (player : PlayerId) :
    (r.bindPlayer k player).1 = .ok () ∧ Meets k s player r (r.bindPlayer k player).2 := by
  obtain ⟨t, hk, rfl⟩ := core_eq_some_iff.1 hs
  rw [Session.isClosed_core] at hopen
  unfold bindPlayer
  simp only [hk, hopen, Bool.false_eq_true, if_false]
  have hchange := fun id => core_eq_of_map hs
    (core_modifySession (f := fun s => { s with player := some player })
      (g := fun s => { s with player := some player }) (fun _ => rfl) r k id)
  exact ⟨trivial, hchange, rfl, rfl, rfl, rfl,
    fun other => find?_relink r.byPlayer t.player player other k, fun _ => rfl⟩

lemma over_or_open (r : Registry) (k : SessionId) :
    r.Over k ∨ ∃ s, r.core k = some s ∧ s.isClosed = false := by
  cases hs : r.core k with
  | none => exact .inl fun s hs' => absurd (hs.symm.trans hs') nofun
  | some s =>
    cases hc : s.isClosed with
    | true => exact .inl fun t ht => Option.some.inj (hs.symm.trans ht) ▸ hc
    | false => exact .inr ⟨s, rfl, hc⟩

lemma bindPlayer_cases (r : Registry) (k : SessionId) (player : PlayerId) :
    (r.bindPlayer k player).2 = r ∨
      ∃ s, r.core k = some s ∧ s.isClosed = false ∧
        Meets k s player r (r.bindPlayer k player).2 := by
  rcases over_or_open r k with hover | ⟨s, hs, hopen⟩
  · exact .inl (congrArg Prod.snd (bindPlayer_of_over hover player))
  · exact .inr ⟨s, hs, hopen, (bindPlayer_of_open hs hopen player).2⟩

/-! ## Giving a session a channel -/

lemma replaceSecondary_eq (r : Registry) (previous : Option ChannelRef) (name : ChannelId) :
    ∃ channels bySecondary,
      r.replaceSecondary previous name = { r with channels, bySecondary } := by
  unfold replaceSecondary
  cases previous with
  | none => exact ⟨_, _, rfl⟩
  | some old =>
    dsimp only
    cases r.channelId? old with
    | none => exact ⟨_, _, rfl⟩
    | some oldName =>
      dsimp only
      split_ifs
      · exact ⟨_, _, rfl⟩
      · exact ⟨_, _, rfl⟩

/-- The old channel is closed, unless the new one has the same name. -/
lemma channel?_replaceSecondary (r : Registry) (previous : Option ChannelRef) (name : ChannelId)
    (ref : ChannelRef) :
    (r.replaceSecondary previous name).channel? ref
      = if previous = some ref ∧ r.channelId? ref ≠ some name then
          (r.channel? ref).map Channel.close
        else r.channel? ref := by
  unfold replaceSecondary
  cases previous with
  | none => simp
  | some old =>
    dsimp only
    by_cases hold : old = ref
    · subst hold
      cases hname : r.channelId? old with
      | none =>
        have hnone : r.channel? old = none := Option.map_eq_none_iff.1 hname
        simp [hnone]
      | some oldName =>
        dsimp only
        split_ifs with hsame hne hne
        · exact absurd (congrArg some hsame) hne.2
        · rfl
        · exact channel?_closeChannel_self r old
        · exact absurd ⟨rfl, by simpa using hsame⟩ hne
    · have hne : ref ≠ old := fun h => hold h.symm
      rw [if_neg fun h => hold (Option.some.inj h.1)]
      cases r.channelId? old with
      | none => rfl
      | some oldName =>
        dsimp only
        split_ifs
        · rfl
        · exact channel?_closeChannel_of_ne hne

lemma find?_bySecondary_replaceSecondary (r : Registry) (previous : Option ChannelRef)
    (name other : ChannelId) :
    (r.replaceSecondary previous name).bySecondary.find? other
      = if other ≠ name ∧ previous.bind r.channelId? = some other then none
        else r.bySecondary.find? other := by
  unfold replaceSecondary
  cases previous with
  | none => simp
  | some old =>
    dsimp only [Option.bind_some]
    split
    · next hname => simp [hname]
    · next oldName hname =>
      simp only [hname, Option.some.injEq]
      split_ifs with hsame hgone hgone
      · exact absurd (hgone.2.symm.trans hsame) hgone.1
      · rfl
      · rw [Index.find?_erase, if_pos hgone.2.symm]
      · rw [Index.find?_erase, if_neg]
        rintro rfl
        exact hgone ⟨hsame, rfl⟩

/-- What giving a session a channel does.  The channel that it had is closed and nobody is listed
under its name any more, unless the new one has that name too. -/
structure Joins (k : SessionId) (s : Session) (ref : ChannelRef) (name : ChannelId)
    (r r' : Registry) : Prop where
  core : ∀ id, r'.core id = if id = k then some { s with secondary := some ref } else r.core id
  live : r'.live = r.live
  nextId : r'.nextId = r.nextId
  byPrimary : r'.byPrimary = r.byPrimary
  bySecondary : ∀ other, r'.bySecondary.find? other
    = if other = name then some k
      else if s.secondary.bind r.channelId? = some other then none
      else r.bySecondary.find? other
  byPlayer : r'.byPlayer = r.byPlayer
  channel? : ∀ ref', r'.channel? ref'
    = if s.secondary = some ref' ∧ r.channelId? ref' ≠ some name then
        (r.channel? ref').map Channel.close
      else r.channel? ref'

lemma Joins.fades (h : Joins k s ref name r r') : Fades r r' := by
  intro ref'
  rw [h.channel?]
  split_ifs
  · exact ⟨Channel.close, Channel.fades_close, rfl⟩
  · exact ⟨fun c => c, Channel.Fades.refl, by simp⟩

/-- The session is listed under the new name first, and then lets go of the channel it had. -/
lemma joins_replaceSecondary (hk : r.core k = some s) (ref : ChannelRef) (name : ChannelId) :
    Joins k s ref name r
      (({ r with bySecondary := r.bySecondary.insert name k }.modifySession k
        fun s => { s with secondary := some ref }).replaceSecondary s.secondary name) := by
  obtain ⟨channels, bySecondary, heq⟩ := replaceSecondary_eq
    ({ r with bySecondary := r.bySecondary.insert name k }.modifySession k
      fun s => { s with secondary := some ref }) s.secondary name
  refine ⟨fun id => ?_, by rw [heq]; rfl, by rw [heq]; rfl, by rw [heq]; rfl, fun other => ?_,
    by rw [heq]; rfl, fun ref' => channel?_replaceSecondary _ s.secondary name ref'⟩
  · rw [heq]
    exact core_eq_of_map hk (core_modifySession (g := fun s => { s with secondary := some ref })
      (fun _ => rfl) _ k id)
  · refine (find?_bySecondary_replaceSecondary _ s.secondary name other).trans ?_
    by_cases hother : other = name
    · rw [if_neg fun h => h.1 hother, if_pos hother]
      exact (Index.find?_insert r.bySecondary name other k).trans (if_pos hother)
    · rw [if_neg hother]
      refine if_congr (and_iff_right hother) rfl ?_
      exact (Index.find?_insert r.bySecondary name other k).trans (if_neg hother)

/-- A channel that no session gets is closed. -/
lemma attach_cases (hr : r.Keyed) (resolve : Resolver) (ref : ChannelRef) (token : Bytes) :
    ((∀ k, (r.attach resolve ref token).1 ≠ .success k) ∧
        (r.attach resolve ref token).2 = r.closeChannel ref) ∨
      ∃ k s name, (r.attach resolve ref token).1 = .success k ∧ r.core k = some s ∧
        s.isActive = true ∧ r.channelId? ref = some name ∧
        Joins k s ref name r (r.attach resolve ref token).2 := by
  unfold attach tryAttach
  cases resolve token with
  | none => exact .inl ⟨nofun, rfl⟩
  | some player =>
    dsimp only
    cases hs : (r.sessionOf player).bind r.session? with
    | none => exact .inl ⟨nofun, rfl⟩
    | some s =>
      cases hname : r.channelId? ref with
      | none => exact .inl ⟨nofun, rfl⟩
      | some name =>
        dsimp only
        split_ifs with hactive hstream
        · exact .inl ⟨nofun, rfl⟩
        · exact .inl ⟨nofun, rfl⟩
        · obtain ⟨k, -, hk⟩ := Option.bind_eq_some_iff.1 hs
          have hcore : r.core k = some s.core := core_eq_some_iff.2 ⟨s, hk, rfl⟩
          have hkey : s.id = k := hr k s.core hcore
          have hactive : s.isActive = true := by simpa using hactive
          refine .inr ⟨k, s.core, name, ?_, hcore, hactive, rfl, ?_⟩
          · rw [hkey]
          · rw [hkey]
            exact joins_replaceSecondary hcore ref name

/-! ## Closing a session -/

lemma dropSecondary_eq (r : Registry) (s : Session) :
    ∃ channels bySecondary, r.dropSecondary s = { r with channels, bySecondary } := by
  unfold dropSecondary
  cases s.secondary with
  | none => exact ⟨_, _, rfl⟩
  | some ref =>
    dsimp only
    split
    · exact ⟨_, _, rfl⟩
    · exact ⟨_, _, rfl⟩

lemma fades_dropSecondary (r : Registry) (s : Session) : Fades r (r.dropSecondary s) := by
  unfold dropSecondary
  cases s.secondary with
  | none => exact Fades.of_eq fun _ => rfl
  | some ref =>
    dsimp only
    split
    · exact fades_closeChannel r ref
    · exact fades_closeChannel r ref

lemma channel?_dropSecondary_self (hs : s.secondary = some ref) :
    (r.dropSecondary s).channel? ref = (r.channel? ref).map Channel.close := by
  unfold dropSecondary
  rw [hs]
  dsimp only
  split
  · exact channel?_closeChannel_self r ref
  · exact channel?_closeChannel_self r ref

lemma find?_bySecondary_dropSecondary (r : Registry) (s : Session) (name : ChannelId) :
    (r.dropSecondary s).bySecondary.find? name
      = if s.secondary.bind r.channelId? = some name then none
        else r.bySecondary.find? name := by
  unfold dropSecondary
  cases s.secondary with
  | none => simp
  | some ref =>
    dsimp only [Option.bind_some]
    split
    · next channel hname =>
      rw [(fades_closeChannel r ref).channelId?_eq] at hname
      simp [hname, closeChannel, modifyChannel, eq_comm]
    · next hname =>
      rw [(fades_closeChannel r ref).channelId?_eq] at hname
      simp [hname, closeChannel, modifyChannel]

/-- The registry after the channels of a session were closed. -/
def letGo (r : Registry) (s : Session) : Registry := (r.closeChannel s.primary).dropSecondary s

lemma fades_letGo (r : Registry) (s : Session) : Fades r (r.letGo s) :=
  (fades_closeChannel r s.primary).trans (fades_dropSecondary _ s)

lemma letGo_eq (r : Registry) (s : Session) :
    ∃ channels bySecondary, r.letGo s = { r with channels, bySecondary } := by
  obtain ⟨channels, bySecondary, heq⟩ := dropSecondary_eq (r.closeChannel s.primary) s
  exact ⟨channels, bySecondary, heq⟩

/-- A channel that is both the first and the second one of the session is closed twice. -/
lemma isOpen_letGo {c : Channel} (hb : s.Binds ref) (hc : (r.letGo s).channel? ref = some c) :
    c.isOpen = false := by
  rcases hb with rfl | hs
  · have hclose := channel?_closeChannel_self r s.primary
    cases hold : r.channel? s.primary with
    | none =>
      have hnone : (r.letGo s).channelId? s.primary = none := by
        rw [(fades_letGo r s).channelId?_eq, channelId?, hold]
        rfl
      simp [channelId?, hc] at hnone
    | some old =>
      rw [hold] at hclose
      obtain ⟨c', hc', hclosed⟩ :=
        (fades_dropSecondary _ s).channel?_of_closed hclose (Channel.isOpen_close old)
      obtain rfl := Option.some.inj (hc.symm.trans hc')
      exact hclosed
  · have hlast := channel?_dropSecondary_self (r := r.closeChannel s.primary) hs
    obtain ⟨old, -, rfl⟩ := Option.map_eq_some_iff.1 (hlast.symm.trans hc)
    exact Channel.isOpen_close old

lemma find?_bySecondary_letGo (r : Registry) (s : Session) (name : ChannelId) :
    (r.letGo s).bySecondary.find? name
      = if s.secondary.bind r.channelId? = some name then none
        else r.bySecondary.find? name := by
  have hnames : (r.closeChannel s.primary).channelId? = r.channelId? :=
    funext (fades_closeChannel r s.primary).channelId?_eq
  rw [letGo, find?_bySecondary_dropSecondary, hnames]
  rfl

lemma find?_eraseName (m : Index ChannelId SessionId) (gone : Option ChannelId)
    (name : ChannelId) :
    (match gone with
      | some name => m.erase name
      | none => m).find? name = if gone = some name then none else m.find? name := by
  cases gone with
  | none => simp
  | some gone => simp [eq_comm]

lemma find?_unlinkPlayer (m : Index PlayerId SessionId) (gone : Option PlayerId)
    (player : PlayerId) (k : SessionId) :
    (match gone with
      | some player => unlink m player k
      | none => m).find? player
      = if gone = some player ∧ m.find? player = some k then none else m.find? player := by
  cases gone with
  | none => simp
  | some gone => simp [find?_unlink, eq_comm]

/-- What closing a session does.  Nobody is listed under the names of its channels any more. -/
structure Shuts (k : SessionId) (s : Session) (r r' : Registry) : Prop where
  core : ∀ id, r'.core id = if id = k then some s.shut else r.core id
  live : r'.live = r.live.filter (· ≠ k)
  nextId : r'.nextId = r.nextId
  byPrimary : ∀ name, r'.byPrimary.find? name
    = if r.channelId? s.primary = some name then none else r.byPrimary.find? name
  bySecondary : ∀ name, r'.bySecondary.find? name
    = if s.secondary.bind r.channelId? = some name then none else r.bySecondary.find? name
  byPlayer : ∀ player, r'.byPlayer.find? player
    = if s.player = some player ∧ r.byPlayer.find? player = some k then none
      else r.byPlayer.find? player
  fades : Fades r r'
  closed : ∀ ref c, s.Binds ref → r'.channel? ref = some c → c.isOpen = false

lemma close_cases (r : Registry) (k : SessionId) (reason : CloseReason) :
    ((r.close k reason).2 = r ∧ r.Over k) ∨
      ∃ s, r.core k = some s ∧ s.isClosed = false ∧ Shuts k s r (r.close k reason).2 := by
  have hcore := core_close r k reason
  unfold close at hcore ⊢
  cases hk : r.session? k with
  | none => exact .inl ⟨rfl, fun s hs => by simp [core, hk] at hs⟩
  | some s =>
    have hs : r.core k = some s.core := core_eq_some_iff.2 ⟨s, hk, rfl⟩
    rw [hk] at hcore
    dsimp only at hcore ⊢
    split_ifs at hcore ⊢ with hc
    · refine .inl ⟨rfl, fun t ht => ?_⟩
      obtain rfl := Option.some.inj (hs.symm.trans ht)
      exact hc
    · refine .inr ⟨s.core, hs, eq_false_of_ne_true hc, ?_⟩
      -- the session is changed first, which the channels and the lists do not show
      set mid := r.modifySession k _ with hmid
      obtain ⟨channels, bySecondary, heq⟩ := letGo_eq mid s
      have hlive : (mid.letGo s).live = r.live := by rw [heq, hmid]; rfl
      have hnext : (mid.letGo s).nextId = r.nextId := by rw [heq, hmid]; rfl
      refine ⟨fun id => ?_, congrArg (List.filter _) hlive, hnext, fun name => ?_,
        find?_bySecondary_letGo mid s, fun player => ?_, fades_letGo mid s,
        fun ref c => isOpen_letGo⟩
      · refine (hcore id).trans ?_
        split_ifs with hid
        · simp [hid, hs, hc]
        · rfl
      · refine (find?_eraseName _ _ name).trans ?_
        have hnames : (mid.letGo s).channelId? s.primary = r.channelId? s.primary :=
          (fades_letGo mid s).channelId?_eq s.primary
        have hindex : (mid.letGo s).byPrimary = r.byPrimary := congrArg (·.byPrimary) heq
        exact if_congr (Iff.of_eq (congrArg (· = some name) hnames)) rfl
          (congrArg (·.find? name) hindex)
      · refine (find?_unlinkPlayer _ s.player player k).trans ?_
        have hindex : (mid.letGo s).byPlayer = r.byPlayer := congrArg (·.byPlayer) heq
        exact if_congr (and_congr_right fun _ =>
          Iff.of_eq (congrArg (·.find? player = some k) hindex)) rfl
          (congrArg (·.find? player) hindex)

lemma close_of_over (h : r.Over k) (reason : CloseReason) : r.close k reason = (false, r) := by
  unfold close
  cases hk : r.session? k with
  | none => rfl
  | some s =>
    have hclosed : s.isClosed = true := h s.core (core_eq_some_iff.2 ⟨s, hk, rfl⟩)
    simp only [hclosed, if_true]

/-- Whoever closes an open session is told so. -/
lemma fst_close_of_open (hs : r.core k = some s) (hopen : s.isClosed = false)
    (reason : CloseReason) : (r.close k reason).1 = true := by
  obtain ⟨t, hk, rfl⟩ := core_eq_some_iff.1 hs
  rw [Session.isClosed_core] at hopen
  simp only [close, hk, hopen, Bool.false_eq_true, if_false]

@[simp] lemma nextId_close (r : Registry) (k : SessionId) (reason : CloseReason) :
    (r.close k reason).2.nextId = r.nextId := by
  rcases close_cases r k reason with ⟨hsame, -⟩ | ⟨s, -, -, hshuts⟩
  · rw [hsame]
  · exact hshuts.nextId

/-! ## Deeds -/

/-- What is done to a registry. -/
inductive Deed where
  | create (primary : ChannelRef)
  | activate (k : SessionId)
  | bindPlayer (k : SessionId) (player : PlayerId)
  | attach (ref : ChannelRef) (token : Bytes)
  | enqueue (k : SessionId) (p : Packet)
  | close (k : SessionId) (reason : CloseReason)
deriving DecidableEq

/-- A deed is done. -/
def act (resolve : Resolver) (r : Registry) : Deed → Registry
  | .create primary => (r.create primary).2
  | .activate k => (r.activate k).2
  | .bindPlayer k player => (r.bindPlayer k player).2
  | .attach ref token => (r.attach resolve ref token).2
  | .enqueue k p => (r.enqueue k p).2
  | .close k reason => (r.close k reason).2

/-- Deeds are done one after another. -/
def run (resolve : Resolver) (r : Registry) (deeds : List Deed) : Registry :=
  deeds.foldl (act resolve) r

/-- A registry with some channels and no sessions. -/
def ofChannels (queueCapacity : Nat) (channels : Array Channel) : Registry :=
  { queueCapacity, channels }

lemma run_concat (resolve : Resolver) (r : Registry) (deeds : List Deed) (d : Deed) :
    r.run resolve (deeds ++ [d]) = (r.run resolve deeds).act resolve d :=
  List.foldl_concat ..

/-- The deed opens a session. -/
def Deed.opens : Deed → Bool
  | .create _ => true
  | _ => false

lemma Keyed.update (hr : r.Keyed) {t : Session} (hs : r.core k = some s)
    (hcore : ∀ id, r'.core id = if id = k then some t else r.core id) (ht : t.id = s.id) :
    r'.Keyed := by
  intro id u hu
  rw [hcore] at hu
  split_ifs at hu with hid
  · obtain rfl := Option.some.inj hu
    exact ht.trans ((hr k s hs).trans hid.symm)
  · exact hr id u hu

lemma keyed_act (hr : r.Keyed) (resolve : Resolver) (d : Deed) : (r.act resolve d).Keyed := by
  cases d with
  | create primary =>
    intro id s hs
    rw [act, core_create] at hs
    split_ifs at hs with hid
    · obtain rfl := Option.some.inj hs
      exact hid.symm
    · exact hr id s hs
  | activate k =>
    rcases activate_cases r k with hsame | ⟨s, hs, -, hcore⟩
    · rwa [act, hsame]
    · exact hr.update hs hcore rfl
  | bindPlayer k player =>
    rcases bindPlayer_cases r k player with hsame | ⟨s, hs, -, hmeets⟩
    · rwa [act, hsame]
    · exact hr.update hs hmeets.core rfl
  | attach ref token =>
    rcases attach_cases hr resolve ref token with ⟨-, hclose⟩ | ⟨k, s, name, -, hs, -, -, hjoins⟩
    · rwa [act, hclose]
    · exact hr.update hs hjoins.core rfl
  | enqueue k p => exact hr.of_later (touches_enqueue hr k p).later
  | close k reason => exact hr.of_later (touches_close r k reason).later

/-- Deeds close channels and do nothing else to them. -/
lemma fades_act (hr : r.Keyed) (resolve : Resolver) (d : Deed) : Fades r (r.act resolve d) := by
  cases d with
  | create primary => exact Fades.of_eq fun _ => rfl
  | activate k => exact Fades.of_eq (channel?_activate r k)
  | bindPlayer k player =>
    rcases bindPlayer_cases r k player with hsame | ⟨s, -, -, hmeets⟩
    · exact Fades.of_eq fun _ => by rw [act, hsame]
    · exact Fades.of_eq hmeets.channel?
  | attach ref token =>
    rcases attach_cases hr resolve ref token with ⟨-, hclose⟩ | ⟨k, s, name, -, -, -, -, hjoins⟩
    · rw [act, hclose]
      exact fades_closeChannel r ref
    · exact hjoins.fades
  | enqueue k p => exact Fades.of_eq (channel?_enqueue r k p)
  | close k reason =>
    rcases close_cases r k reason with ⟨hsame, -⟩ | ⟨s, -, -, hshuts⟩
    · exact Fades.of_eq fun _ => by rw [act, hsame]
    · exact hshuts.fades

end Registry

end SessionServer
