/-
# Whose session it is

That a session belongs to a player is noted in two places, in the session and in the index of
players.  Giving a session to a player writes both notes and takes back what the index said about
the session before; closing a session takes back the note of the index.  What the index says is
therefore settled by the history of the player alone: it is the session that was given to the player
last, unless something parted the two since (`find?_byPlayer_act`).

A session that loses its player to another session is told nothing, and goes on saying that it is
that player's.  Such a session is *stale*; it is one until it is given to a player again or closed
(`stale_act`).

That the index names a session for a player, and that a session is stale, are facts that one kind of
deed brings about and another kind ends.  Of such a fact it is enough to say what a single deed does
to it (`iff_since_run`).

Main results: a player's session is the one that was given to the player last, as long as nothing
parted them (`sessionOf_iff_since`), and a session and the index disagree about a player exactly
since the player was taken from the session (`stale_iff_since`).
-/
import SessionServer.Proofs.Registry.Indexes

namespace SessionServer

/-! ## What is so since some step -/

section Since

variable {σ δ : Type} {step : σ → δ → σ} {marks wipes : σ → δ → Bool} {s : σ} {deeds : List δ}
  {d : δ}

/-- A step of the run marked something, and no later one wiped it out. -/
def Since (step : σ → δ → σ) (marks wipes : σ → δ → Bool) (s : σ) (deeds : List δ) : Prop :=
  ∃ before d after, deeds = before ++ d :: after ∧ marks (before.foldl step s) d = true ∧
    EachStep step (fun s d => wipes s d = false) ((before ++ [d]).foldl step s) after

lemma not_since_nil : ¬ Since step marks wipes s [] := by
  rintro ⟨before, d, after, hsplit, -⟩
  simp at hsplit

/-- It is so after a step if the step marks it, or if it was so before and the step does not wipe it
out. -/
lemma since_concat :
    Since step marks wipes s (deeds ++ [d])
      ↔ marks (deeds.foldl step s) d = true ∨
        (Since step marks wipes s deeds ∧ wipes (deeds.foldl step s) d = false) := by
  constructor
  · rintro ⟨before, first, after, hsplit, hmarks, hafter⟩
    induction after using List.reverseRecOn with
    | nil =>
      obtain ⟨rfl, hd⟩ := List.append_inj' hsplit rfl
      obtain rfl := List.singleton_inj.1 hd
      exact .inl hmarks
    | append_singleton after last =>
      rw [← List.cons_append, ← List.append_assoc] at hsplit
      obtain ⟨rfl, hd⟩ := List.append_inj' hsplit rfl
      obtain rfl := List.singleton_inj.1 hd
      obtain ⟨hquiet, hlast⟩ := eachStep_concat.1 hafter
      refine .inr ⟨⟨before, first, after, rfl, hmarks, hquiet⟩, ?_⟩
      rwa [← List.foldl_append, List.append_assoc, List.singleton_append] at hlast
  · rintro (hmarks | ⟨⟨before, first, after, rfl, hmarks, hafter⟩, hd⟩)
    · exact ⟨deeds, d, [], rfl, hmarks, trivial⟩
    · refine ⟨before, first, after ++ [d], by simp, hmarks, eachStep_concat.2 ⟨hafter, ?_⟩⟩
      rwa [← List.foldl_append, List.append_assoc, List.singleton_append]

end Since

namespace Registry

variable {r r' : Registry} {resolve : Resolver} {k id : SessionId} {s t : Session}
  {player other : PlayerId} {d : Deed}

/-! ## What deeds do to the two notes -/

/-- The player that a session says it belongs to, while it is open. -/
def playing (r : Registry) (k : SessionId) : Option PlayerId :=
  (r.core k).bind fun s => if s.isClosed then none else s.player

lemma playing_of_open (hs : r.core k = some s) (hopen : s.isClosed = false) :
    r.playing k = s.player := by
  simp [playing, hs, hopen]

lemma playing_eq_some_iff :
    r.playing k = some player
      ↔ ∃ s, r.core k = some s ∧ s.isClosed = false ∧ s.player = some player := by
  constructor
  · intro h
    obtain ⟨s, hs, hplayer⟩ := Option.bind_eq_some_iff.1 h
    split_ifs at hplayer with hc
    exact ⟨s, hs, eq_false_of_ne_true hc, hplayer⟩
  · rintro ⟨s, hs, hopen, hplayer⟩
    rw [playing_of_open hs hopen, hplayer]

lemma exists_live_iff_playing (hr : r.Keyed) :
    (∃ s, r.Live k s ∧ s.player = some player) ↔ r.playing k = some player := by
  rw [playing_eq_some_iff]
  constructor
  · rintro ⟨s, ⟨hs, -, hopen⟩, hplayer⟩
    exact ⟨s.core, core_eq_some_iff.2 ⟨s, hs, rfl⟩, hopen, hplayer⟩
  · rintro ⟨s, hs, hopen, hplayer⟩
    obtain ⟨t, ht, rfl⟩ := exists_live hr hs hopen
    exact ⟨t, ht, hplayer⟩

/-- One session is changed. -/
lemma playing_update (hcore : ∀ id, r'.core id = if id = k then some t else r.core id)
    (id : SessionId) :
    r'.playing id = if id = k then (if t.isClosed then none else t.player) else r.playing id := by
  unfold playing
  rw [hcore]
  split_ifs <;> simp [*]

/-- One session is changed that stays open and keeps its player. -/
lemma playing_keep (hs : r.core k = some s)
    (hcore : ∀ id, r'.core id = if id = k then some t else r.core id)
    (hstate : t.isClosed = s.isClosed) (hplayer : t.player = s.player) (id : SessionId) :
    r'.playing id = r.playing id := by
  rw [playing_update hcore, hstate, hplayer]
  by_cases hid : id = k
  · rw [if_pos hid, hid, playing, hs, Option.bind_some]
  · rw [if_neg hid]

/-- The deed gives the session to the player. -/
def Deed.gives (k : SessionId) (player : PlayerId) (r : Registry) : Deed → Bool
  | .bindPlayer id other => id = k && other = player && (r.bindPlayer id other).1 = .ok ()
  | _ => false

/-- The deed gives the session to a player or closes it. -/
def Deed.frees (k : SessionId) (r : Registry) : Deed → Bool
  | .bindPlayer id other => id = k && (r.bindPlayer id other).1 = .ok ()
  | .close id reason => id = k && (r.close id reason).1
  | _ => false

/-- The deed gives another session to the player. -/
def Deed.replaces (k : SessionId) (player : PlayerId) (r : Registry) : Deed → Bool
  | .bindPlayer id other => id ≠ k && other = player && (r.bindPlayer id other).1 = .ok ()
  | _ => false

/-- The deed gives the session or the player to somebody, or closes the session. -/
def Deed.parts (k : SessionId) (player : PlayerId) (r : Registry) (d : Deed) : Bool :=
  d.frees k r || d.replaces k player r

/-- Opening, closing and giving to players aside, deeds leave what sessions say as it is. -/
lemma playing_act_of_quiet (hr : r.Keyed) (resolve : Resolver) (hopens : d.opens = false)
    (hcloses : ∀ id reason, d ≠ .close id reason)
    (hbinds : ∀ id player, d ≠ .bindPlayer id player) (k : SessionId) :
    (r.act resolve d).playing k = r.playing k ∧ (r.act resolve d).byPlayer = r.byPlayer := by
  cases d with
  | create primary => cases hopens
  | close id reason => exact absurd rfl (hcloses id reason)
  | bindPlayer id player => exact absurd rfl (hbinds id player)
  | activate id =>
    refine ⟨?_, (listed_activate r id).byPlayer⟩
    rcases activate_cases r id with hsame | ⟨s, hs, hfresh, hcore⟩
    · rw [act, hsame]
    · exact playing_keep hs hcore (by simp [Session.isClosed, hfresh]) rfl k
  | attach ref token =>
    rcases attach_cases hr resolve ref token with ⟨-, hclose⟩ | ⟨id, s, name, -, hs, -, -, hjoins⟩
    · rw [act, hclose]
      exact ⟨rfl, rfl⟩
    · exact ⟨playing_keep hs hjoins.core rfl rfl k, hjoins.byPlayer⟩
  | enqueue id p =>
    refine ⟨?_, (listed_enqueue r id p).byPlayer⟩
    rcases enqueue_cases hr id p with ⟨-, hsame⟩ | ⟨s, admission, queue, hs, -, -, -, -, hcore⟩
    · exact congrArg (Option.bind · _) (hsame k)
    · exact playing_keep hs hcore rfl rfl k

/-- What a session says after a deed. -/
lemma playing_act (hr : r.Keyed) (hfresh : d.opens = true → r.core ⟨r.nextId⟩ = none) :
    (r.act resolve d).playing k = some player
      ↔ d.gives k player r = true ∨ (r.playing k = some player ∧ d.frees k r = false) := by
  have hquiet := playing_act_of_quiet (d := d) hr resolve
  cases d with
  | create primary =>
    -- a new session has no player, and there was none of that name
    have hnone : r.playing ⟨r.nextId⟩ = none := by rw [playing, hfresh rfl, Option.bind_none]
    rw [act, playing_update (core_create r primary)]
    simp only [Deed.gives, Deed.frees, Bool.false_eq_true, false_or, and_true]
    split_ifs with hk
    · simp [hk, hnone]
    · simp [hk, hnone, newSession]
    · rfl
  | bindPlayer id other =>
    rcases over_or_open r id with hover | ⟨s, hs, hopen⟩
    · simp [act, bindPlayer_of_over hover, Deed.gives, Deed.frees]
    · obtain ⟨hok, hmeets⟩ := bindPlayer_of_open hs hopen other
      have hopen' : { s with player := some other }.isClosed = false := hopen
      rw [act, playing_update hmeets.core, hopen']
      by_cases hk : k = id
      · simp [Deed.gives, Deed.frees, hok, hk]
      · simp [Deed.gives, Deed.frees, hok, hk, Ne.symm hk]
  | close id reason =>
    rcases close_cases r id reason with ⟨hsame, hover⟩ | ⟨s, hs, hopen, hshuts⟩
    · simp [act, close_of_over hover, Deed.gives, Deed.frees]
    · have hclosed : s.shut.isClosed = true := rfl
      rw [act, playing_update hshuts.core, hclosed]
      by_cases hk : k = id
      · simp [Deed.gives, Deed.frees, fst_close_of_open hs hopen, hk]
      · simp [Deed.gives, Deed.frees, hk, Ne.symm hk]
  | _ => simp [(hquiet rfl (by simp) (by simp) k).1, Deed.gives, Deed.frees]

/-- The index, less what it says about a player and the session that it names for that player. -/
lemma find?_of_listed (hr : r.Coherent) (hs : r.core id = some s) :
    (if s.player = some player ∧ r.byPlayer.find? player = some id then none
        else r.byPlayer.find? player) = some k
      ↔ r.byPlayer.find? player = some k ∧ id ≠ k := by
  constructor
  · intro h
    split_ifs at h with hgone
    refine ⟨h, fun hid => hgone ⟨?_, hid ▸ h⟩⟩
    -- the index is right about the player of the session
    obtain ⟨t, ht, -, hplayer⟩ := hr.byPlayer player k h
    exact Option.some.inj ((hid ▸ hs).symm.trans ht) ▸ hplayer
  · rintro ⟨hfind, hid⟩
    rwa [if_neg fun hgone => hid (Option.some.inj (hgone.2.symm.trans hfind))]

/-- What the index says about a player after a deed. -/
lemma find?_byPlayer_act (hr : r.Coherent) (d : Deed) :
    (r.act resolve d).byPlayer.find? player = some k
      ↔ d.gives k player r = true ∨
        (r.byPlayer.find? player = some k ∧ d.parts k player r = false) := by
  have hquiet := playing_act_of_quiet (d := d) hr.keyed resolve
  cases d with
  | create primary => simp [act, create, Deed.gives, Deed.parts, Deed.frees, Deed.replaces]
  | bindPlayer id other =>
    rcases over_or_open r id with hover | ⟨s, hs, hopen⟩
    · simp [act, bindPlayer_of_over hover, Deed.gives, Deed.parts, Deed.frees, Deed.replaces]
    · obtain ⟨hok, hmeets⟩ := bindPlayer_of_open hs hopen other
      rw [act, hmeets.byPlayer]
      by_cases hplayer : player = other
      · simp [Deed.gives, Deed.parts, Deed.frees, Deed.replaces, hok, hplayer]
      · rw [if_neg hplayer, find?_of_listed hr hs]
        simp [Deed.gives, Deed.parts, Deed.frees, Deed.replaces, hok, Ne.symm hplayer]
  | close id reason =>
    rcases close_cases r id reason with ⟨hsame, hover⟩ | ⟨s, hs, hopen, hshuts⟩
    · simp [act, close_of_over hover, Deed.gives, Deed.parts, Deed.frees, Deed.replaces]
    · have hok := fst_close_of_open hs hopen reason
      rw [act, hshuts.byPlayer, find?_of_listed hr hs]
      simp [Deed.gives, Deed.parts, Deed.frees, Deed.replaces, hok]
  | _ =>
    rw [(hquiet rfl (by simp) (by simp) k).2]
    simp [Deed.gives, Deed.parts, Deed.frees, Deed.replaces]

/-! ## Runs -/

section Run

variable {queueCapacity : Nat} {channels : Array Channel} {deeds : List Deed}

/-- What a single deed does to a fact decides it for all runs. -/
lemma iff_since_run {P : Registry → Prop} {marks wipes : Registry → Deed → Bool}
    (hstart : ¬ P (ofChannels queueCapacity channels))
    (hstep : ∀ r d, r.Coherent → (d.opens = true → r.core ⟨r.nextId⟩ = none) →
      (P (r.act resolve d) ↔ marks r d = true ∨ (P r ∧ wipes r d = false)))
    (hchannels : ∀ primary, .create primary ∈ deeds → primary.index < channels.size)
    (hcount : deeds.countP Deed.opens < UInt64.size) :
    P ((ofChannels queueCapacity channels).run resolve deeds)
      ↔ Since (act resolve) marks wipes (ofChannels queueCapacity channels) deeds := by
  induction deeds using List.reverseRecOn with
  | nil => exact iff_of_false hstart not_since_nil
  | append_singleton deeds d ih =>
    rw [List.countP_append, List.countP_singleton] at hcount
    have hchannels' : ∀ primary, Deed.create primary ∈ deeds → primary.index < channels.size :=
      fun primary hp => hchannels primary (List.mem_append_left _ hp)
    have hcount' : deeds.countP Deed.opens < UInt64.size := by omega
    obtain ⟨hcoherent, -, hchronicle⟩ := chronicle_run resolve queueCapacity hchannels' hcount'
    rw [run_concat, since_concat, ← ih hchannels' hcount']
    refine hstep _ d hcoherent fun hopens => hchronicle.fresh ?_
    rw [if_pos hopens] at hcount
    rwa [length_openings]

/-- The deed takes the player away from the session and gives another session to it. -/
def Deed.robs (k : SessionId) (player : PlayerId) (r : Registry) (d : Deed) : Bool :=
  r.playing k = some player && d.replaces k player r

/-- The session says that it is the player's, and is not found for it. -/
def Stale (k : SessionId) (player : PlayerId) (r : Registry) : Prop :=
  r.playing k = some player ∧ r.byPlayer.find? player ≠ some k

lemma playing_of_find? (hr : r.Coherent) (h : r.byPlayer.find? player = some k) :
    r.playing k = some player :=
  playing_eq_some_iff.2 (hr.byPlayer player k h)

/-- A session becomes stale when its player is taken from it, and is so no more when it is given to
a player or closed. -/
lemma stale_act (hr : r.Coherent) (hfresh : d.opens = true → r.core ⟨r.nextId⟩ = none) :
    Stale k player (r.act resolve d)
      ↔ d.robs k player r = true ∨ (Stale k player r ∧ d.frees k r = false) := by
  have hfrees : d.gives k player r = true → d.frees k r = true := by
    intro hgives
    cases d with
    | bindPlayer id other =>
      simp only [Deed.gives, Deed.frees, Bool.and_eq_true] at hgives ⊢
      exact ⟨hgives.1.1, hgives.2⟩
    | _ => cases hgives
  have hreplaces : d.replaces k player r = true → d.frees k r = false := by
    intro hreplaces
    cases d with
    | bindPlayer id other =>
      simp only [Deed.replaces, Bool.and_eq_true, decide_eq_true_eq] at hreplaces
      simp [Deed.frees, hreplaces.1.1]
    | _ => cases hreplaces
  have hfound : r.byPlayer.find? player = some k → r.playing k = some player :=
    playing_of_find? hr
  rw [Stale, Ne, playing_act hr.keyed hfresh, find?_byPlayer_act hr d, Deed.parts, Deed.robs, Stale]
  grind

end Run

/-- A session that is open says that it is a player's exactly if it is found for that player. -/
def Linked (r : Registry) : Prop :=
  ∀ k player, (∃ s, r.Live k s ∧ s.player = some player) ↔ r.sessionOf player = some k

/-- The session of a player is found in the index of players. -/
lemma Consistent.sessionOf_iff (hr : r.Consistent) :
    r.sessionOf player = some k ↔ r.byPlayer.find? player = some k :=
  hr.lookup_iff hr.byPlayer player

lemma Consistent.linked_iff (hr : r.Consistent) :
    r.Linked ↔ ∀ k player, ¬ Stale k player r := by
  simp only [Linked, exists_live_iff_playing hr.keyed, hr.sessionOf_iff, Stale, not_and, ne_eq,
    not_not]
  exact forall₂_congr fun k player => ⟨fun h => h.1, fun h => ⟨h, playing_of_find? hr.toCoherent⟩⟩

/-- **The session of a player.**  Whatever is done to a registry that began without sessions, while
there are names for new ones: a player's session is the one that was given to the player last,
provided that it has not been closed or given to another player since.  An attempt to give a session
that is closed to a player fails and changes nothing. -/
theorem sessionOf_iff_since (resolve : Resolver) (queueCapacity : Nat) (channels : Array Channel)
    (deeds : List Deed)
    (hchannels : ∀ primary, .create primary ∈ deeds → primary.index < channels.size)
    (hcount : deeds.countP Deed.opens < UInt64.size) :
    let start := ofChannels queueCapacity channels
    let r := start.run resolve deeds
    (∀ k player, r.sessionOf player = some k
      ↔ Since (act resolve) (fun r d => d.gives k player r) (fun r d => d.parts k player r)
        start deeds) ∧
      ∀ k s player, r.session? k = some s → s.isClosed = true →
        r.bindPlayer k player = (.error (.closed k), r) := by
  intro start r
  have hr : r.Consistent := consistent_run hchannels hcount
  refine ⟨fun k player => ?_, fun k s player hs hclosed => bindPlayer_of_over ?_ player⟩
  · rw [hr.sessionOf_iff]
    exact iff_since_run (P := fun r => r.byPlayer.find? player = some k) nofun
      (fun r d hr _ => find?_byPlayer_act hr d) hchannels hcount
  · intro t ht
    obtain ⟨u, hu, rfl⟩ := core_eq_some_iff.1 ht
    exact Option.some.inj (hs.symm.trans hu) ▸ hclosed

/-- Two players and three sessions.  The first player moves from the first session to the second
one; then the first session is given to the other player and closed, which does not disturb the link
of the first player, and it cannot be given to anybody any more. -/
theorem sessionOf_of_moved_player :
    let channel (id : UInt64) : Channel := .memory { id := ⟨id⟩, transport := .stream }
    let resolve : Resolver := fun _ => none
    let start := ofChannels 4 #[channel 1, channel 2, channel 3]
    let before : List Deed := [.create ⟨0⟩, .create ⟨1⟩, .create ⟨2⟩, .bindPlayer ⟨1⟩ ⟨7⟩]
    let after : List Deed := [.bindPlayer ⟨1⟩ ⟨8⟩, .close ⟨1⟩ .idle, .bindPlayer ⟨1⟩ ⟨7⟩,
      .bindPlayer ⟨3⟩ ⟨8⟩, .close ⟨1⟩ .shutdown]
    let r := start.run resolve (before ++ .bindPlayer ⟨2⟩ ⟨7⟩ :: after)
    r.sessionOf ⟨7⟩ = some ⟨2⟩ ∧ r.sessionOf ⟨8⟩ = some ⟨3⟩ ∧
      r.bindPlayer ⟨1⟩ ⟨8⟩ = (.error (.closed ⟨1⟩), r) := by
  intro channel resolve start before after r
  obtain ⟨hfound, hclosed⟩ := sessionOf_iff_since resolve 4 #[channel 1, channel 2, channel 3]
    (before ++ .bindPlayer ⟨2⟩ ⟨7⟩ :: after) (by simp [before, after]) (by decide)
  have hlast : (r.session? ⟨1⟩).any (·.isClosed) = true := by decide +kernel
  obtain ⟨s, hs, hover⟩ := Option.any_eq_true _ _ |>.1 hlast
  exact ⟨(hfound ⟨2⟩ ⟨7⟩).2 ⟨before, .bindPlayer ⟨2⟩ ⟨7⟩, after, rfl, by decide +kernel,
    by decide +kernel⟩, by decide +kernel, hclosed ⟨1⟩ s ⟨8⟩ hs hover⟩

/-- **What a session says of its player.**  Whatever is done to a registry that began without
sessions, while there are names for new ones: the session that is found for a player is open and
says that it is that player's.  An open session that says so is not found, exactly since the player
was taken from it and as long as it has neither been given to a player again nor been closed.
So sessions and the index agree in all states of a run exactly if no deed of the run takes a player
from an open session. -/
theorem stale_iff_since (resolve : Resolver) (queueCapacity : Nat) (channels : Array Channel)
    (deeds : List Deed)
    (hchannels : ∀ primary, .create primary ∈ deeds → primary.index < channels.size)
    (hcount : deeds.countP Deed.opens < UInt64.size) :
    let start := ofChannels queueCapacity channels
    let r := start.run resolve deeds
    (∀ k player, r.sessionOf player = some k → ∃ s, r.Live k s ∧ s.player = some player) ∧
      (∀ k player, ((∃ s, r.Live k s ∧ s.player = some player) ∧ r.sessionOf player ≠ some k)
        ↔ Since (act resolve) (fun r d => d.robs k player r) (fun r d => d.frees k r) start deeds) ∧
      ((∀ before, before <+: deeds → (start.run resolve before).Linked)
        ↔ EachStep (act resolve) (fun r d => ∀ k player, d.robs k player r = false) start deeds) := by
  intro start r
  have hr : ∀ before, before <+: deeds → (start.run resolve before).Consistent ∧
      ∀ k player, Stale k player (start.run resolve before)
        ↔ Since (act resolve) (fun r d => d.robs k player r) (fun r d => d.frees k r) start
          before := by
    intro before hb
    have hchannels' : ∀ primary, .create primary ∈ before → primary.index < channels.size :=
      fun primary hp => hchannels primary (hb.subset hp)
    have hcount' : before.countP Deed.opens < UInt64.size :=
      Nat.lt_of_le_of_lt (List.Sublist.countP_le hb.sublist) hcount
    refine ⟨consistent_run hchannels' hcount', fun k player => ?_⟩
    exact iff_since_run (fun hstale => absurd hstale.1 nofun) (fun r d hr => stale_act hr)
      hchannels' hcount'
  obtain ⟨hconsistent, hstale⟩ := hr deeds List.prefix_rfl
  refine ⟨fun k player => hconsistent.sound.sessionOf player k, fun k player => ?_,
    ⟨fun hlinked => ?_, fun hquiet before hb => ?_⟩⟩
  · rw [exists_live_iff_playing hconsistent.keyed, Ne, hconsistent.sessionOf_iff]
    exact hstale k player
  · refine eachStep_of_forall fun before d hb k player => eq_false_of_ne_true fun hrobs => ?_
    obtain ⟨hafter, hsince⟩ := hr _ hb
    exact hafter.linked_iff.1 (hlinked _ hb) k player
      ((hsince k player).2 (since_concat.2 (.inl hrobs)))
  · obtain ⟨hbefore, hsince⟩ := hr before hb
    refine hbefore.linked_iff.2 fun k player hbad => ?_
    obtain ⟨early, d, late, rfl, hrobs, -⟩ := (hsince k player).1 hbad
    obtain ⟨rest, rfl⟩ := hb
    rw [List.append_assoc, List.cons_append] at hquiet
    have hnot := (eachStep_append.1 hquiet).2.1 k player
    exact absurd (hrobs.symm.trans hnot) nofun

/-- A player is taken from the first session, which goes on saying that it is that player's until it
is given to another one. -/
theorem stale_iff_since_of_moved_player :
    let channel (id : UInt64) : Channel := .memory { id := ⟨id⟩, transport := .stream }
    let resolve : Resolver := fun _ => none
    let start := ofChannels 4 #[channel 1, channel 2]
    let deeds : List Deed := [.create ⟨0⟩, .create ⟨1⟩, .bindPlayer ⟨1⟩ ⟨7⟩, .bindPlayer ⟨2⟩ ⟨7⟩]
    let r := start.run resolve deeds
    let r' := start.run resolve (deeds ++ [.bindPlayer ⟨1⟩ ⟨8⟩])
    (∃ s, r.Live ⟨1⟩ s ∧ s.player = some ⟨7⟩) ∧ r.sessionOf ⟨7⟩ ≠ some ⟨1⟩ ∧
      (∃ s, r.Live ⟨2⟩ s ∧ s.player = some ⟨7⟩) ∧
      ∃ s, r'.Live ⟨1⟩ s ∧ s.player = some ⟨8⟩ := by
  intro channel resolve start deeds r r'
  obtain ⟨hfound, hstale, -⟩ := stale_iff_since resolve 4 #[channel 1, channel 2] deeds
    (by simp [deeds]) (by decide)
  obtain ⟨hfound', -, -⟩ := stale_iff_since resolve 4 #[channel 1, channel 2]
    (deeds ++ [.bindPlayer ⟨1⟩ ⟨8⟩]) (by simp [deeds]) (by decide)
  have hrobbed : Since (act resolve) (fun r d => d.robs ⟨1⟩ ⟨7⟩ r) (fun r d => d.frees ⟨1⟩ r) start
      deeds :=
    ⟨[.create ⟨0⟩, .create ⟨1⟩, .bindPlayer ⟨1⟩ ⟨7⟩], .bindPlayer ⟨2⟩ ⟨7⟩, [], rfl,
      by decide +kernel, trivial⟩
  obtain ⟨hclaims, hlost⟩ := (hstale ⟨1⟩ ⟨7⟩).2 hrobbed
  exact ⟨hclaims, hlost, hfound ⟨2⟩ ⟨7⟩ (by decide +kernel), hfound' ⟨1⟩ ⟨8⟩ (by decide +kernel)⟩

/-- A player is given a second session.  The player is found with that one, but the first session is
open still and says that it is the player's, so it does not count as one without a player. -/
theorem former_session_keeps_player :
    let channel (id : UInt64) : Channel := .memory { id := ⟨id⟩, transport := .stream }
    let start := ofChannels 4 #[channel 1, channel 2]
    let deeds : List Deed := [.create ⟨0⟩, .create ⟨1⟩, .bindPlayer ⟨1⟩ ⟨7⟩, .bindPlayer ⟨2⟩ ⟨7⟩]
    let r := start.run (fun _ => none) deeds
    r.live = [⟨1⟩, ⟨2⟩] ∧ r.sessionOf ⟨7⟩ = some ⟨2⟩ ∧
      (r.session? ⟨1⟩).bind (·.player) = some ⟨7⟩ ∧ r.orphanSessions 0 = [] ∧ ¬ r.Linked := by
  intro channel start deeds r
  have hlive : r.live = [⟨1⟩, ⟨2⟩] := by decide +kernel
  have hfound : r.sessionOf ⟨7⟩ = some ⟨2⟩ := by decide +kernel
  refine ⟨hlive, hfound, by decide +kernel, by decide +kernel, fun hlinked => ?_⟩
  have hfirst : (r.session? ⟨1⟩).any (fun s =>
      s.id = ⟨1⟩ && !s.isClosed && s.player = some ⟨7⟩) = true := by
    decide +kernel
  obtain ⟨s, hs, hsays⟩ := Option.any_eq_true _ _ |>.1 hfirst
  simp only [Bool.and_eq_true, decide_eq_true_eq, Bool.not_eq_true'] at hsays
  obtain ⟨⟨hid, hopen⟩, hplayer⟩ := hsays
  have hfirst : r.sessionOf ⟨7⟩ = some ⟨1⟩ := (hlinked ⟨1⟩ ⟨7⟩).1 ⟨s, ⟨hs, hid, hopen⟩, hplayer⟩
  exact absurd (hfound.symm.trans hfirst) (by decide)

end Registry

end SessionServer
