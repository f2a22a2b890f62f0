/-
# One ticket, one writer

A session that has something to write waits in the shard that it belongs to, and a flag of its own
says that it does.  Giving a ticket, taking one and throwing all of them away each change the flag
and the shard, and they change them separately; closing a session changes neither, so that a session
may be over and still wait.

Each shard has a worker, which holds the session whose ticket it took last until it lets go of it.
A *shift* is an engine with the sessions that its workers hold.  Whatever is done in a shift, in
whatever order, the flags are right about the shards (`Orderly`), and what comes into a shard leaves
it in the same order (`shard_act`).

Main result: a session waits at most once, in its own shard, exactly while its flag is on, tickets
are taken in the order in which they were given, and no two workers hold one session
(`one_ticket_one_writer`).
-/
import Mathlib.Data.List.Induction
import Mathlib.Data.List.Nodup
import Mathlib.Logic.Function.Basic
import SessionServer.Proofs.Outbound.Tending
import SessionServer.Proofs.Registry.Deeds

namespace SessionServer

/-! ## Shards -/

namespace Tickets

variable {t : Tickets} {k : SessionId}

lemma shard_eq (t : Tickets) (n : ℕ) : t.shard n = t.shards.toList[n]?.getD [] := by
  simp [shard, Array.getD_eq_getD_getElem?]

lemma mem_sessions : k ∈ t.sessions ↔ ∃ n, k ∈ t.shard n := by
  simp only [sessions, shard_eq, List.mem_flatten]
  constructor
  · rintro ⟨waiting, hwaiting, hk⟩
    obtain ⟨n, hn⟩ := List.mem_iff_getElem?.1 hwaiting
    exact ⟨n, by rwa [hn]⟩
  · rintro ⟨n, hk⟩
    cases hn : t.shards.toList[n]? with
    | none => simp [hn] at hk
    | some waiting => exact ⟨waiting, List.mem_of_getElem? hn, by rwa [hn] at hk⟩

/-- A session waits once if it waits once in each shard and in one shard only. -/
lemma nodup_sessions {place : SessionId → ℕ} (hnodup : ∀ n, (t.shard n).Nodup)
    (hplace : ∀ n, ∀ k ∈ t.shard n, place k = n) : t.sessions.Nodup := by
  have hshard : ∀ n (hn : n < t.shards.toList.length), t.shards.toList[n] = t.shard n := by
    intro n hn
    rw [shard_eq, List.getElem?_eq_getElem hn, Option.getD_some]
  refine List.nodup_flatten.2 ⟨fun waiting hwaiting => ?_, ?_⟩
  · obtain ⟨n, hn, rfl⟩ := List.getElem_of_mem hwaiting
    exact hshard n hn ▸ hnodup n
  · refine List.pairwise_iff_getElem.2 fun m n hm hn hlt => ?_
    rw [hshard m hm, hshard n hn]
    intro k hkm hkn
    have hmn : m = n := (hplace m k hkm).symm.trans (hplace n k hkn)
    exact absurd hmn (Nat.ne_of_lt hlt)

@[simp] lemma count_cleared (t : Tickets) : t.cleared.count = t.count := Array.size_map

@[simp] lemma shard_cleared (t : Tickets) (n : ℕ) : t.cleared.shard n = [] := by
  rw [shard_eq, cleared, Array.toList_map, List.getElem?_map]
  cases t.shards.toList[n]? <;> rfl

end Tickets

/-! ## Flags -/

namespace Engine

variable {e e' : Engine} {k id : SessionId} {n : ℕ}

/-- The flag of a session says that it waits. -/
def pending (e : Engine) (k : SessionId) : Bool := (e.registry.session? k).any (·.ticket)

lemma pending_of_modify {f : Session → Session}
    (h : e'.registry.sessions = e.registry.sessions.modify k f) (id : SessionId) :
    e'.pending id
      = if id = k then (e.registry.session? k).any fun s => (f s).ticket else e.pending id := by
  unfold pending
  rw [Registry.session?_of_modify h]
  split_ifs with hid
  · rw [hid, Option.any_map]
  · rfl

lemma pending_clearTicket (e : Engine) (k id : SessionId) :
    (e.clearTicket k).pending id = if id = k then false else e.pending id := by
  rw [pending_of_modify (f := fun s => { s with ticket := false }) rfl]
  cases e.registry.session? k <;> rfl

/-- The flag of a new session is off. -/
lemma pending_create (h : e.pending k = false) (primary : ChannelRef) :
    { e with registry := (e.registry.create primary).2 }.pending k = false := by
  refine Option.any_eq_false _ _ |>.2 fun s hs => ?_
  rcases Registry.session?_create hs with hold | ⟨-, hnone, -⟩
  · have hoff := Option.any_eq_false _ _ |>.1 h s hold
    simpa using hoff
  · simp [hnone]

/-- A session gets a ticket unless it has one or is over. -/
lemma schedule_cases (e : Engine) (k : SessionId) :
    e.schedule k = (false, e) ∨
      ((e.schedule k).1 = true ∧ e.pending k = false ∧
        (e.schedule k).2.tickets = e.tickets.put k ∧
        ∀ id, (e.schedule k).2.pending id = if id = k then true else e.pending id) := by
  unfold schedule
  cases hs : e.registry.session? k with
  | none => exact .inl rfl
  | some s =>
    dsimp only
    split_ifs with hno
    · exact .inl rfl
    · obtain ⟨-, hticket⟩ : s.isClosed = false ∧ s.ticket = false := by simpa using hno
      refine .inr ⟨rfl, by simp [pending, hs, hticket], rfl, fun id => ?_⟩
      refine (pending_of_modify (f := fun s => { s with ticket := true }) rfl id).trans ?_
      rw [hs]
      rfl

/-- The next ticket of a shard is taken, and the flag of its session goes off. -/
lemma tryPop_cases (h : e.tryPop n = some (k, e')) :
    e.tickets.shard n = k :: e'.tickets.shard n ∧
      (∀ m, m ≠ n → e'.tickets.shard m = e.tickets.shard m) ∧
      e'.tickets.count = e.tickets.count ∧
      ∀ id, e'.pending id = if id = k then false else e.pending id := by
  unfold tryPop at h
  split at h
  · cases h
  · rename_i first tickets htake
    obtain ⟨rfl, rfl⟩ := Prod.mk.inj (Option.some.inj h)
    obtain ⟨hshard, hothers, hcount⟩ := Tickets.take?_eq_some htake
    exact ⟨hshard, hothers, hcount, pending_clearTicket _ first⟩

lemma pending_clearTickets (e : Engine) (k : SessionId) :
    e.clearTickets.pending k = if k ∈ e.tickets.sessions then false else e.pending k := by
  have hfold : ∀ (ids : List SessionId) (e : Engine),
      (ids.foldl clearTicket e).pending k = if k ∈ ids then false else e.pending k := by
    intro ids
    induction ids with
    | nil => exact fun e => rfl
    | cons first ids ih =>
      intro e
      rw [List.foldl_cons, ih, pending_clearTicket]
      by_cases hk : k = first
      · simp [hk]
      · simp [hk]
  exact hfold e.tickets.sessions e

/-- A session that closes keeps its flag. -/
lemma pending_close (e : Engine) (k : SessionId) (reason : CloseReason) (id : SessionId) :
    (e.close k reason).pending id = e.pending id := by
  by_cases hopen : e.registry.isOpen k = true
  · obtain ⟨s, hs, hstate⟩ := Option.any_eq_true _ _ |>.1 hopen
    have hsessions : (e.close k reason).registry.sessions = e.registry.sessions.modify k .ended :=
      Registry.sessions_close hs (by simpa using hstate) reason
    rw [pending_of_modify hsessions]
    split_ifs with hid
    · rw [hid]
      rfl
    · rfl
  · have hsame : (e.registry.close k reason).2 = e.registry := by
      refine Registry.close_of_closed (fun s hs => ?_) reason
      simpa [isOpen_of_some hs] using hopen
    exact congrArg (fun r => ((r : Registry).session? id).any (·.ticket)) hsame

/-! ## Flags and shards -/

/-- Every session waits in its own shard only, once, and exactly if its flag is on. -/
structure Orderly (e : Engine) : Prop where
  count_pos : 0 < e.tickets.count
  shardOf_eq : ∀ n, ∀ k ∈ e.tickets.shard n, e.tickets.shardOf k = n
  nodup : ∀ n, (e.tickets.shard n).Nodup
  mem_iff : ∀ k, k ∈ e.tickets.shard (e.tickets.shardOf k) ↔ e.pending k = true

namespace Orderly

lemma of_eq (he : e.Orderly) (htickets : e'.tickets = e.tickets)
    (hpending : ∀ k, e'.pending k = e.pending k) : e'.Orderly where
  count_pos := htickets ▸ he.count_pos
  shardOf_eq := htickets ▸ he.shardOf_eq
  nodup := htickets ▸ he.nodup
  mem_iff k := by
    rw [htickets, hpending]
    exact he.mem_iff k

/-- The shards change, and stay in step with the flags. -/
lemma update (he : e.Orderly) (hcount : e'.tickets.count = e.tickets.count)
    (hnodup : ∀ n, (e'.tickets.shard n).Nodup)
    (hmem : ∀ n id, id ∈ e'.tickets.shard n ↔ e.tickets.shardOf id = n ∧ e'.pending id = true) :
    e'.Orderly where
  count_pos := hcount ▸ he.count_pos
  shardOf_eq n id hid := by
    rw [Tickets.shardOf_of_count_eq hcount]
    exact ((hmem n id).1 hid).1
  nodup := hnodup
  mem_iff id := by
    rw [Tickets.shardOf_of_count_eq hcount, hmem]
    exact and_iff_right rfl

lemma mem_shard_iff (he : e.Orderly) (n : ℕ) (id : SessionId) :
    id ∈ e.tickets.shard n ↔ e.tickets.shardOf id = n ∧ e.pending id = true := by
  constructor
  · intro hid
    have hn := he.shardOf_eq n id hid
    exact ⟨hn, (he.mem_iff id).1 (hn.symm ▸ hid)⟩
  · rintro ⟨rfl, hid⟩
    exact (he.mem_iff id).2 hid

lemma schedule (he : e.Orderly) (k : SessionId) : (e.schedule k).2.Orderly := by
  rcases schedule_cases e k with hsame | ⟨-, hoff, htickets, hpending⟩
  · rwa [hsame]
  · have hshard : ∀ n, (e.schedule k).2.tickets.shard n
        = if n = e.tickets.shardOf k then e.tickets.shard n ++ [k] else e.tickets.shard n := by
      intro n
      rw [htickets, Tickets.shard_put he.count_pos]
    have hnew : ∀ n, k ∉ e.tickets.shard n := by
      intro n hk
      exact absurd (hoff.symm.trans ((he.mem_shard_iff n k).1 hk).2) Bool.false_ne_true
    refine he.update (by rw [htickets, Tickets.count_put]) (fun n => ?_) fun n id => ?_
    · rw [hshard]
      split_ifs
      · exact List.nodup_append.2 ⟨he.nodup n, List.nodup_singleton k, fun a ha b hb hab =>
          hnew n (List.mem_singleton.1 hb ▸ hab ▸ ha)⟩
      · exact he.nodup n
    · rw [hshard, hpending]
      by_cases hid : id = k
      · subst hid
        by_cases hn : n = e.tickets.shardOf id
        · simp [hn]
        · simp [hn, Ne.symm hn, hnew n]
      · rw [if_neg hid, ← he.mem_shard_iff]
        split_ifs <;> simp [hid]

lemma tryPop (he : e.Orderly) (h : e.tryPop n = some (k, e')) :
    e'.Orderly ∧ e.tickets.shardOf k = n := by
  obtain ⟨hshard, hothers, hcount, hpending⟩ := tryPop_cases h
  have hfirst : e.tickets.shardOf k = n := he.shardOf_eq n k (hshard ▸ List.mem_cons_self)
  obtain ⟨hgone, hrest⟩ := List.nodup_cons.1 (hshard ▸ he.nodup n)
  refine ⟨he.update hcount (fun m => ?_) fun m id => ?_, hfirst⟩
  · by_cases hm : m = n
    · rwa [hm]
    · exact hothers m hm ▸ he.nodup m
  · rw [hpending]
    by_cases hid : id = k
    · subst hid
      refine iff_of_false (fun hmem => ?_) (by simp)
      by_cases hm : m = n
      · exact hgone (hm ▸ hmem)
      · rw [hothers m hm] at hmem
        exact hm ((he.shardOf_eq m id hmem).symm.trans hfirst)
    · rw [if_neg hid, ← he.mem_shard_iff]
      by_cases hm : m = n
      · rw [hm, hshard, List.mem_cons, or_iff_right hid]
      · rw [hothers m hm]

lemma clearTickets (he : e.Orderly) : e.clearTickets.Orderly := by
  have hempty : ∀ n, e.clearTickets.tickets.shard n = [] := Tickets.shard_cleared e.tickets
  refine he.update (Tickets.count_cleared e.tickets) (fun n => ?_) fun n id => ?_
  · rw [hempty]
    exact List.nodup_nil
  · rw [hempty, pending_clearTickets]
    refine iff_of_false List.not_mem_nil ?_
    rintro ⟨-, hid⟩
    split_ifs at hid with hnone
    exact hnone (Tickets.mem_sessions.2 ⟨_, (he.mem_iff id).2 hid⟩)

lemma close (he : e.Orderly) (k : SessionId) (reason : CloseReason) : (e.close k reason).Orderly :=
  he.of_eq rfl (pending_close e k reason)

end Orderly

end Engine

/-! ## Shifts -/

/-- An engine and the sessions that its workers hold. -/
structure Shift where
  engine : Engine
  /-- The session whose ticket the worker of a shard took last and that it has not let go of. -/
  held : ℕ → Option SessionId := fun _ => none

namespace Shift

/-- What is done in a shift. -/
inductive Action where
  /-- A session is given a ticket. -/
  | enqueue (k : SessionId)
  /-- The worker of a shard takes the next ticket. -/
  | pop (shard : ℕ)
  /-- The worker of a shard is done with the session that it holds. -/
  | letGo (shard : ℕ)
  /-- All tickets are thrown away. -/
  | clear
  | close (k : SessionId) (reason : CloseReason)
  /-- Something else is done to the engine. -/
  | other (change : Engine → Engine)

variable {t : Shift} {action : Action} {n : ℕ} {k : SessionId}

/-- The shift after an action. -/
def act (t : Shift) : Action → Shift
  | .enqueue k => { t with engine := (t.engine.schedule k).2 }
  | .pop shard =>
    match t.engine.tryPop shard with
    | some (k, engine) => { engine, held := Function.update t.held shard (some k) }
    | none => t
  | .letGo shard => { t with held := Function.update t.held shard none }
  | .clear => { t with engine := t.engine.clearTickets }
  | .close k reason => { t with engine := t.engine.close k reason }
  | .other change => { t with engine := change t.engine }

/-- What is done besides leaves tickets and flags alone. -/
def Apart (t : Shift) : Action → Prop
  | .other change => (change t.engine).tickets = t.engine.tickets ∧
      ∀ k, (change t.engine).pending k = t.engine.pending k
  | _ => True

/-- The session that comes into a shard by an action. -/
def entering (n : ℕ) (t : Shift) : Action → List SessionId
  | .enqueue k => if (t.engine.schedule k).1 ∧ t.engine.tickets.shardOf k = n then [k] else []
  | _ => []

/-- The sessions that leave a shard by an action, first one first. -/
def leaving (n : ℕ) (t : Shift) : Action → List SessionId
  | .pop shard => if shard = n then ((t.engine.tryPop shard).map (·.1)).toList else []
  | .clear => t.engine.tickets.shard n
  | _ => []

/-- The flags are right about the shards, and workers hold sessions of their own shards. -/
structure Ruled (t : Shift) : Prop where
  orderly : t.engine.Orderly
  shardOf_of_held : ∀ n k, t.held n = some k → t.engine.tickets.shardOf k = n

lemma act_pop_of_some {e : Engine} (h : t.engine.tryPop n = some (k, e)) :
    t.act (.pop n) = { engine := e, held := Function.update t.held n (some k) } := by
  simp only [act, h]

lemma act_pop_of_none (h : t.engine.tryPop n = none) : t.act (.pop n) = t := by
  simp only [act, h]

/-- No action changes how many shards there are. -/
lemma count_act (hapart : t.Apart action) :
    (t.act action).engine.tickets.count = t.engine.tickets.count := by
  cases action with
  | enqueue k =>
    rcases Engine.schedule_cases t.engine k with hsame | ⟨-, -, htickets, -⟩
    · simp only [act, hsame]
    · simp only [act, htickets, Tickets.count_put]
  | pop n =>
    cases h : t.engine.tryPop n with
    | none => rw [act_pop_of_none h]
    | some popped =>
      rw [act_pop_of_some h]
      exact (Engine.tryPop_cases h).2.2.1
  | clear => exact Tickets.count_cleared t.engine.tickets
  | other change => exact congrArg Tickets.count hapart.1
  | _ => rfl

lemma Ruled.act (ht : t.Ruled) (hapart : t.Apart action) : (t.act action).Ruled := by
  have hcount := count_act hapart
  -- workers that hold what they held are right, since shards stay where they are
  have hkept : (t.act action).held = t.held → ∀ n k, (t.act action).held n = some k →
      (t.act action).engine.tickets.shardOf k = n := by
    intro hheld n k hk
    rw [Tickets.shardOf_of_count_eq hcount]
    exact ht.shardOf_of_held n k (hheld ▸ hk)
  cases action with
  | enqueue k => exact ⟨ht.orderly.schedule k, hkept rfl⟩
  | clear => exact ⟨ht.orderly.clearTickets, hkept rfl⟩
  | close k reason => exact ⟨ht.orderly.close k reason, hkept rfl⟩
  | other change => exact ⟨ht.orderly.of_eq hapart.1 hapart.2, hkept rfl⟩
  | letGo n =>
    refine ⟨ht.orderly, fun m k hk => ?_⟩
    by_cases hm : m = n
    · subst hm
      simp [Shift.act] at hk
    · exact ht.shardOf_of_held m k (by simpa [Shift.act, Function.update_of_ne hm] using hk)
  | pop n =>
    cases h : t.engine.tryPop n with
    | none =>
      rw [act_pop_of_none h]
      exact ht
    | some popped =>
      obtain ⟨first, e⟩ := popped
      rw [act_pop_of_some h] at hcount ⊢
      obtain ⟨horderly, hfirst⟩ := ht.orderly.tryPop h
      refine ⟨horderly, fun m k hk => ?_⟩
      rw [Tickets.shardOf_of_count_eq hcount]
      by_cases hm : m = n
      · subst hm
        obtain rfl : first = k := by simpa using hk
        exact hfirst
      · exact ht.shardOf_of_held m k (by simpa [Function.update_of_ne hm] using hk)

/-- What waited in a shard and what comes into it is what leaves it and what waits then. -/
lemma shard_act (ht : t.Ruled) (hapart : t.Apart action) (n : ℕ) :
    t.engine.tickets.shard n ++ t.entering n action
      = t.leaving n action ++ (t.act action).engine.tickets.shard n := by
  cases action with
  | enqueue k =>
    rcases Engine.schedule_cases t.engine k with hsame | ⟨hgiven, -, htickets, -⟩
    · simp [entering, leaving, act, hsame]
    · simp only [entering, leaving, act, hgiven, htickets,
        Tickets.shard_put ht.orderly.count_pos, true_and, List.nil_append, eq_comm (b := n)]
      split_ifs <;> simp
  | pop shard =>
    cases h : t.engine.tryPop shard with
    | none => simp [entering, leaving, act_pop_of_none h, h]
    | some popped =>
      obtain ⟨first, e⟩ := popped
      obtain ⟨hshard, hothers, -⟩ := Engine.tryPop_cases h
      rw [act_pop_of_some h]
      by_cases hn : shard = n
      · subst hn
        simp [entering, leaving, h, hshard]
      · simp [entering, leaving, hn, hothers n (Ne.symm hn)]
  | clear => simp [entering, leaving, act, Engine.clearTickets]
  | other change => simp [entering, leaving, act, hapart.1]
  | letGo _ => simp [entering, leaving, act]
  | close _ _ => simp [entering, leaving, act, Engine.close]

/-! ## Runs -/

/-- Everything that is true in the end, of a run that starts without tickets. -/
lemma ruled_run {start : Shift} {actions : List Action} (hstart : start.Ruled)
    (hempty : ∀ n, start.engine.tickets.shard n = [])
    (hapart : EachStep act Apart start actions) :
    let t := actions.foldl act start
    t.Ruled ∧ t.engine.tickets.count = start.engine.tickets.count ∧
      ∀ n, gather act (entering n) start actions
        = gather act (leaving n) start actions ++ t.engine.tickets.shard n := by
  induction actions using List.reverseRecOn with
  | nil => exact ⟨hstart, rfl, fun n => (hempty n).symm⟩
  | append_singleton actions action ih =>
    obtain ⟨hbefore, hlast⟩ := eachStep_concat.1 hapart
    obtain ⟨hruled, hcount, hqueue⟩ := ih hbefore
    intro t
    have ht : t = (actions.foldl act start).act action := List.foldl_concat ..
    refine ⟨ht ▸ hruled.act hlast, ht ▸ (count_act hlast).trans hcount, fun n => ?_⟩
    rw [gather_concat, gather_concat, hqueue, List.append_assoc, shard_act hruled hlast, ht,
      List.append_assoc]

lemma ruled_ofCount {shards : ℕ} (htickets : t.engine.tickets = .ofCount shards)
    (hnone : ∀ k, t.engine.pending k = false) (hfree : ∀ n, t.held n = none) : t.Ruled where
  orderly := by
    have hempty : ∀ n, t.engine.tickets.shard n = [] :=
      fun n => htickets ▸ Tickets.shard_ofCount shards n
    refine ⟨?_, fun n k hk => ?_, fun n => ?_, fun k => ?_⟩
    · rw [htickets, Tickets.count_ofCount]
      exact Nat.lt_of_lt_of_le Nat.one_pos (Nat.le_max_right shards 1)
    · exact absurd (hempty n ▸ hk) List.not_mem_nil
    · exact hempty n ▸ List.nodup_nil
    · simp [hempty, hnone]
  shardOf_of_held n k hk := absurd ((hfree n).symm.trans hk) nofun

/-- **One ticket, one writer.**  Let there be any number of shards, and let no session have a ticket
and no worker hold a session at first.  Then tickets are given, taken and thrown away, sessions are
closed, workers let go of sessions, and anything else is done that leaves tickets and their flags
alone, in any order.  In every state that is reached this way each session waits at most once over
all shards, in no shard but the one that it has belonged to from the start, and it does wait exactly
if its flag is on.  What has come into a shard has left it in the same order, but for the sessions
that still wait.  And no two workers hold the same session. -/
theorem one_ticket_one_writer (start : Shift) (shards : ℕ) (actions : List Action)
    (htickets : start.engine.tickets = .ofCount shards)
    (hnone : ∀ k, start.engine.pending k = false) (hfree : ∀ n, start.held n = none)
    (hapart : EachStep act Apart start actions) :
    let t := actions.foldl act start
    let place := start.engine.tickets.shardOf
    t.engine.tickets.sessions.Nodup ∧
      (∀ n, ∀ k ∈ t.engine.tickets.shard n, place k = n) ∧
      (∀ k, k ∈ t.engine.tickets.shard (place k) ↔ t.engine.pending k = true) ∧
      (∀ n, gather act (entering n) start actions
        = gather act (leaving n) start actions ++ t.engine.tickets.shard n) ∧
      ∀ m n k, t.held m = some k → t.held n = some k → m = n := by
  intro t place
  obtain ⟨hruled, hcount, hqueue⟩ := ruled_run (ruled_ofCount htickets hnone hfree)
    (fun n => htickets ▸ Tickets.shard_ofCount shards n) hapart
  have hplace : ∀ k, t.engine.tickets.shardOf k = place k := Tickets.shardOf_of_count_eq hcount
  refine ⟨Tickets.nodup_sessions hruled.orderly.nodup hruled.orderly.shardOf_eq, fun n k hk => ?_,
    fun k => ?_, hqueue, fun m n k hm hn => ?_⟩
  · exact (hplace k).symm.trans (hruled.orderly.shardOf_eq n k hk)
  · rw [← hplace]
    exact hruled.orderly.mem_iff k
  · exact (hruled.shardOf_of_held m k hm).symm.trans (hruled.shardOf_of_held n k hn)

/-- Two shards and three sessions, the first and the third one in the same shard.  The first one is
closed while it waits and leaves its shard before the third one.  The second one is given another
ticket while its worker holds it, and this one is thrown away. -/
theorem one_ticket_one_writer_of_two_shards :
    let opening (e : Engine) : Engine := { e with registry := (e.registry.create ⟨0⟩).2 }
    let e := opening (opening (opening (.start 4 2 {})))
    let actions : List Action := [.enqueue ⟨1⟩, .enqueue ⟨3⟩, .enqueue ⟨1⟩, .enqueue ⟨2⟩,
      .close ⟨1⟩ .idle, .enqueue ⟨1⟩, .pop 1, .other (·.modifySession ⟨3⟩ (·.recordRead 5 8)),
      .pop 0, .enqueue ⟨2⟩, .letGo 1, .pop 1, .clear, .enqueue ⟨3⟩, .enqueue ⟨3⟩]
    let start : Shift := { engine := e }
    let t := actions.foldl act start
    t.engine.tickets.sessions = [⟨3⟩] ∧ t.engine.pending ⟨3⟩ = true ∧
      t.engine.pending ⟨2⟩ = false ∧
      gather act (entering 1) start actions = [⟨1⟩, ⟨3⟩, ⟨3⟩] ∧
      gather act (leaving 1) start actions = [⟨1⟩, ⟨3⟩] ∧
      t.held 0 = some ⟨2⟩ ∧ t.held 1 = some ⟨3⟩ ∧ ∀ n, t.held n = some ⟨3⟩ → n = 1 := by
  intro opening e actions start t
  have hnone : ∀ k, e.pending k = false := fun k =>
    Engine.pending_create (Engine.pending_create (Engine.pending_create rfl _) _) _
  have hread : ∀ t : Shift, t.Apart (.other (·.modifySession ⟨3⟩ (·.recordRead 5 8))) := by
    refine fun t => ⟨rfl, fun k => ?_⟩
    rw [Engine.pending_of_modify (f := (·.recordRead 5 8)) rfl]
    split_ifs with hk
    · rw [hk]
      rfl
    · rfl
  have hapart : EachStep act Apart start actions :=
    ⟨trivial, trivial, trivial, trivial, trivial, trivial, trivial, hread _, trivial, trivial,
      trivial, trivial, trivial, trivial, trivial, trivial⟩
  obtain ⟨-, -, hmem, hqueue, hheld⟩ := one_ticket_one_writer start 2 actions rfl
    hnone (fun _ => rfl) hapart
  have hsessions : t.engine.tickets.sessions = [⟨3⟩] := by decide +kernel
  have hwaits : (⟨3⟩ : SessionId) ∈ t.engine.tickets.shard (start.engine.tickets.shardOf ⟨3⟩) := by
    decide +kernel
  have hoff : t.engine.pending ⟨2⟩ = false := by decide +kernel
  have hleft : gather act (leaving 1) start actions = [⟨1⟩, ⟨3⟩] := by decide +kernel
  have hshard : t.engine.tickets.shard 1 = [⟨3⟩] := by decide +kernel
  have hcame : gather act (entering 1) start actions = [⟨1⟩, ⟨3⟩, ⟨3⟩] := by
    rw [hqueue 1, hleft, hshard]
    rfl
  have hother : t.held 0 = some ⟨2⟩ := by decide +kernel
  have hholds : t.held 1 = some ⟨3⟩ := by decide +kernel
  exact ⟨hsessions, (hmem ⟨3⟩).1 hwaits, hoff, hcame, hleft, hother, hholds,
    fun n hn => hheld n 1 ⟨3⟩ hn hholds⟩

end Shift

end SessionServer
