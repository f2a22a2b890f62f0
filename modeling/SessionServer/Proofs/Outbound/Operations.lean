/-
# What can be done to an engine

Whoever works on an engine does one thing after another: the application submits packets, opens
sessions, gives them players and channels and closes them, workers take tickets and write, waits for
channels end, and between two writes channels change as they like.  This file says what all of this
comes down to, and what goes to a session by it: packets, and bytes on its channels.

Main results: almost everything is done for one session at a time (`operate_cases`), and sessions
are listed under names of their own (`Named.operate`).
-/
import SessionServer.Proofs.Outbound.History
import SessionServer.Proofs.Outbound.Tending
import SessionServer.Proofs.Registry.Indexes

namespace SessionServer

/-- What is done to an engine. -/
inductive Operation where
  /-- Something is done to its registry. -/
  | registry (d : Registry.Deed)
  /-- A packet is submitted, without anything else coming in between. -/
  | submit (p : Packet)
  /-- A submitter that is under way offers its packet to one of the recipients. -/
  | offer (p : Packet) (k : SessionId)
  /-- An attempt to write is made for a session. -/
  | write (k : SessionId)
  | schedule (k : SessionId)
  /-- The next ticket of a shard is taken. -/
  | take (shard : ℕ)
  /-- A wait for a channel comes to its end. -/
  | wake (i : ℕ)
  /-- A channel changes. -/
  | turn (ref : ChannelRef) (change : Channel → Channel)

/-- The operation opens a session. -/
def Operation.opens : Operation → Bool
  | .registry d => d.opens
  | _ => false

namespace Engine

open Registry (Seals Fades)

variable {e e' e₁ e₂ e₃ : Engine} {setup : Setup} {id k : SessionId} {s : Session} {d : Dues}
  {dues dues' : List (SessionId × Dues)} {p : Packet} {op : Operation} {n : ℕ}

/-- The engine after an operation. -/
def operate (setup : Setup) (e : Engine) : Operation → Engine
  | .registry d => { e with registry := e.registry.act setup.resolve d }
  | .submit p => (e.submit setup p).2
  | .offer p k => (e.offer p k).2
  | .write k => (e.writeOnce setup k).2
  | .schedule k => (e.schedule k).2
  | .take shard => ((e.tryPop shard).map (·.2)).getD e
  | .wake i =>
    match e.waiters[i]? with
    | some w => { e with waiters := e.waiters.eraseIdx i }.wake w
    | none => e
  | .turn ref change => { e with registry := e.registry.modifyChannel ref change }

/-- The engine after some operations. -/
def proceed (setup : Setup) (e : Engine) (ops : List Operation) : Engine :=
  ops.foldl (operate setup) e

lemma proceed_append (setup : Setup) (e : Engine) (ops later : List Operation) :
    e.proceed setup (ops ++ later) = (e.proceed setup ops).proceed setup later :=
  List.foldl_append

/-- How often a packet is offered to a session while it is open, when it is offered to some sessions
one after the other. -/
def offersTo (k : SessionId) (p : Packet) : List SessionId → Engine → ℕ
  | [], _ => 0
  | id :: ids, e =>
    (if id = k then (e.registry.isOpen id).toNat else 0) + offersTo k p ids (e.offer p id).2

/-- How many packets an operation offers to a session while it is open. -/
def offers (setup : Setup) (k : SessionId) (e : Engine) : Operation → ℕ
  | .registry (.enqueue id _) => if id = k then (e.registry.isOpen id).toNat else 0
  | .offer _ id => if id = k then (e.registry.isOpen id).toNat else 0
  | .submit p =>
    match e.frame setup p with
    | .error _ => 0
    | .ok frame =>
      offersTo k (e.finished p frame) p.recipients { e with nextPacketId := e.nextPacketId + 1 }
  | _ => 0

/-- How many bytes the channels of a session take by an operation. -/
def accepts (setup : Setup) (k : SessionId) (e : Engine) : Operation → ℕ
  | .write id => if id = k then e.took setup id else 0
  | _ => 0

/-! ## What an operation comes down to -/

/-- Something is done for one session, then for another one or the same, and so on; with each goes
what is counted by it. -/
inductive Chain : List (SessionId × Dues) → Engine → Engine → Prop
  | nil {e : Engine} : Chain [] e e
  | cons {k : SessionId} {d : Dues} {dues : List (SessionId × Dues)} {e₁ e₂ e₃ : Engine}
      (htends : Tends k d e₁ e₂) (hchain : Chain dues e₂ e₃) : Chain ((k, d) :: dues) e₁ e₃

lemma Chain.append (h : Chain dues e₁ e₂) (h' : Chain dues' e₂ e₃) :
    Chain (dues ++ dues') e₁ e₃ := by
  induction h with
  | nil => exact h'
  | cons htends _ ih => exact .cons htends (ih h')

/-- What is counted for one of the sessions. -/
def due (count : Dues → ℕ) (id : SessionId) (dues : List (SessionId × Dues)) : ℕ :=
  (dues.map fun entry => if entry.1 = id then count entry.2 else 0).sum

@[simp] lemma due_nil (count : Dues → ℕ) (id : SessionId) : due count id [] = 0 := rfl

@[simp] lemma due_cons (count : Dues → ℕ) (id k : SessionId) (d : Dues)
    (dues : List (SessionId × Dues)) :
    due count id ((k, d) :: dues) = (if k = id then count d else 0) + due count id dues :=
  List.sum_cons

@[simp] lemma due_append (count : Dues → ℕ) (id : SessionId)
    (dues dues' : List (SessionId × Dues)) :
    due count id (dues ++ dues') = due count id dues + due count id dues' := by
  rw [due, List.map_append, List.sum_append_nat]
  rfl

lemma Tends.keyed (h : Tends k d e e') (hr : e.registry.Keyed) : e'.registry.Keyed := by
  intro id t' ht'
  obtain ⟨s', hs', rfl⟩ := Registry.core_eq_some_iff.1 ht'
  have hold : ∀ s, e.registry.session? id = some s → s.id = id :=
    fun s hs => hr id s.core (Registry.core_eq_some_iff.2 ⟨s, hs, rfl⟩)
  by_cases hid : id = k
  · subst hid
    obtain ⟨f, hf⟩ := h.session? id
    obtain ⟨s, hs, -⟩ := Option.map_eq_some_iff.1 ((hf.trans (if_pos rfl)).symm.trans hs')
    exact (h.ages s s' hs hs').id_eq.trans (hold s hs)
  · exact hold s' ((h.session?_of_ne hid).symm.trans hs')

/-- Offering a packet to some sessions is a chain of offers. -/
lemma chain_offerAll (hr : e.registry.Keyed) (p : Packet) (ids : List SessionId) :
    ∃ dues, Chain dues e (offerAll p ids e).2 ∧
      (∀ k, offersTo k p ids e = due Dues.offered k dues) ∧ ∀ k, due Dues.bytes k dues = 0 := by
  induction ids generalizing e with
  | nil => exact ⟨[], .nil, fun _ => rfl, fun _ => rfl⟩
  | cons id ids ih =>
    have hoffer := tends_offer hr p id
    obtain ⟨dues, hchain, hoffers, hbytes⟩ := ih (hoffer.keyed hr)
    refine ⟨_, .cons hoffer hchain, fun k => ?_, fun k => ?_⟩
    · rw [offersTo, hoffers k, due_cons]
    · rw [due_cons, ite_self, Nat.zero_add]
      exact hbytes k

/-- An operation is done for one session after the other, and brings to each of them what is counted
for it. -/
def Chained (setup : Setup) (e : Engine) (op : Operation) : Prop :=
  ∃ dues, Chain dues e (e.operate setup op) ∧
    (∀ id, e.offers setup id op = due Dues.offered id dues) ∧
    ∀ id, e.accepts setup id op = due Dues.bytes id dues

lemma chained_of_tends (h : Tends k d e (e.operate setup op))
    (hoffers : ∀ id, e.offers setup id op = if k = id then d.offered else 0)
    (haccepts : ∀ id, e.accepts setup id op = if k = id then d.bytes else 0) :
    e.Chained setup op :=
  ⟨[(k, d)], .cons h .nil, fun id => by simp [hoffers], fun id => by simp [haccepts]⟩

/-- What is done for one session and brings nothing to any. -/
lemma chained_of_quiet (h : Tends k {} e (e.operate setup op))
    (hoffers : ∀ id, e.offers setup id op = 0) (haccepts : ∀ id, e.accepts setup id op = 0) :
    e.Chained setup op :=
  chained_of_tends h (fun id => by simp [hoffers]) fun id => by simp [haccepts]

lemma chained_submit (hr : e.registry.Keyed) (setup : Setup) (p : Packet) :
    e.Chained setup (.submit p) := by
  show ∃ dues, Chain dues e (e.submit setup p).2 ∧ _
  cases hf : e.frame setup p with
  | error err =>
    rw [submit_of_frame_error hf]
    exact ⟨[], .nil, fun k => by rw [offers, hf]; rfl, fun _ => rfl⟩
  | ok frame =>
    -- before the packet is offered its number is taken, and afterwards losses are counted
    have hnumber : Tends ⟨0⟩ {} e { e with nextPacketId := e.nextPacketId + 1 } :=
      tends_of_eq _ rfl rfl rfl rfl rfl (Seals.refl _)
    obtain ⟨dues, hchain, hoffers, hbytes⟩ :=
      chain_offerAll (hnumber.keyed hr) (e.finished p frame) p.recipients
    have hlost : Tends ⟨0⟩ {} (offerAll (e.finished p frame) p.recipients
        { e with nextPacketId := e.nextPacketId + 1 }).2 (e.submit setup p).2 := by
      rw [submit, hf]
      exact tends_of_eq _ rfl rfl rfl rfl rfl (Seals.refl _)
    refine ⟨_, .cons hnumber (hchain.append (.cons hlost .nil)), fun k => ?_, fun k => ?_⟩
    · rw [offers, hf]
      simpa using hoffers k
    · simpa [accepts] using (hbytes k).symm

lemma chained_take (e : Engine) (setup : Setup) (shard : ℕ) : e.Chained setup (.take shard) := by
  cases hpop : e.tryPop shard with
  | none =>
    have hsame : e.operate setup (.take shard) = e := by rw [operate, hpop]; rfl
    exact chained_of_quiet (k := ⟨0⟩) (hsame.symm ▸ Tends.refl _ e) (fun _ => rfl) fun _ => rfl
  | some popped =>
    have htaken : e.operate setup (.take shard) = popped.2 := by rw [operate, hpop]; rfl
    exact chained_of_quiet (htaken.symm ▸ tends_tryPop hpop) (fun _ => rfl) fun _ => rfl

lemma chained_wake (e : Engine) (setup : Setup) (i : ℕ) : e.Chained setup (.wake i) := by
  cases hw : e.waiters[i]? with
  | none =>
    have hsame : e.operate setup (.wake i) = e := by simp only [operate, hw]
    exact chained_of_quiet (k := ⟨0⟩) (hsame.symm ▸ Tends.refl _ e) (fun _ => rfl) fun _ => rfl
  | some w =>
    have hrest : Tends w.session {} e { e with waiters := e.waiters.eraseIdx i } :=
      tends_of_eq w.session rfl rfl rfl rfl rfl (Seals.refl _)
    have hwoken : e.operate setup (.wake i)
        = { e with waiters := e.waiters.eraseIdx i }.wake w := by
      simp only [operate, hw]
    have htends : Tends w.session {} e (e.operate setup (.wake i)) :=
      hwoken.symm ▸ hrest.trans (tends_wake _ w)
    exact chained_of_quiet htends (fun _ => rfl) fun _ => rfl

/-- What an operation comes down to: a chain of what is done for one session each, or a session is
opened or given a channel, or a channel changes. -/
lemma operate_cases (hr : e.registry.Keyed) (setup : Setup) (op : Operation) :
    e.Chained setup op ∨
      (∃ primary, op = .registry (.create primary)) ∨
      (∃ ref token, op = .registry (.attach ref token)) ∨ ∃ ref change, op = .turn ref change := by
  cases op with
  | registry d =>
    cases d with
    | create primary => exact .inr (.inl ⟨primary, rfl⟩)
    | attach ref token => exact .inr (.inr (.inl ⟨ref, token, rfl⟩))
    | activate k =>
      exact .inl (chained_of_quiet (tends_activate e k) (fun _ => rfl) fun _ => rfl)
    | bindPlayer k player =>
      exact .inl (chained_of_quiet (tends_bindPlayer e k player) (fun _ => rfl) fun _ => rfl)
    | close k reason =>
      exact .inl (chained_of_quiet (tends_close e k reason) (fun _ => rfl) fun _ => rfl)
    | enqueue k p =>
      exact .inl (chained_of_tends (tends_enqueue hr k p) (fun _ => rfl) fun _ => by
        simp [accepts])
  | submit p => exact .inl (chained_submit hr setup p)
  | offer p k =>
    exact .inl (chained_of_tends (tends_offer hr p k) (fun _ => rfl) fun _ => by simp [accepts])
  | write k =>
    obtain ⟨packets, htends⟩ := tends_writeOnce setup e k
    exact .inl (chained_of_tends htends (fun _ => by simp [offers]) fun _ => rfl)
  | schedule k =>
    exact .inl (chained_of_quiet (tends_schedule e k) (fun _ => rfl) fun _ => rfl)
  | take shard => exact .inl (chained_take e setup shard)
  | wake i => exact .inl (chained_wake e setup i)
  | turn ref change => exact .inr (.inr (.inr ⟨ref, change, rfl⟩))

/-- A session that is active is given a channel, or nothing happens to sessions. -/
lemma sessions_attach {r : Registry} (hr : r.Keyed) (resolve : Resolver) (ref : ChannelRef)
    (token : Bytes) :
    (r.attach resolve ref token).2.sessions = r.sessions ∨
      ∃ k s, r.session? k = some s ∧ s.isClosed = false ∧
        (r.attach resolve ref token).2.sessions
          = r.sessions.modify k fun s => { s with secondary := some ref } := by
  unfold Registry.attach Registry.tryAttach
  cases resolve token with
  | none => exact .inl rfl
  | some player =>
    dsimp only
    cases hs : (r.sessionOf player).bind r.session? with
    | none => exact .inl rfl
    | some s =>
      cases r.channelId? ref with
      | none => exact .inl rfl
      | some name =>
        dsimp only
        split_ifs with hactive
        · exact .inl rfl
        · exact .inl rfl
        · obtain ⟨k, -, hk⟩ := Option.bind_eq_some_iff.1 hs
          have hkey : s.id = k := hr k s.core (Registry.core_eq_some_iff.2 ⟨s, hk, rfl⟩)
          have hopen := Session.isClosed_of_isActive (s := s) (by simpa using hactive)
          refine .inr ⟨k, s, hk, hopen, ?_⟩
          rw [← hkey]
          exact Registry.sessions_replaceSecondary _ s.secondary name

/-! ## Names -/

/-- Sessions are listed under their own names, and so many names were given out. -/
structure Named (e : Engine) (n : ℕ) : Prop where
  keyed : e.registry.Keyed
  numbered : e.registry.Numbered n

lemma Tends.named (h : Tends k d e e') (hn : e.Named n) : e'.Named n where
  keyed := h.keyed hn.keyed
  numbered := by
    refine ⟨h.nextId ▸ hn.numbered.nextId, fun id hid => hn.numbered.toNat_le id ?_⟩
    obtain ⟨f, hf⟩ := h.session? id
    simp only [Registry.fate, Registry.core, Option.isSome_map, hf] at hid ⊢
    split_ifs at hid
    · rwa [Option.isSome_map] at hid
    · exact hid

lemma Chain.named (h : Chain dues e e') (hn : e.Named n) : e'.Named n := by
  induction h with
  | nil => exact hn
  | cons htends _ ih => exact ih (htends.named hn)

/-- The next name is a new one. -/
lemma Named.fresh (hn : e.Named n) (hlt : n + 1 < UInt64.size) :
    e.registry.session? ⟨e.registry.nextId⟩ = none :=
  Option.map_eq_none_iff.1 (hn.numbered.fresh hlt)

lemma Named.operate (hn : e.Named n) (setup : Setup) (op : Operation)
    (hroom : op.opens = true → n + 1 < UInt64.size) :
    (e.operate setup op).Named (n + [op].countP Operation.opens) := by
  have hchain : op.opens = false → ∀ dues, Chain dues e (e.operate setup op) →
      (e.operate setup op).Named (n + [op].countP Operation.opens) := by
    intro hquiet dues h
    rw [List.countP_singleton, hquiet]
    exact h.named hn
  cases op with
  | registry d =>
    exact ⟨Registry.keyed_act hn.keyed setup.resolve d,
      hn.numbered.act hn.keyed setup.resolve d hroom⟩
  | turn ref change => exact ⟨hn.keyed, hn.numbered.nextId, hn.numbered.toNat_le⟩
  | _ =>
    rcases operate_cases hn.keyed setup _ with
      ⟨dues, h, -⟩ | ⟨primary, hop⟩ | ⟨ref, token, hop⟩ | ⟨ref, change, hop⟩
    · exact hchain rfl dues h
    all_goals cases hop

lemma named_ofChannels {queueCapacity : ℕ} {channels : Array Channel}
    (hstart : e.registry = .ofChannels queueCapacity channels) : e.Named 0 where
  keyed := by rw [hstart]; exact nofun
  numbered := by rw [hstart]; exact ⟨rfl, nofun⟩

/-- There is room for the names that an operation and those after it give out. -/
lemma room_of_countP {ops : List Operation}
    (hcount : n + (op :: ops).countP Operation.opens < UInt64.size) :
    (op.opens = true → n + 1 < UInt64.size) ∧
      n + [op].countP Operation.opens + ops.countP Operation.opens < UInt64.size := by
  rw [List.countP_cons] at hcount
  rw [List.countP_singleton]
  refine ⟨fun hopens => ?_, by omega⟩
  rw [if_pos hopens] at hcount
  omega

lemma Named.proceed {ops : List Operation} (hn : e.Named n) (setup : Setup)
    (hcount : n + ops.countP Operation.opens < UInt64.size) :
    (e.proceed setup ops).Named (n + ops.countP Operation.opens) := by
  induction ops generalizing e n with
  | nil => exact hn
  | cons op ops ih =>
    obtain ⟨hroom, hrest⟩ := room_of_countP hcount
    have hnext := ih (hn.operate setup op hroom) hrest
    rwa [Nat.add_assoc, ← List.countP_append, List.singleton_append] at hnext

end Engine

end SessionServer
