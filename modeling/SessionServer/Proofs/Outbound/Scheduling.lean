/-
# Sessions that have something to write

A session that is open and for which packets wait is *restless* if it has no ticket: nobody will
come and write for it.  This file says what everything that can be done to an engine does to the
restless sessions, and that the flag of a session that has a ticket never lies: the session waits
in its shard, or for a channel.

What is done for one session is described by `Serves`, which lets that session become restless, and
by `Calms`, which does not leave it so; what makes no session restless is described by `Settles`.

Main results: offering a packet and the end of a wait make no session restless (`settles_offer`,
`settles_wake`), closing a session and writing for it do not leave it so (`calms_close`,
`calms_writeOnce`), and taking a ticket makes only the session restless that it was for
(`serves_tryPop`).
-/
import SessionServer.Proofs.Outbound.Writing

namespace SessionServer

/-! ## Tickets -/

namespace Tickets

variable {t t' : Tickets} {id k : SessionId} {m n : ℕ}

/-- The sessions that wait in a shard. -/
def shard (t : Tickets) (n : ℕ) : List SessionId := t.shards.getD n []

@[simp] lemma shard_ofCount (m n : ℕ) : (ofCount m).shard n = [] := by
  unfold shard ofCount
  rw [Array.getD_eq_getD_getElem?, Array.getElem?_replicate]
  split_ifs <;> rfl

lemma shardOf_of_count_eq (h : t'.count = t.count) (id : SessionId) :
    t'.shardOf id = t.shardOf id :=
  congrArg (shardAmong · id) h

@[simp] lemma count_put (t : Tickets) (id : SessionId) : (t.put id).count = t.count := by
  unfold put
  exact Array.size_modify

lemma shard_modify {i : ℕ} (h : i < t.count) (id : SessionId) (n : ℕ) :
    (Tickets.mk (t.shards.modify i (· ++ [id]))).shard n
      = if n = i then t.shard n ++ [id] else t.shard n := by
  unfold count at h
  unfold shard
  rw [Array.getD_eq_getD_getElem?, Array.getD_eq_getD_getElem?, Array.getElem?_modify]
  by_cases hn : n = i
  · subst hn
    simp [h]
  · simp [hn, Ne.symm hn]

/-- Putting a session at the end of its shard leaves the other shards alone. -/
lemma shard_put (h : 0 < t.count) (id : SessionId) (n : ℕ) :
    (t.put id).shard n = if n = t.shardOf id then t.shard n ++ [id] else t.shard n := by
  unfold put
  exact shard_modify (shardOf_lt h id) id n

/-- Taking a ticket takes the first one of its shard and leaves the other shards alone. -/
lemma take?_eq_some (h : t.take? n = some (id, t')) :
    t.shard n = id :: t'.shard n ∧ (∀ m, m ≠ n → t'.shard m = t.shard m) ∧
      t'.count = t.count := by
  unfold take? at h
  split at h
  · rename_i first rest hn
    obtain ⟨rfl, rfl⟩ := Prod.mk.inj (Option.some.inj h)
    obtain ⟨hlt, hget⟩ := Array.getElem?_eq_some_iff.1 hn
    refine ⟨?_, fun m hm => ?_, Array.size_setIfInBounds⟩
    · simp [shard, hlt, hget]
    · simp [shard, hm.symm]
  · exact absurd h nofun

end Tickets

/-! ## Changes of sessions -/

/-- The second session has a ticket, is open and has packets just as the first one. -/
structure Session.Same (s s' : Session) : Prop where
  id_eq : s'.id = s.id
  ticket_eq : s'.ticket = s.ticket
  isClosed_eq : s'.isClosed = s.isClosed
  queue_eq : s'.queue = s.queue

lemma Session.Same.refl (s : Session) : s.Same s := ⟨rfl, rfl, rfl, rfl⟩

lemma Session.Same.of_core {s s' : Session} (hcore : s'.core = s.core)
    (hticket : s'.ticket = s.ticket) : s.Same s' where
  id_eq := congrArg (·.id) hcore
  ticket_eq := hticket
  isClosed_eq := congrArg (·.isClosed) hcore
  queue_eq := congrArg (·.queue) hcore

lemma Session.Same.trans {s₁ s₂ s₃ : Session} (h₁ : s₁.Same s₂) (h₂ : s₂.Same s₃) :
    s₁.Same s₃ where
  id_eq := h₂.id_eq.trans h₁.id_eq
  ticket_eq := h₂.ticket_eq.trans h₁.ticket_eq
  isClosed_eq := h₂.isClosed_eq.trans h₁.isClosed_eq
  queue_eq := h₂.queue_eq.trans h₁.queue_eq

namespace Registry

variable {r r' r₁ r₂ r₃ : Registry} {k : SessionId} {p : Packet}

/-- No session of the second registry is new, and except for one they are as they were; that one
has its name and its ticket still. -/
def Changes (k : SessionId) (r r' : Registry) : Prop :=
  ∀ id s', r'.session? id = some s' → ∃ s, r.session? id = some s ∧
    s'.id = s.id ∧ s'.ticket = s.ticket ∧ (id ≠ k → s.Same s')

/-- No session of the second registry is new, and they are as they were. -/
def Rests (r r' : Registry) : Prop :=
  ∀ id s', r'.session? id = some s' → ∃ s, r.session? id = some s ∧ s.Same s'

lemma Rests.changes (h : Rests r r') (k : SessionId) : Changes k r r' := by
  intro id s' hs'
  obtain ⟨s, hs, hsame⟩ := h id s' hs'
  exact ⟨s, hs, hsame.id_eq, hsame.ticket_eq, fun _ => hsame⟩

lemma Rests.of_eq (h : r'.sessions = r.sessions) : Rests r r' := by
  intro id s hs
  unfold session? at hs
  rw [h] at hs
  exact ⟨s, hs, Session.Same.refl s⟩

lemma Rests.trans (h₁ : Rests r₁ r₂) (h₂ : Rests r₂ r₃) : Rests r₁ r₃ := by
  intro id s₃ hs₃
  obtain ⟨s₂, hs₂, hsame₂⟩ := h₂ id s₃ hs₃
  obtain ⟨s₁, hs₁, hsame₁⟩ := h₁ id s₂ hs₂
  exact ⟨s₁, hs₁, hsame₁.trans hsame₂⟩

lemma Changes.trans (h₁ : Changes k r₁ r₂) (h₂ : Changes k r₂ r₃) : Changes k r₁ r₃ := by
  intro id s₃ hs₃
  obtain ⟨s₂, hs₂, hid₂, hticket₂, hsame₂⟩ := h₂ id s₃ hs₃
  obtain ⟨s₁, hs₁, hid₁, hticket₁, hsame₁⟩ := h₁ id s₂ hs₂
  exact ⟨s₁, hs₁, hid₂.trans hid₁, hticket₂.trans hticket₁,
    fun hne => (hsame₁ hne).trans (hsame₂ hne)⟩

lemma changes_modifySession {f : Session → Session} (hid : ∀ s, (f s).id = s.id)
    (hticket : ∀ s, (f s).ticket = s.ticket) : Changes k r (r.modifySession k f) := by
  intro id s' hs'
  rw [session?_modifySession] at hs'
  split_ifs at hs' with h
  · obtain ⟨s, hs, rfl⟩ := Option.map_eq_some_iff.1 hs'
    exact ⟨s, hs, hid s, hticket s, fun hne => absurd h hne⟩
  · exact ⟨s', hs', rfl, rfl, fun _ => Session.Same.refl s'⟩

lemma rests_modifySession {f : Session → Session}
    (hf : ∀ s, r.session? k = some s → s.Same (f s)) : Rests r (r.modifySession k f) := by
  intro id s' hs'
  rw [session?_modifySession] at hs'
  split_ifs at hs' with h
  · obtain ⟨s, hs, rfl⟩ := Option.map_eq_some_iff.1 hs'
    exact ⟨s, hs, hf s (h ▸ hs)⟩
  · exact ⟨s', hs', Session.Same.refl s'⟩

lemma sessions_dropSecondary (r : Registry) (s : Session) :
    (r.dropSecondary s).sessions = r.sessions := by
  unfold dropSecondary
  cases s.secondary with
  | none => rfl
  | some ref =>
    dsimp only
    split <;> rfl

lemma changes_close (r : Registry) (k : SessionId) (reason : CloseReason) :
    Changes k r (r.close k reason).2 := by
  unfold close
  cases hk : r.session? k with
  | none => exact (Rests.of_eq rfl).changes k
  | some s =>
    dsimp only
    split_ifs with hc
    · exact (Rests.of_eq rfl).changes k
    · -- all that closing does after the session was shut leaves the sessions alone
      have hshut : Changes k r (r.modifySession k fun s =>
          { s.recordDropped s.queue.length with
            state := .closed, queue := s.queue.clear, secondary := none }) :=
        changes_modifySession (fun _ => rfl) (fun _ => rfl)
      exact hshut.trans ((Rests.of_eq (sessions_dropSecondary _ s)).changes k)

lemma changes_offer (r : Registry) (s : Session) (p : Packet) :
    Changes s.id r (r.offer s p).2 := by
  unfold offer
  split <;> exact changes_modifySession (fun _ => rfl) (fun _ => rfl)

lemma changes_enqueue (hr : r.Keyed) (k : SessionId) (p : Packet) :
    Changes k r (r.enqueue k p).2 := by
  unfold enqueue
  cases hs : r.session? k with
  | none => exact (Rests.of_eq rfl).changes k
  | some s =>
    have hkey : s.id = k := hr k s.core (core_eq_some_iff.2 ⟨s, hs, rfl⟩)
    dsimp only
    split_ifs
    · exact (Rests.of_eq rfl).changes k
    · exact changes_modifySession (fun _ => rfl) (fun _ => rfl)
    · exact hkey ▸ changes_offer r s p

/-- If the packet is neither queued nor refused by a full queue, nothing changes that concerns
tickets. -/
lemma rests_enqueue (hr : r.Keyed) (hqueued : (r.enqueue k p).1 ≠ .ok .queued)
    (hoverflow : (r.enqueue k p).1 ≠ .ok .droppedOldest)
    (hfull : ∀ refused, (r.enqueue k p).1 ≠ .error (.queueFull refused)) :
    Rests r (r.enqueue k p).2 := by
  unfold enqueue at hqueued hoverflow hfull ⊢
  cases hs : r.session? k with
  | none => exact Rests.of_eq rfl
  | some s =>
    have hkey : s.id = k := hr k s.core (core_eq_some_iff.2 ⟨s, hs, rfl⟩)
    rw [hs] at hqueued hoverflow hfull
    dsimp only at hqueued hoverflow hfull ⊢
    split_ifs at hqueued hoverflow hfull ⊢
    · exact Rests.of_eq rfl
    · exact rests_modifySession fun s _ => ⟨rfl, rfl, rfl, rfl⟩
    · unfold offer at hqueued hoverflow hfull ⊢
      rcases hpush : s.queue.push p p.guarantee.overflowPolicy with ⟨admission, queue⟩
      rw [hpush] at hqueued hoverflow hfull
      cases admission with
      | queued => exact absurd rfl hqueued
      | droppedOldest => exact absurd rfl hoverflow
      | rejected => exact absurd rfl (hfull s.id)
      | droppedIncoming =>
        refine rests_modifySession fun t ht => ⟨rfl, rfl, rfl, ?_⟩
        rcases PacketQueue.push_cases hpush with
          ⟨heq, -⟩ | ⟨heq, -⟩ | ⟨-, -, hqueue⟩ | ⟨heq, -⟩
        · cases heq
        · cases heq
        · rw [hkey, hs] at ht
          exact hqueue.trans (congrArg Session.queue (Option.some.inj ht))
        · cases heq

/-- The session that is opened has no ticket and nothing to write; the others are as they were. -/
lemma session?_create {id : SessionId} {s : Session} {ref : ChannelRef}
    (h : (r.create ref).2.session? id = some s) :
    r.session? id = some s ∨ (s.id = id ∧ s.ticket = false ∧ s.queue.packets = []) := by
  unfold create session? at h
  rw [Index.find?_insert] at h
  split_ifs at h with hid
  · obtain rfl := Option.some.inj h
    exact .inr ⟨hid.symm, rfl, rfl⟩
  · exact .inl h

lemma rests_activate (r : Registry) (k : SessionId) : Rests r (r.activate k).2 := by
  unfold activate
  cases hk : r.session? k with
  | none => exact Rests.of_eq rfl
  | some s =>
    dsimp only
    split_ifs with hfresh
    · refine rests_modifySession fun t ht => ⟨rfl, rfl, ?_, rfl⟩
      obtain rfl := Option.some.inj (hk.symm.trans ht)
      simp [Session.isClosed, hfresh]
    · exact Rests.of_eq rfl

lemma rests_bindPlayer (r : Registry) (k : SessionId) (player : PlayerId) :
    Rests r (r.bindPlayer k player).2 := by
  unfold bindPlayer
  cases r.session? k with
  | none => exact Rests.of_eq rfl
  | some s =>
    dsimp only
    split_ifs
    · exact Rests.of_eq rfl
    · have hplayer : Rests r (r.modifySession k fun s => { s with player := some player }) :=
        rests_modifySession fun _ _ => ⟨rfl, rfl, rfl, rfl⟩
      exact hplayer.trans (Rests.of_eq rfl)

lemma sessions_replaceSecondary (r : Registry) (previous : Option ChannelRef) (name : ChannelId) :
    (r.replaceSecondary previous name).sessions = r.sessions := by
  unfold replaceSecondary
  repeat' split
  all_goals rfl

lemma rests_tryAttach (r : Registry) (resolve : Resolver) (ref : ChannelRef) (token : Bytes) :
    Rests r (r.tryAttach resolve ref token).2 := by
  unfold tryAttach
  split
  · exact Rests.of_eq rfl
  · split
    · rename_i s name _ _
      split_ifs
      · exact Rests.of_eq rfl
      · exact Rests.of_eq rfl
      · have hsecondary : Rests r (r.modifySession s.id fun s => { s with secondary := some ref }) :=
          rests_modifySession fun _ _ => ⟨rfl, rfl, rfl, rfl⟩
        exact hsecondary.trans (Rests.of_eq (sessions_replaceSecondary _ s.secondary name))
    · exact Rests.of_eq rfl

lemma rests_attach (r : Registry) (resolve : Resolver) (ref : ChannelRef) (token : Bytes) :
    Rests r (r.attach resolve ref token).2 := by
  have hattach := rests_tryAttach r resolve ref token
  unfold attach
  split
  · rename_i h
    rwa [h] at hattach
  · rename_i h
    rw [h] at hattach
    exact hattach.trans (Rests.of_eq rfl)

end Registry

namespace Engine

open Registry (Changes Rests)

variable {e e' e₁ e₂ e₃ : Engine} {id k : SessionId} {setup : Setup} {rest : List Packet}

/-! ## Restless sessions -/

/-- Somebody will come for the session: it waits in its shard or for a channel. -/
def Scheduled (e : Engine) (id : SessionId) : Prop :=
  id ∈ e.tickets.shard (e.tickets.shardOf id) ∨ ∃ w ∈ e.waiters, w.session = id

/-- The session is open and packets wait for it, but it has no ticket. -/
def Restless (e : Engine) (id : SessionId) : Prop :=
  ∃ s, e.registry.session? id = some s ∧ s.isClosed = false ∧ s.queue.packets ≠ [] ∧
    s.ticket = false

/-- Every session waits in its own shard only, and one that has a ticket will be come for. -/
structure Sound (e : Engine) : Prop where
  keyed : e.registry.Keyed
  count_pos : 0 < e.tickets.count
  shardOf_eq : ∀ n, ∀ id ∈ e.tickets.shard n, e.tickets.shardOf id = n
  scheduled : ∀ id s, e.registry.session? id = some s → s.ticket = true → e.Scheduled id

/-- What was done makes no session restless except perhaps one. -/
structure Serves (k : SessionId) (e e' : Engine) : Prop where
  count_eq : e'.tickets.count = e.tickets.count
  sound : e.Sound → e'.Sound
  restless : ∀ id, id ≠ k → e'.Restless id → e.Restless id

/-- What was done makes no session restless, and the given one is not restless afterwards. -/
structure Calms (k : SessionId) (e e' : Engine) : Prop where
  serves : Serves k e e'
  calm : ¬ e'.Restless k

/-- What was done makes no session restless. -/
structure Settles (e e' : Engine) : Prop where
  count_eq : e'.tickets.count = e.tickets.count
  sound : e.Sound → e'.Sound
  restless : ∀ id, e'.Restless id → e.Restless id

lemma Serves.trans (h₁ : Serves k e₁ e₂) (h₂ : Serves k e₂ e₃) : Serves k e₁ e₃ where
  count_eq := h₂.count_eq.trans h₁.count_eq
  sound := h₂.sound ∘ h₁.sound
  restless id hid := h₁.restless id hid ∘ h₂.restless id hid

lemma Settles.serves (h : Settles e e') (k : SessionId) : Serves k e e' :=
  ⟨h.count_eq, h.sound, fun id _ => h.restless id⟩

lemma Serves.calms (h₁ : Serves k e₁ e₂) (h₂ : Calms k e₂ e₃) : Calms k e₁ e₃ :=
  ⟨h₁.trans h₂.serves, h₂.calm⟩

lemma Calms.settles (h : Calms k e e') : Settles e e' := by
  refine ⟨h.serves.count_eq, h.serves.sound, fun id hid => ?_⟩
  by_cases heq : id = k
  · exact absurd (heq ▸ hid) h.calm
  · exact h.serves.restless id heq hid

lemma Settles.refl (e : Engine) : Settles e e := ⟨rfl, fun h => h, fun _ h => h⟩

/-- A restless session is open, and packets wait for it. -/
lemma Restless.core (h : e.Restless id) :
    ∃ s, e.registry.core id = some s ∧ s.isClosed = false ∧ s.queue.packets ≠ [] := by
  obtain ⟨s, hs, hopen, hq, -⟩ := h
  exact ⟨s.core, Registry.core_eq_some_iff.2 ⟨s, hs, rfl⟩, hopen, hq⟩

lemma Restless.of_same {s s' : Session} (h : e'.Restless id) (hs : e.registry.session? id = some s)
    (hs' : e'.registry.session? id = some s') (hsame : s.Same s') : e.Restless id := by
  obtain ⟨t, ht, hopen, hq, hticket⟩ := h
  obtain rfl := Option.some.inj (hs'.symm.trans ht)
  exact ⟨s, hs, hsame.isClosed_eq ▸ hopen, hsame.queue_eq ▸ hq, hsame.ticket_eq ▸ hticket⟩

/-- A change of one session that keeps its name and its ticket. -/
lemma serves_of_changes (h : Changes k e.registry e'.registry)
    (htickets : e'.tickets = e.tickets) (hwaiters : e'.waiters = e.waiters) : Serves k e e' where
  count_eq := by rw [htickets]
  sound he := by
    refine ⟨fun id s hs => ?_, ?_, ?_, fun id s' hs' hticket => ?_⟩
    · obtain ⟨t', ht', rfl⟩ := Registry.core_eq_some_iff.1 hs
      obtain ⟨t, ht, hid, -⟩ := h id t' ht'
      exact hid.trans (he.keyed id t.core (Registry.core_eq_some_iff.2 ⟨t, ht, rfl⟩))
    · rw [htickets]
      exact he.count_pos
    · rw [htickets]
      exact he.shardOf_eq
    · obtain ⟨s, hs, -, heq, -⟩ := h id s' hs'
      unfold Scheduled
      rw [htickets, hwaiters]
      exact he.scheduled id s hs (heq ▸ hticket)
  restless id hne hid := by
    have hold := hid
    obtain ⟨s', hs', -⟩ := hid
    obtain ⟨s, hs, -, -, hsame⟩ := h id s' hs'
    exact hold.of_same hs hs' (hsame hne)

/-- A change that keeps everything about the sessions that tickets depend on. -/
lemma settles_of_rests (h : Rests e.registry e'.registry) (htickets : e'.tickets = e.tickets)
    (hwaiters : e'.waiters = e.waiters) : Settles e e' where
  count_eq := by rw [htickets]
  sound := (serves_of_changes (h.changes ⟨0⟩) htickets hwaiters).sound
  restless id hid := by
    have hold := hid
    obtain ⟨s', hs', -⟩ := hid
    obtain ⟨s, hs, hsame⟩ := h id s' hs'
    exact hold.of_same hs hs' hsame

lemma settles_of_eq (hsessions : e'.registry.sessions = e.registry.sessions)
    (htickets : e'.tickets = e.tickets) (hwaiters : e'.waiters = e.waiters) : Settles e e' :=
  settles_of_rests (Rests.of_eq hsessions) htickets hwaiters

/-! ## Giving and taking tickets -/

/-- Giving a session its ticket, or taking it back.  Somebody must come for it if it has one. -/
lemma serves_of_ticket {ticket : Bool}
    (hregistry : e'.registry = e.registry.modifySession k fun s => { s with ticket })
    (hcount : e'.tickets.count = e.tickets.count)
    (hshard : e.Sound → ∀ n, ∀ id ∈ e'.tickets.shard n, e.tickets.shardOf id = n)
    (hothers : e.Sound → ∀ id, id ≠ k → e.Scheduled id → e'.Scheduled id)
    (hself : e.Sound → ticket = true → e'.Scheduled k) : Serves k e e' where
  count_eq := hcount
  sound he := by
    have hcore : ∀ id, e'.registry.core id = e.registry.core id := by
      rw [hregistry]
      exact (Registry.alike_modifySession (f := fun s => { s with ticket }) (fun _ => rfl)
        e.registry k).core
    refine ⟨fun id s hs => he.keyed id s (hcore id ▸ hs), hcount ▸ he.count_pos,
      fun n id hid => ?_, fun id s' hs' hticket => ?_⟩
    · exact (Tickets.shardOf_of_count_eq hcount id).trans (hshard he n id hid)
    · rw [hregistry, Registry.session?_modifySession] at hs'
      split_ifs at hs' with hid
      · obtain ⟨s, -, rfl⟩ := Option.map_eq_some_iff.1 hs'
        exact hid ▸ hself he hticket
      · exact hothers he id hid (he.scheduled id s' hs' hticket)
  restless id hne hid := by
    obtain ⟨s, hs, hrest⟩ := hid
    rw [hregistry, Registry.session?_modifySession, if_neg hne] at hs
    exact ⟨s, hs, hrest⟩

lemma serves_schedule (e : Engine) (k : SessionId) : Serves k e (e.schedule k).2 := by
  unfold schedule
  cases e.registry.session? k with
  | none => exact (Settles.refl e).serves k
  | some s =>
    dsimp only
    split_ifs
    · exact (Settles.refl e).serves k
    · refine serves_of_ticket rfl (Tickets.count_put e.tickets k) (fun he n id hid => ?_)
        (fun he id _ hsched => ?_) (fun he _ => .inl ?_)
      · rw [Tickets.shard_put he.count_pos] at hid
        split_ifs at hid with hn
        · rcases List.mem_append.1 hid with hmem | hmem
          · exact he.shardOf_eq n id hmem
          · rw [List.mem_singleton.1 hmem, hn]
        · exact he.shardOf_eq n id hid
      · refine hsched.imp_left fun hmem => ?_
        show id ∈ (e.tickets.put k).shard ((e.tickets.put k).shardOf id)
        rw [Tickets.shardOf_of_count_eq (Tickets.count_put e.tickets k),
          Tickets.shard_put he.count_pos]
        split_ifs
        · exact List.mem_append_left _ hmem
        · exact hmem
      · show k ∈ (e.tickets.put k).shard ((e.tickets.put k).shardOf k)
        rw [Tickets.shardOf_of_count_eq (Tickets.count_put e.tickets k),
          Tickets.shard_put he.count_pos, if_pos rfl]
        exact List.mem_append_right _ List.mem_cons_self

/-- Once a session has been given a ticket, or was not because it has one or is over, it is not
restless. -/
lemma not_restless_schedule (e : Engine) (k : SessionId) : ¬ (e.schedule k).2.Restless k := by
  rintro ⟨s', hs', hopen, -, hticket⟩
  unfold schedule at hs'
  cases hs : e.registry.session? k with
  | none =>
    rw [hs] at hs'
    exact absurd (hs.symm.trans hs') nofun
  | some s =>
    rw [hs] at hs'
    dsimp only at hs'
    split_ifs at hs' with hno
    · obtain rfl := Option.some.inj (hs.symm.trans hs')
      simp [hopen, hticket] at hno
    · have hmod := Registry.session?_modifySession e.registry k k fun s => { s with ticket := true }
      rw [if_pos rfl, hs] at hmod
      obtain rfl := Option.some.inj (hs'.symm.trans hmod)
      cases hticket

lemma calms_schedule (e : Engine) (k : SessionId) : Calms k e (e.schedule k).2 :=
  ⟨serves_schedule e k, not_restless_schedule e k⟩

lemma serves_park (setup : Setup) (e : Engine) (k : SessionId) (ref : ChannelRef) :
    Serves k e (e.park setup k ref) := by
  unfold park
  cases setup.blocked with
  | retry => exact serves_schedule e k
  | wait =>
    dsimp only
    split_ifs
    · refine serves_of_ticket rfl rfl (fun he => he.shardOf_eq) (fun _ id _ hsched => ?_)
        (fun _ _ => .inr ⟨⟨k, ref⟩, List.mem_append_right _ List.mem_cons_self, rfl⟩)
      exact hsched.imp_right fun ⟨w, hw, hid⟩ => ⟨w, List.mem_append_left _ hw, hid⟩
    · exact (Settles.refl e).serves k

lemma not_restless_park (setup : Setup) (e : Engine) (k : SessionId) (ref : ChannelRef) :
    ¬ (e.park setup k ref).Restless k := by
  unfold park
  cases setup.blocked with
  | retry => exact not_restless_schedule e k
  | wait =>
    dsimp only
    rintro ⟨s', hs', -, -, hticket⟩
    split_ifs at hs' with hnone
    · have hmod := Registry.session?_modifySession e.registry k k fun s => { s with ticket := true }
      rw [if_pos rfl] at hmod
      obtain ⟨s, -, rfl⟩ := Option.map_eq_some_iff.1 (hmod.symm.trans hs')
      cases hticket
    · simp [hs', hticket] at hnone

lemma calms_park (setup : Setup) (e : Engine) (k : SessionId) (ref : ChannelRef) :
    Calms k e (e.park setup k ref) :=
  ⟨serves_park setup e k ref, not_restless_park setup e k ref⟩

/-- Whoever takes a ticket makes only the session restless that it was for. -/
lemma serves_tryPop {n : ℕ} (h : e.tryPop n = some (k, e')) : Serves k e e' := by
  unfold tryPop at h
  split at h
  · exact absurd h nofun
  · rename_i first tickets htake
    obtain ⟨rfl, rfl⟩ := Prod.mk.inj (Option.some.inj h)
    obtain ⟨hshard, hothers, hcount⟩ := Tickets.take?_eq_some htake
    have hsub : ∀ m, ∀ id ∈ tickets.shard m, id ∈ e.tickets.shard m := by
      intro m id hid
      by_cases hm : m = n
      · subst hm
        rw [hshard]
        exact List.mem_cons_of_mem first hid
      · rwa [← hothers m hm]
    refine serves_of_ticket rfl hcount (fun he m id hid => he.shardOf_eq m id (hsub m id hid))
      (fun _ id hne hsched => ?_) (fun _ => nofun)
    refine hsched.imp_left fun hmem => ?_
    show id ∈ tickets.shard (tickets.shardOf id)
    rw [Tickets.shardOf_of_count_eq hcount]
    by_cases hm : e.tickets.shardOf id = n
    · rw [hm, hshard] at hmem
      rw [hm]
      exact (List.mem_cons.1 hmem).resolve_left hne
    · rwa [hothers _ hm]

/-- A ticket is taken from the shard of the session that it is for. -/
lemma Sound.shardOf_of_tryPop {n : ℕ} (he : e.Sound) (h : e.tryPop n = some (k, e')) :
    e.tickets.shardOf k = n := by
  unfold tryPop at h
  split at h
  · exact absurd h nofun
  · rename_i first tickets htake
    obtain ⟨rfl, -⟩ := Prod.mk.inj (Option.some.inj h)
    refine he.shardOf_eq n first ?_
    rw [(Tickets.take?_eq_some htake).1]
    exact List.mem_cons_self

/-- The end of a wait makes no session restless. -/
lemma settles_wake {i : ℕ} {w : Waiter} (hw : e.waiters[i]? = some w) :
    Settles e ({ e with waiters := e.waiters.eraseIdx i }.wake w) := by
  have hclear : Serves w.session e
      ({ e with waiters := e.waiters.eraseIdx i }.clearTicket w.session) := by
    refine serves_of_ticket rfl rfl (fun he => he.shardOf_eq) (fun _ id hne hsched => ?_)
      (fun _ => nofun)
    refine hsched.imp_right fun ⟨w', hw', hid⟩ => ⟨w', ?_, hid⟩
    obtain ⟨j, hj⟩ := List.mem_iff_getElem?.1 hw'
    refine List.mem_eraseIdx_iff_getElem?.2 ⟨j, fun heq => hne ?_, hj⟩
    -- only the wait of `w` has come to its end
    subst heq
    obtain rfl := Option.some.inj (hw.symm.trans hj)
    exact hid.symm
  exact (hclear.calms (calms_schedule _ w.session)).settles

/-! ## Closing, opening and offering -/

lemma not_restless_of_over (h : e.registry.Over k) : ¬ e.Restless k := by
  intro hk
  obtain ⟨s, hs, hopen, -⟩ := hk.core
  exact absurd ((h s hs).symm.trans hopen) nofun

lemma calms_close (e : Engine) (k : SessionId) (reason : CloseReason) :
    Calms k e (e.close k reason) where
  serves := serves_of_changes (Registry.changes_close e.registry k reason) rfl rfl
  calm := not_restless_of_over (Registry.over_close e.registry k reason)

/-- A session that has just been opened has nothing to write. -/
lemma settles_create (e : Engine) (ref : ChannelRef) :
    Settles e { e with registry := (e.registry.create ref).2 } where
  count_eq := rfl
  sound he := by
    refine ⟨fun id s hs => ?_, he.count_pos, he.shardOf_eq, fun id s hs hticket => ?_⟩
    · obtain ⟨t, ht, rfl⟩ := Registry.core_eq_some_iff.1 hs
      rcases Registry.session?_create ht with hold | ⟨hid, -⟩
      · exact he.keyed id t.core (Registry.core_eq_some_iff.2 ⟨t, hold, rfl⟩)
      · exact hid
    · rcases Registry.session?_create hs with hold | ⟨-, hnone, -⟩
      · exact he.scheduled id s hold hticket
      · exact absurd (hnone.symm.trans hticket) nofun
  restless id hid := by
    obtain ⟨s, hs, hopen, hq, hticket⟩ := hid
    rcases Registry.session?_create hs with hold | ⟨-, -, hempty⟩
    · exact ⟨s, hold, hopen, hq, hticket⟩
    · exact absurd hempty hq

/-- Offering a packet makes no session restless: the one that takes it gets a ticket. -/
lemma settles_offer (hr : e.registry.Keyed) (p : Packet) (k : SessionId) :
    Settles e (e.offer p k).2 := by
  have hchanges := Registry.changes_enqueue hr k p
  have hrests := Registry.rests_enqueue (k := k) (p := p) hr
  unfold offer
  generalize e.registry.enqueue k p = out at hchanges hrests ⊢
  obtain ⟨answer, registry⟩ := out
  have hqueued : Serves k e { e with registry } := serves_of_changes hchanges rfl rfl
  rcases answer with (_ | refused | _) | (_ | _ | _ | _)
  case error.queueFull =>
    exact (hqueued.calms (calms_close _ k .queueOverflow)).settles
  case ok.queued | ok.droppedOldest =>
    exact (hqueued.calms (calms_schedule _ k)).settles
  all_goals exact settles_of_rests (hrests nofun nofun nofun) rfl rfl

/-! ## Writing -/

lemma serves_scheduleRest (e : Engine) (k : SessionId) (rest : List Packet) :
    Serves k e (e.scheduleRest k rest) := by
  unfold scheduleRest
  split_ifs
  · exact (Settles.refl e).serves k
  · exact serves_schedule e k

lemma not_restless_scheduleRest (h : ∀ s, e.registry.core k = some s → s.queue.packets = rest) :
    ¬ (e.scheduleRest k rest).Restless k := by
  unfold scheduleRest
  split_ifs with hrest
  · intro hk
    obtain ⟨s, hs, -, hq⟩ := hk.core
    exact hq ((h s hs).trans (List.isEmpty_iff.1 hrest))
  · exact not_restless_schedule e k

/-- The first packet was taken away and counted. -/
lemma serves_popHead {f : Session → Session} (hcore : ∀ s : Session, (f s).core = s.core)
    (hticket : ∀ s : Session, (f s).ticket = s.ticket)
    (hregistry : e'.registry = ((e.popHead k).modifySession k f).registry)
    (htickets : e'.tickets = e.tickets) (hwaiters : e'.waiters = e.waiters) : Serves k e e' := by
  have hpop : Changes k e.registry (e.popHead k).registry :=
    Registry.changes_modifySession (fun _ => rfl) (fun _ => rfl)
  have hcount : Rests (e.popHead k).registry ((e.popHead k).modifySession k f).registry :=
    Registry.rests_modifySession fun s _ => Session.Same.of_core (hcore s) (hticket s)
  exact serves_of_changes (hregistry ▸ hpop.trans (hcount.changes k)) htickets hwaiters

/-- The first packet was taken away and counted, and the session gets a ticket if others wait. -/
lemma calms_scheduleRest {s : Session} {head : Packet} {f : Session → Session}
    (hs : e.registry.core k = some s) (hq : s.queue.packets = head :: rest)
    (hcore : ∀ s : Session, (f s).core = s.core) (hticket : ∀ s : Session, (f s).ticket = s.ticket)
    (hregistry : e'.registry = ((e.popHead k).modifySession k f).registry)
    (htickets : e'.tickets = e.tickets) (hwaiters : e'.waiters = e.waiters) :
    Calms k e (e'.scheduleRest k rest) := by
  have hpop := serves_popHead hcore hticket hregistry htickets hwaiters
  refine ⟨hpop.trans (serves_scheduleRest e' k rest),
    not_restless_scheduleRest fun s' hs' => ?_⟩
  have halike := Registry.alike_modifySession hcore (e.popHead k).registry k
  rw [hregistry] at hs'
  have hpopped := (halike.core k).symm.trans hs'
  rw [core_popHead, if_pos rfl, hs] at hpopped
  obtain rfl := Option.some.inj hpopped
  exact PacketQueue.packets_pop hq

lemma calms_dropHead {s : Session} {head : Packet} (hs : e.registry.core k = some s)
    (hq : s.queue.packets = head :: rest) : Calms k e (e.dropHead k rest) :=
  calms_scheduleRest hs hq (f := (·.recordDropped 1)) (fun _ => rfl) (fun _ => rfl) rfl rfl rfl

lemma calms_finishHead {s : Session} {head : Packet} (hs : e.registry.core k = some s)
    (hq : s.queue.packets = head :: rest) (n : ℕ) :
    Calms k e (e.finishHead k head rest n).2 := by
  unfold finishHead
  dsimp only
  split_ifs
  · refine Serves.calms ?_ (calms_close _ k .lastPacket)
    exact serves_popHead
      (f := fun s => (s.recordWrite (e.popHead k).registry.clock n).recordWrittenPacket)
      (fun _ => rfl) (fun _ => rfl) rfl rfl rfl
  · exact calms_scheduleRest hs hq
      (f := fun s => (s.recordWrite (e.popHead k).registry.clock n).recordWrittenPacket)
      (fun _ => rfl) (fun _ => rfl) rfl rfl rfl

lemma calms_splitHead (e : Engine) (k : SessionId) (head : Packet) (n : ℕ) :
    Calms k e (e.splitHead k head n).2 := by
  unfold splitHead
  refine Serves.calms ?_ (calms_schedule _ k)
  exact serves_of_changes (Registry.changes_modifySession (k := k)
    (f := fun s => { s.recordWrite e.registry.clock n with
      queue := s.queue.setFragment (some (head.pending.drop n)) })
    (fun _ => rfl) (fun _ => rfl)) rfl rfl

lemma calms_failHead (e : Engine) (k : SessionId) (f : Fault) : Calms k e (e.failHead k f) := by
  unfold failHead
  refine Serves.calms (Settles.serves ?_ k) (calms_close _ k (.writeError f.message))
  exact settles_of_eq rfl rfl rfl

lemma calms_writeHead (setup : Setup) {s : Session} {head : Packet}
    (hs : e.registry.core k = some s) (hq : s.queue.packets = head :: rest) (ref : ChannelRef)
    (c : Channel) : Calms k e (e.writeHead setup k head rest ref c).2 := by
  obtain ⟨result, c', hw⟩ : ∃ result c', c.tryWrite head.pending = (result, c') := ⟨_, _, rfl⟩
  have hwritten : Settles e (e.wrote ref c') := settles_of_eq rfl rfl rfl
  have hwrote := hwritten.serves k
  cases result with
  | error f =>
    rw [writeHead_of_error hw]
    split_ifs
    · exact hwrote.calms (calms_park setup (e.wrote ref c') k ref)
    · exact hwrote.calms (calms_failHead (e.wrote ref c') k f)
  | ok n =>
    rw [writeHead_of_ok hw]
    split_ifs
    · exact hwrote.calms (calms_finishHead (e := e.wrote ref c') hs hq n)
    · exact hwrote.calms (calms_park setup (e.wrote ref c') k ref)
    · exact hwrote.calms (calms_splitHead (e.wrote ref c') k head n)

/-- However an attempt to write for a session ends, it does not leave the session restless. -/
lemma calms_writeOnce (setup : Setup) (e : Engine) (k : SessionId) :
    Calms k e (e.writeOnce setup k).2 := by
  have hkept : Serves k e e := (Settles.refl e).serves k
  cases hs : e.registry.core k with
  | none =>
    have hk : e.registry.session? k = none := Option.map_eq_none_iff.1 hs
    simp only [writeOnce, hk]
    refine ⟨hkept, fun hrestless => ?_⟩
    obtain ⟨s, hsome, -⟩ := hrestless.core
    cases hs.symm.trans hsome
  | some s =>
    cases hc : s.isClosed with
    | true =>
      obtain ⟨t, hk, rfl⟩ := Registry.core_eq_some_iff.1 hs
      have hclosed : t.isClosed = true := hc
      simp only [writeOnce, hk, hclosed, if_true]
      refine ⟨hkept, fun hrestless => ?_⟩
      obtain ⟨t', ht', hopen, -⟩ := hrestless
      obtain rfl := Option.some.inj (hk.symm.trans ht')
      cases hclosed.symm.trans hopen
    | false =>
      rcases writeOnce_cases setup hs hc with
        ⟨hempty, hout⟩ | ⟨head, rest, hq, ⟨-, hout⟩ | ⟨ref, c, -, -, hout⟩⟩
      · rw [hout]
        refine ⟨hkept, fun hrestless => ?_⟩
        obtain ⟨t, ht, -, hq⟩ := hrestless.core
        obtain rfl := Option.some.inj (hs.symm.trans ht)
        exact hq hempty
      · rw [hout]
        exact calms_dropHead hs hq
      · rw [hout]
        exact calms_writeHead setup hs hq ref c

end Engine

end SessionServer
