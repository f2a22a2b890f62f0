/-
# What decides where packets go

Most of what is done to a session touches its counters, its times or its ticket.  Where its
packets go, and which ones they are, is decided by the rest, its *core*.  This file says what the
operations of the registry do to the cores of all sessions and to the channels, and from now on
nothing else needs to be known about them.

Main results: what closing does (`core_close`, `channel?_close`), what offering a packet does
(`enqueue_cases`), and that either concerns one session only (`touches_close`, `touches_enqueue`).
-/
import Mathlib.Data.List.Basic
import SessionServer.Registry.Basic

namespace SessionServer

/-- The session without its counters, its times of activity and its ticket. -/
def Session.core (s : Session) : Session := { s with ticket := false, stats := {}, lastActive := 0 }

namespace Session

@[simp] lemma isClosed_core (s : Session) : s.core.isClosed = s.isClosed := rfl

/-- The session over, without packets and without its secondary channel. -/
def shut (s : Session) : Session :=
  { s with state := .closed, queue := s.queue.clear, secondary := none }

/-- The session writes to a channel. -/
def Binds (s : Session) (ref : ChannelRef) : Prop := s.primary = ref ∨ s.secondary = some ref

/-- The second session is the first one at a later time, if nobody gave it a channel. -/
structure Keeps (s s' : Session) : Prop where
  id_eq : s'.id = s.id
  primary_eq : s'.primary = s.primary
  secondary_eq : s'.secondary = s.secondary ∨ s'.secondary = none
  closed : s.isClosed = true → s'.isClosed = true

lemma Keeps.refl (s : Session) : s.Keeps s := ⟨rfl, rfl, .inl rfl, fun h => h⟩

lemma Keeps.trans {s₁ s₂ s₃ : Session} (h₁ : s₁.Keeps s₂) (h₂ : s₂.Keeps s₃) : s₁.Keeps s₃ where
  id_eq := h₂.id_eq.trans h₁.id_eq
  primary_eq := h₂.primary_eq.trans h₁.primary_eq
  secondary_eq := by
    rcases h₂.secondary_eq with h | h
    · rw [h]
      exact h₁.secondary_eq
    · exact .inr h
  closed := h₂.closed ∘ h₁.closed

lemma Keeps.binds {s s' : Session} {ref : ChannelRef} (h : s.Keeps s') (hb : s'.Binds ref) :
    s.Binds ref := by
  rcases hb with hb | hb
  · exact .inl (h.primary_eq ▸ hb)
  · rcases h.secondary_eq with hs | hs
    · exact .inr (hs ▸ hb)
    · rw [hs] at hb
      cases hb

lemma keeps_shut (s : Session) : s.Keeps s.shut := ⟨rfl, rfl, .inr rfl, fun _ => rfl⟩

lemma keeps_withQueue (s : Session) (q : PacketQueue) : s.Keeps { s with queue := q } :=
  ⟨rfl, rfl, .inl rfl, fun h => h⟩

end Session

namespace Registry

variable {r r' : Registry} {id k : SessionId} {s : Session} {p : Packet} {ref : ChannelRef}

/-- The core of a session. -/
def core (r : Registry) (id : SessionId) : Option Session := (r.session? id).map Session.core

lemma core_eq_some_iff : r.core id = some s ↔ ∃ t, r.session? id = some t ∧ t.core = s :=
  Option.map_eq_some_iff

/-! ## Single changes -/

lemma session?_modifySession (r : Registry) (k id : SessionId) (f : Session → Session) :
    (r.modifySession k f).session? id
      = if id = k then (r.session? id).map f else r.session? id :=
  Index.find?_modify r.sessions k id f

/-- A change that is a change of cores. -/
lemma core_modifySession {f g : Session → Session} (hfg : ∀ s, (f s).core = g s.core)
    (r : Registry) (k id : SessionId) :
    (r.modifySession k f).core id = if id = k then (r.core id).map g else r.core id := by
  unfold core
  rw [session?_modifySession]
  split_ifs
  · rw [Option.map_map, Option.map_map]
    exact congrArg (Option.map · _) (funext hfg)
  · rfl

/-- A change of the core of a session that there is. -/
lemma core_eq_of_map {g : Session → Session} (hs : r.core k = some s)
    (h : r'.core id = if id = k then (r.core id).map g else r.core id) :
    r'.core id = if id = k then some (g s) else r.core id := by
  rw [h]
  split_ifs with hid
  · rw [hid, hs, Option.map_some]
  · rfl

/-- The registries differ in counters, times and tickets at most. -/
structure Alike (r r' : Registry) : Prop where
  core : ∀ id, r'.core id = r.core id
  channel : ∀ ref, r'.channel? ref = r.channel? ref

lemma Alike.refl (r : Registry) : Alike r r := ⟨fun _ => rfl, fun _ => rfl⟩

lemma Alike.trans {r₁ r₂ r₃ : Registry} (h₁ : Alike r₁ r₂) (h₂ : Alike r₂ r₃) : Alike r₁ r₃ :=
  ⟨fun id => (h₂.core id).trans (h₁.core id), fun ref => (h₂.channel ref).trans (h₁.channel ref)⟩

/-- A change that cores do not show. -/
lemma alike_modifySession {f : Session → Session} (hf : ∀ s, (f s).core = s.core)
    (r : Registry) (k : SessionId) : Alike r (r.modifySession k f) where
  core id := by
    rw [core_modifySession (g := fun s => s) hf]
    simp
  channel _ := rfl

@[simp] lemma core_modifyChannel (r : Registry) (ref : ChannelRef) (f : Channel → Channel)
    (id : SessionId) : (r.modifyChannel ref f).core id = r.core id := rfl

lemma channel?_modifyChannel (r : Registry) (ref ref' : ChannelRef) (f : Channel → Channel) :
    (r.modifyChannel ref f).channel? ref'
      = if ref' = ref then (r.channel? ref').map f else r.channel? ref' := by
  obtain ⟨i⟩ := ref
  obtain ⟨j⟩ := ref'
  simp only [modifyChannel, channel?, Array.getElem?_modify, ChannelRef.mk.injEq, eq_comm]

/-! ## Closing -/

@[simp] lemma core_closeChannel (r : Registry) (ref : ChannelRef) (id : SessionId) :
    (r.closeChannel ref).core id = r.core id := rfl

@[simp] lemma core_dropSecondary (r : Registry) (s : Session) (id : SessionId) :
    (r.dropSecondary s).core id = r.core id := by
  unfold dropSecondary
  cases s.secondary with
  | none => rfl
  | some ref =>
    dsimp only
    split <;> rfl

lemma channel?_closeChannel_of_ne {ref' : ChannelRef} (h : ref ≠ ref') :
    (r.closeChannel ref').channel? ref = r.channel? ref := by
  rw [closeChannel, channel?_modifyChannel, if_neg h]

lemma channel?_dropSecondary_of_ne (h : s.secondary ≠ some ref) :
    (r.dropSecondary s).channel? ref = r.channel? ref := by
  unfold dropSecondary
  cases hs : s.secondary with
  | none => rfl
  | some ref' =>
    have hne : ref ≠ ref' := fun heq => h (heq ▸ hs)
    dsimp only
    split <;> exact channel?_closeChannel_of_ne hne

/-- Closing shuts the session, unless it was closed before, and no other session. -/
lemma core_close (r : Registry) (k : SessionId) (reason : CloseReason) (id : SessionId) :
    (r.close k reason).2.core id
      = if id = k then (r.core id).map fun s => if s.isClosed then s else s.shut
        else r.core id := by
  unfold close
  cases hk : r.session? k with
  | none =>
    split_ifs with hid
    · simp [core, hid, hk]
    · rfl
  | some s =>
    dsimp only
    by_cases hc : s.isClosed
    · rw [if_pos hc]
      split_ifs with hid
      · simp [core, hid, hk, hc]
      · rfl
    · -- of all that closing does, only the change of the session shows in cores
      rw [if_neg hc]
      refine Eq.trans (core_dropSecondary _ s id) ?_
      rw [core_closeChannel, core_modifySession (g := Session.shut) fun _ => rfl]
      split_ifs with hid
      · simp [core, hid, hk, hc]
      · rfl

/-- Closing leaves the channels of other sessions alone. -/
lemma channel?_close (k : SessionId) (reason : CloseReason)
    (h : ∀ s, r.core k = some s → ¬ s.Binds ref) :
    (r.close k reason).2.channel? ref = r.channel? ref := by
  unfold close
  cases hk : r.session? k with
  | none => rfl
  | some s =>
    obtain ⟨hprimary, hsecondary⟩ := not_or.1 (h s.core (core_eq_some_iff.2 ⟨s, hk, rfl⟩))
    dsimp only
    split_ifs with hc
    · rfl
    · refine (channel?_dropSecondary_of_ne hsecondary).trans ?_
      exact channel?_closeChannel_of_ne (Ne.symm hprimary)

lemma notices_dropSecondary (r : Registry) (s : Session) :
    (r.dropSecondary s).notices = r.notices ∧ (r.dropSecondary s).clock = r.clock := by
  unfold dropSecondary
  cases s.secondary with
  | none => exact ⟨rfl, rfl⟩
  | some ref =>
    dsimp only
    split <;> exact ⟨rfl, rfl⟩

/-- Closing a session that is open is noticed. -/
lemma notices_close (hs : r.session? k = some s) (hopen : s.isClosed = false)
    (reason : CloseReason) :
    (r.close k reason).2.notices = r.notices ++ [(k, reason)] ∧
      (r.close k reason).2.clock = r.clock := by
  unfold close
  rw [hs]
  simp only [hopen, Bool.false_eq_true, if_false, notices_dropSecondary]
  exact ⟨rfl, rfl⟩

lemma close_of_closed (h : ∀ s, r.session? k = some s → s.isClosed = true) (reason : CloseReason) :
    (r.close k reason).2 = r := by
  unfold close
  cases hs : r.session? k with
  | none => rfl
  | some s => simp only [h s hs, if_true]

/-! ## Later registries -/

/-- The second registry is the first one at a later time, if nobody opened a session or gave one a
channel. -/
def Later (r r' : Registry) : Prop :=
  ∀ id s', r'.core id = some s' → ∃ s, r.core id = some s ∧ s.Keeps s'

lemma Later.refl (r : Registry) : Later r r := fun _ s hs => ⟨s, hs, Session.Keeps.refl s⟩

lemma Later.of_eq (h : ∀ id, r'.core id = r.core id) : Later r r' :=
  fun id s hs => ⟨s, (h id).symm.trans hs, Session.Keeps.refl s⟩

lemma Later.trans {r₁ r₂ r₃ : Registry} (h₁ : Later r₁ r₂) (h₂ : Later r₂ r₃) : Later r₁ r₃ := by
  intro id s₃ hs₃
  obtain ⟨s₂, hs₂, hkeeps₂⟩ := h₂ id s₃ hs₃
  obtain ⟨s₁, hs₁, hkeeps₁⟩ := h₁ id s₂ hs₂
  exact ⟨s₁, hs₁, hkeeps₁.trans hkeeps₂⟩

/-- The session is over. -/
def Over (r : Registry) (id : SessionId) : Prop := ∀ s, r.core id = some s → s.isClosed = true

lemma Over.of_later (h : r.Over id) (hr : Later r r') : r'.Over id := by
  intro s' hs'
  obtain ⟨s, hs, hkeeps⟩ := hr id s' hs'
  exact hkeeps.closed (h s hs)

lemma over_close (r : Registry) (k : SessionId) (reason : CloseReason) :
    (r.close k reason).2.Over k := by
  intro s hs
  rw [core_close, if_pos rfl] at hs
  obtain ⟨t, -, rfl⟩ := Option.map_eq_some_iff.1 hs
  split_ifs with hc
  · exact hc
  · rfl

/-- The table of sessions lists every session under its own name. -/
def Keyed (r : Registry) : Prop := ∀ id s, r.core id = some s → s.id = id

lemma Keyed.of_later (h : r.Keyed) (hr : Later r r') : r'.Keyed := by
  intro id s' hs'
  obtain ⟨s, hs, hkeeps⟩ := hr id s' hs'
  exact hkeeps.id_eq.trans (h id s hs)

/-- Only the given session, if any, writes to the channel. -/
def Owns (r : Registry) (id : SessionId) (ref : ChannelRef) : Prop :=
  ∀ k s, k ≠ id → r.core k = some s → ¬ s.Binds ref

lemma Owns.of_later (h : r.Owns id ref) (hr : Later r r') : r'.Owns id ref := by
  intro k s' hne hs' hb
  obtain ⟨s, hs, hkeeps⟩ := hr k s' hs'
  exact h k s hne hs (hkeeps.binds hb)

/-! ## What concerns one session only -/

/-- The second registry differs from the first one in a session and in channels of that session,
and the session got no new channel and was not opened again. -/
structure Touches (k : SessionId) (r r' : Registry) : Prop where
  core_of_ne : ∀ id, id ≠ k → r'.core id = r.core id
  channel?_of_not_binds : ∀ ref, (∀ s, r.core k = some s → ¬ s.Binds ref) →
    r'.channel? ref = r.channel? ref
  keeps : ∀ s', r'.core k = some s' → ∃ s, r.core k = some s ∧ s.Keeps s'

lemma Touches.refl (k : SessionId) (r : Registry) : Touches k r r :=
  ⟨fun _ _ => rfl, fun _ _ => rfl, fun s hs => ⟨s, hs, Session.Keeps.refl s⟩⟩

lemma Touches.trans {r₁ r₂ r₃ : Registry} (h₁ : Touches k r₁ r₂) (h₂ : Touches k r₂ r₃) :
    Touches k r₁ r₃ where
  core_of_ne id hid := (h₂.core_of_ne id hid).trans (h₁.core_of_ne id hid)
  channel?_of_not_binds ref href := by
    refine (h₂.channel?_of_not_binds ref fun s' hs' hb => ?_).trans
      (h₁.channel?_of_not_binds ref href)
    obtain ⟨s, hs, hkeeps⟩ := h₁.keeps s' hs'
    exact href s hs (hkeeps.binds hb)
  keeps s₃ hs₃ := by
    obtain ⟨s₂, hs₂, hkeeps₂⟩ := h₂.keeps s₃ hs₃
    obtain ⟨s₁, hs₁, hkeeps₁⟩ := h₁.keeps s₂ hs₂
    exact ⟨s₁, hs₁, hkeeps₁.trans hkeeps₂⟩

lemma Touches.later (h : Touches k r r') : Later r r' := by
  intro id s' hs'
  by_cases hid : id = k
  · subst hid
    exact h.keeps s' hs'
  · exact ⟨s', (h.core_of_ne id hid).symm.trans hs', Session.Keeps.refl s'⟩

/-- Changing counters, times or tickets touches no session at all. -/
lemma Alike.touches (h : Alike r r') (k : SessionId) : Touches k r r' :=
  ⟨fun id _ => h.core id, fun ref _ => h.channel ref,
    fun s hs => ⟨s, (h.core k).symm.trans hs, Session.Keeps.refl s⟩⟩

/-- Changing the core of a session in a way that keeps its channels touches that session. -/
lemma touches_of_map {g : Session → Session}
    (hcore : ∀ id, r'.core id = if id = k then (r.core id).map g else r.core id)
    (hchannel : ∀ ref, r'.channel? ref = r.channel? ref) (hkeeps : ∀ s : Session, s.Keeps (g s)) :
    Touches k r r' where
  core_of_ne id hid := by rw [hcore, if_neg hid]
  channel?_of_not_binds ref _ := hchannel ref
  keeps s' hs' := by
    rw [hcore, if_pos rfl] at hs'
    obtain ⟨s, hs, rfl⟩ := Option.map_eq_some_iff.1 hs'
    exact ⟨s, hs, hkeeps s⟩

lemma touches_modifyChannel (f : Channel → Channel) (hs : r.core k = some s)
    (hb : s.Binds ref) : Touches k r (r.modifyChannel ref f) where
  core_of_ne _ _ := rfl
  channel?_of_not_binds ref' href' := by
    have hne : ref' ≠ ref := fun heq => href' s hs (heq ▸ hb)
    rw [channel?_modifyChannel, if_neg hne]
  keeps s' hs' := ⟨s', hs', Session.Keeps.refl s'⟩

lemma touches_close (r : Registry) (k : SessionId) (reason : CloseReason) :
    Touches k r (r.close k reason).2 where
  core_of_ne id hid := by rw [core_close, if_neg hid]
  channel?_of_not_binds _ href := channel?_close k reason href
  keeps s' hs' := by
    rw [core_close, if_pos rfl] at hs'
    obtain ⟨s, hs, rfl⟩ := Option.map_eq_some_iff.1 hs'
    refine ⟨s, hs, ?_⟩
    split_ifs
    · exact Session.Keeps.refl s
    · exact Session.keeps_shut s

/-! ## Offering a packet -/

/-- Offering a packet to a session changes its queue at most, and its queue only if the packet was
not refused. -/
lemma offer_cases (r : Registry) (s : Session) (p : Packet) :
    ((∃ err, (r.offer s p).1 = .error err) ∧ ∀ id, (r.offer s p).2.core id = r.core id) ∨
      ∃ admission queue, s.queue.push p p.guarantee.overflowPolicy = (admission, queue) ∧
        admission ≠ .rejected ∧ (r.offer s p).1 = .ok admission ∧
        ∀ id, (r.offer s p).2.core id
          = if id = s.id then (r.core id).map fun s => { s with queue } else r.core id := by
  unfold offer
  rcases s.queue.push p p.guarantee.overflowPolicy with ⟨admission, queue⟩
  cases admission with
  | rejected =>
    exact .inl ⟨⟨_, rfl⟩,
      (alike_modifySession (f := (·.recordDropped 1)) (fun _ => rfl) r s.id).core⟩
  | _ =>
    exact .inr ⟨_, queue, rfl, nofun, rfl,
      core_modifySession (g := fun s => { s with queue }) (fun _ => rfl) r s.id⟩

@[simp] lemma channel?_offer (r : Registry) (s : Session) (p : Packet) (ref : ChannelRef) :
    (r.offer s p).2.channel? ref = r.channel? ref := by
  unfold offer
  split <;> rfl

@[simp] lemma channel?_enqueue (r : Registry) (k : SessionId) (p : Packet) (ref : ChannelRef) :
    (r.enqueue k p).2.channel? ref = r.channel? ref := by
  unfold enqueue
  cases r.session? k with
  | none => rfl
  | some s =>
    dsimp only
    split_ifs
    · rfl
    · rfl
    · exact channel?_offer r s p ref

/-- A packet that is queued for a session goes through the queue of that session, which is not
over then; one that is not changes nothing. -/
lemma enqueue_cases (hr : r.Keyed) (k : SessionId) (p : Packet) :
    ((∃ err, (r.enqueue k p).1 = .error err) ∧ ∀ id, (r.enqueue k p).2.core id = r.core id) ∨
      ∃ s admission queue, r.core k = some s ∧ s.isClosed = false ∧
        s.queue.push p p.guarantee.overflowPolicy = (admission, queue) ∧
        admission ≠ .rejected ∧ (r.enqueue k p).1 = .ok admission ∧
        ∀ id, (r.enqueue k p).2.core id
          = if id = k then some { s with queue } else r.core id := by
  unfold enqueue
  cases hs : r.session? k with
  | none => exact .inl ⟨⟨_, rfl⟩, fun _ => rfl⟩
  | some s =>
    have hcore : r.core k = some s.core := core_eq_some_iff.2 ⟨s, hs, rfl⟩
    dsimp only
    split_ifs with hc hb
    · exact .inl ⟨⟨_, rfl⟩, fun _ => rfl⟩
    · exact .inl ⟨⟨_, rfl⟩,
        (alike_modifySession (f := (·.recordDropped 1)) (fun _ => rfl) r k).core⟩
    · rcases offer_cases r s p with hno | ⟨admission, queue, hpush, hne, hout, hafter⟩
      · exact .inl hno
      · refine .inr ⟨s.core, admission, queue, hcore, eq_false_of_ne_true hc, hpush, hne, hout,
          fun id => ?_⟩
        -- the registry changes the session under the name that the session has itself
        have hkey : s.id = k := hr k s.core hcore
        rw [hafter, hkey]
        split_ifs with hid
        · rw [hid, hcore]
          rfl
        · rfl

lemma touches_enqueue (hr : r.Keyed) (k : SessionId) (p : Packet) :
    Touches k r (r.enqueue k p).2 := by
  rcases enqueue_cases hr k p with ⟨-, hsame⟩ | ⟨s, admission, queue, hs, -, -, -, -, hafter⟩
  · exact Alike.touches ⟨hsame, channel?_enqueue r k p⟩ k
  · refine ⟨fun id hid => by rw [hafter, if_neg hid], fun ref _ => channel?_enqueue r k p ref,
      fun s' hs' => ⟨s, hs, ?_⟩⟩
    rw [hafter, if_pos rfl] at hs'
    obtain rfl := Option.some.inj hs'
    exact Session.keeps_withQueue s queue

end Registry

end SessionServer
