/-
# No session is forgotten

Many work on one engine at once.  Submitters offer their packets to one recipient after another.
Each shard has a worker, which takes a ticket and later makes one attempt to write for the session
that it took it for.  Waits for channels come to an end, and sessions are opened, bound, given
channels and closed at any time.  *Traffic* is an engine with the submissions that are under way
and the sessions that the workers hold; what anybody does is one action, and the actions of all of
them come in any order.

Between taking the ticket of a session and writing for it, the session has no ticket although
packets wait for it, and other packets may come in between.  Whatever happens, such a session has a
ticket again once the worker lets go of it.

Main results: a submission that nobody interrupts is `Engine.submit` (`run_submission`), and a
session for which packets wait has a ticket, or the worker of its shard holds it
(`scheduled_or_held`).
-/
import Mathlib.Logic.Function.Basic
import SessionServer.Proofs.Outbound.History
import SessionServer.Proofs.Outbound.Scheduling

namespace SessionServer

/-! ## Upkeep -/

/-- What is done to the registry besides queueing and writing. -/
inductive Upkeep where
  | create (primary : ChannelRef)
  | activate (k : SessionId)
  | bindPlayer (k : SessionId) (player : PlayerId)
  | attach (ref : ChannelRef) (token : Bytes)
  | close (k : SessionId) (reason : CloseReason)
  /-- Channels are added, or become ready to take more or less than before, or fail. -/
  | turn (channels : Array Channel)
  /-- Time passes. -/
  | tick (clock : ℕ)

/-- The registry after some upkeep. -/
def Registry.keepUp (resolve : Resolver) (r : Registry) : Upkeep → Registry
  | .create primary => (r.create primary).2
  | .activate k => (r.activate k).2
  | .bindPlayer k player => (r.bindPlayer k player).2
  | .attach ref token => (r.attach resolve ref token).2
  | .close k reason => (r.close k reason).2
  | .turn channels => { r with channels }
  | .tick clock => { r with clock }

lemma Engine.settles_keepUp (resolve : Resolver) (e : Engine) (u : Upkeep) :
    Engine.Settles e { e with registry := e.registry.keepUp resolve u } := by
  cases u with
  | create primary => exact settles_create e primary
  | activate k => exact settles_of_rests (Registry.rests_activate e.registry k) rfl rfl
  | bindPlayer k player =>
    exact settles_of_rests (Registry.rests_bindPlayer e.registry k player) rfl rfl
  | attach ref token =>
    exact settles_of_rests (Registry.rests_attach e.registry resolve ref token) rfl rfl
  | close k reason => exact (calms_close e k reason).settles
  | turn channels => exact settles_of_eq rfl rfl rfl
  | tick clock => exact settles_of_eq rfl rfl rfl

/-! ## Traffic -/

/-- A submission that is under way. -/
structure Submission where
  /-- The packet with its finished frame. -/
  packet : Packet
  /-- The recipients that it has not been offered to yet. -/
  left : List SessionId
  /-- How many packets have been lost by it. -/
  lost : ℕ := 0

/-- An engine and those who are busy with it. -/
structure Traffic where
  engine : Engine
  submissions : List Submission := []
  /-- The session for which the worker of a shard has taken a ticket and not written yet. -/
  held : ℕ → Option SessionId := fun _ => none

namespace Traffic

/-- What somebody does. -/
inductive Action where
  /-- Somebody frames a packet, to offer it to its recipients. -/
  | submit (p : Packet)
  /-- A submitter offers its packet to the next recipient. -/
  | offer (i : ℕ)
  /-- A submitter has come to the end of its recipients. -/
  | report (i : ℕ)
  /-- The worker of a shard takes a ticket. -/
  | take (shard : ℕ)
  /-- The worker of a shard makes an attempt to write for the session that it holds. -/
  | write (shard : ℕ) (blocked : BlockedPolicy)
  /-- A wait for a channel comes to its end. -/
  | wake (i : ℕ)
  | keepUp (u : Upkeep)

variable {setup : Setup} {t t' : Traffic} {id k : SessionId}

/-- Traffic in which nothing has happened. -/
def start (queueCapacity shards : ℕ) (dispatcher : DispatcherConfig) : Traffic where
  engine := .start queueCapacity shards dispatcher

/-- What an action does, if it can be done. -/
def act (setup : Setup) (t : Traffic) : Action → Option Traffic
  | .submit p =>
    match t.engine.frame setup p with
    -- a packet that cannot be framed is not offered to anybody
    | .error _ => some t
    | .ok frame =>
      some { t with
        engine := { t.engine with nextPacketId := t.engine.nextPacketId + 1 }
        submissions := ⟨t.engine.finished p frame, p.recipients, 0⟩ :: t.submissions }
  | .offer i =>
    match t.submissions[i]? with
    | some ⟨packet, k :: left, lost⟩ =>
      some { t with
        engine := (t.engine.offer packet k).2
        submissions := t.submissions.set i ⟨packet, left, lost + (t.engine.offer packet k).1.2⟩ }
    | _ => none
  | .report i =>
    match t.submissions[i]? with
    | some ⟨_, [], lost⟩ =>
      let writer := { t.engine.writer with
        droppedPackets := t.engine.writer.droppedPackets + UInt64.ofNat lost }
      some { t with
        engine := { t.engine with writer }
        submissions := t.submissions.eraseIdx i }
    | _ => none
  | .take shard =>
    -- a worker takes the next ticket only after it has written for the one before
    match t.held shard, t.engine.tryPop shard with
    | none, some (k, engine) =>
      some { t with engine, held := Function.update t.held shard (some k) }
    | _, _ => none
  | .write shard blocked =>
    (t.held shard).map fun k =>
      { t with
        engine := (t.engine.writeOnce { setup with blocked } k).2
        held := Function.update t.held shard none }
  | .wake i =>
    t.engine.waiters[i]?.map fun w =>
      { t with engine := { t.engine with waiters := t.engine.waiters.eraseIdx i }.wake w }
  | .keepUp u =>
    some { t with engine :=
      { t.engine with registry := t.engine.registry.keepUp setup.resolve u } }

/-- What some actions do, if they can be done one after the other. -/
def run (setup : Setup) (t : Traffic) : List Action → Option Traffic
  | [] => some t
  | action :: actions => (t.act setup action).bind fun t => t.run setup actions

/-! ## One submission by itself -/

lemma run_append (setup : Setup) (t : Traffic) (actions more : List Action) :
    t.run setup (actions ++ more) = (t.run setup actions).bind fun t => t.run setup more := by
  induction actions generalizing t with
  | nil => rfl
  | cons action actions ih =>
    rw [List.cons_append, run, run, Option.bind_assoc]
    exact congrArg (Option.bind _) (funext fun t => ih t)

lemma run_offers (setup : Setup) (p : Packet) (ids : List SessionId) (lost : ℕ)
    (e : Engine) (others : List Submission) (held : ℕ → Option SessionId) :
    run setup ⟨e, ⟨p, ids, lost⟩ :: others, held⟩ (List.replicate ids.length (.offer 0))
      = some ⟨(Engine.offerAll p ids e).2,
          ⟨p, [], lost + (Engine.offerAll p ids e).1.2⟩ :: others, held⟩ := by
  induction ids generalizing e lost with
  | nil => rfl
  | cons k ids ih =>
    rw [List.length_cons, List.replicate_succ, run]
    refine (ih (lost + (e.offer p k).1.2) (e.offer p k).2).trans ?_
    simp only [Engine.offerAll, Nat.add_assoc]

/-- A submission that nobody interrupts does what submitting does. -/
theorem run_submission (setup : Setup) (t : Traffic) (p : Packet) {frame : Bytes}
    (h : t.engine.frame setup p = .ok frame) :
    t.run setup (.submit p :: List.replicate p.recipients.length (.offer 0) ++ [.report 0])
      = some { t with engine := (t.engine.submit setup p).2 } := by
  obtain ⟨e, others, held⟩ := t
  have hframed : act setup ⟨e, others, held⟩ (.submit p)
      = some ⟨{ e with nextPacketId := e.nextPacketId + 1 },
          ⟨e.finished p frame, p.recipients, 0⟩ :: others, held⟩ := by
    rw [act, h]
  rw [List.cons_append, run, hframed, Option.bind_some, run_append, run_offers, Option.bind_some,
    run, act, Engine.submit, h]
  simp only [List.getElem?_cons_zero, List.eraseIdx_cons_zero, Nat.zero_add, Option.bind_some, run,
    Engine.finished]

/-! ## Nobody is left restless -/

/-- Every restless session is held by the worker of its shard. -/
structure Attended (t : Traffic) : Prop where
  sound : t.engine.Sound
  held_of_restless : ∀ id, t.engine.Restless id → t.held (t.engine.tickets.shardOf id) = some id

lemma attended_start (queueCapacity shards : ℕ) (dispatcher : DispatcherConfig) :
    (start queueCapacity shards dispatcher).Attended where
  sound := by
    refine ⟨fun id s hs => absurd hs nofun, ?_, fun n id hid => ?_, fun id s hs => absurd hs nofun⟩
    · have hcount := Tickets.count_ofCount shards
      exact hcount ▸ Nat.lt_of_lt_of_le Nat.one_pos (Nat.le_max_right shards 1)
    · have hnone := Tickets.shard_ofCount shards n
      exact absurd (hnone ▸ hid) List.not_mem_nil
  held_of_restless id := by
    rintro ⟨s, hs, -⟩
    exact absurd hs nofun

/-- What makes no session restless, while the workers hold what they held. -/
lemma Attended.of_settles {e : Engine} (ht : t.Attended) (h : Engine.Settles t.engine e)
    (submissions : List Submission) : Attended { t with engine := e, submissions } where
  sound := h.sound ht.sound
  held_of_restless id hid := by
    have hheld := ht.held_of_restless id (h.restless id hid)
    rwa [← Tickets.shardOf_of_count_eq h.count_eq] at hheld

/-- The worker of a shard takes a ticket, and holds the session that becomes restless by that. -/
lemma Attended.take {e : Engine} {shard : ℕ} (ht : t.Attended) (hfree : t.held shard = none)
    (h : t.engine.tryPop shard = some (k, e)) :
    Attended { t with engine := e, held := Function.update t.held shard (some k) } where
  sound := (Engine.serves_tryPop h).sound ht.sound
  held_of_restless id hid := by
    have hserves := Engine.serves_tryPop h
    show Function.update t.held shard (some k) (e.tickets.shardOf id) = some id
    rw [Tickets.shardOf_of_count_eq hserves.count_eq]
    by_cases hk : id = k
    · rw [hk, ht.sound.shardOf_of_tryPop h, Function.update_self]
    · have hheld := ht.held_of_restless id (hserves.restless id hk hid)
      have hne : t.engine.tickets.shardOf id ≠ shard := by
        rintro heq
        rw [heq, hfree] at hheld
        cases hheld
      rwa [Function.update_of_ne hne]

/-- The worker of a shard writes for the session that it holds and lets go of it. -/
lemma Attended.write {e : Engine} {shard : ℕ} (ht : t.Attended) (hheld : t.held shard = some k)
    (h : Engine.Calms k t.engine e) :
    Attended { t with engine := e, held := Function.update t.held shard none } where
  sound := h.serves.sound ht.sound
  held_of_restless id hid := by
    have hold := ht.held_of_restless id (h.settles.restless id hid)
    show Function.update t.held shard none (e.tickets.shardOf id) = some id
    rw [Tickets.shardOf_of_count_eq h.serves.count_eq]
    have hne : t.engine.tickets.shardOf id ≠ shard := by
      rintro heq
      rw [heq, hheld] at hold
      obtain rfl := Option.some.inj hold
      exact h.calm hid
    rwa [Function.update_of_ne hne]

lemma Attended.act {action : Action} (ht : t.Attended) (h : t.act setup action = some t') :
    t'.Attended := by
  cases action with
  | submit p =>
    simp only [Traffic.act] at h
    split at h
    · exact Option.some.inj h ▸ ht
    · obtain rfl := Option.some.inj h
      refine ht.of_settles ?_ _
      exact Engine.settles_of_eq rfl rfl rfl
  | offer i =>
    simp only [Traffic.act] at h
    split at h
    · obtain rfl := Option.some.inj h
      exact ht.of_settles (Engine.settles_offer ht.sound.keyed _ _) _
    · cases h
  | report i =>
    simp only [Traffic.act] at h
    split at h
    · obtain rfl := Option.some.inj h
      refine ht.of_settles ?_ _
      exact Engine.settles_of_eq rfl rfl rfl
    · cases h
  | take shard =>
    simp only [Traffic.act] at h
    split at h
    · rename_i hfree hpop
      obtain rfl := Option.some.inj h
      exact ht.take hfree hpop
    · cases h
  | write shard blocked =>
    obtain ⟨k, hheld, rfl⟩ := Option.map_eq_some_iff.1 h
    exact ht.write hheld (Engine.calms_writeOnce { setup with blocked } t.engine k)
  | wake i =>
    obtain ⟨w, hw, rfl⟩ := Option.map_eq_some_iff.1 h
    exact ht.of_settles (Engine.settles_wake hw) _
  | keepUp u =>
    obtain rfl := Option.some.inj h
    exact ht.of_settles (Engine.settles_keepUp setup.resolve t.engine u) _

lemma Attended.run {actions : List Action} (ht : t.Attended)
    (h : t.run setup actions = some t') : t'.Attended := by
  induction actions generalizing t with
  | nil => exact Option.some.inj h ▸ ht
  | cons action actions ih =>
    obtain ⟨t₁, hact, hrun⟩ := Option.bind_eq_some_iff.1 h
    exact ih (ht.act hact) hrun

/-- **No session is forgotten.**  Whoever does what in which order, and however the channels
behave: a session that is open and for which packets wait has a ticket, and waits in its shard or
for a channel, or else the worker of its shard has taken its ticket and is about to write. -/
theorem scheduled_or_held (setup : Setup) (queueCapacity shards : ℕ)
    (dispatcher : DispatcherConfig) (actions : List Action)
    (h : (start queueCapacity shards dispatcher).run setup actions = some t) {s : Session}
    (hs : t.engine.registry.session? id = some s) (hopen : s.isClosed = false)
    (hwaiting : s.queue.packets ≠ []) :
    (s.ticket = true ∧ t.engine.Scheduled id) ∨
      t.held (t.engine.tickets.shardOf id) = some id := by
  have hattended := (attended_start queueCapacity shards dispatcher).run h
  cases hticket : s.ticket with
  | true => exact .inl ⟨rfl, hattended.sound.scheduled id s hs hticket⟩
  | false =>
    exact .inr (hattended.held_of_restless id ⟨s, hs, hopen, hwaiting, hticket⟩)

/-- Two submitters, and a channel that first takes a part of what it is offered and then nothing.
The second packet comes in while the worker holds the session for the first one; the session waits
for its channel, is given its ticket, and is held again, without a ticket, when the run ends. -/
theorem scheduled_or_held_of_blocked :
    let setup : Setup := { codec := .plain }
    let channel (blocked : Bool) : Channel :=
      .memory { id := ⟨1⟩, transport := .stream, cap := some 2, blocked }
    let packet (data : Bytes) : Packet := { data, transport := .stream, recipients := [⟨1⟩] }
    let actions : List Action :=
      [.keepUp (.turn #[channel false]), .keepUp (.create ⟨0⟩), .submit (packet [1]),
        .submit (packet [2]), .offer 1, .take 1, .offer 0, .write 1 .wait, .take 1,
        .keepUp (.turn #[channel true]), .write 1 .wait, .report 1, .wake 0, .take 1]
    ∃ t s, (start 4 2 {}).run setup actions = some t ∧
      t.engine.registry.session? ⟨1⟩ = some s ∧ s.queue.packets.length = 2 ∧ s.ticket = false ∧
      t.held (t.engine.tickets.shardOf ⟨1⟩) = some ⟨1⟩ := by
  intro setup channel packet actions
  have hplay : ((start 4 2 {}).run setup actions).map (fun t =>
      (t.engine.registry.session? ⟨1⟩).map fun s =>
        (s.isClosed, s.queue.packets.length, s.ticket)) = some (some (false, 2, false)) := by
    decide +kernel
  obtain ⟨t, hrun, hsession⟩ := Option.map_eq_some_iff.1 hplay
  obtain ⟨s, hs, hout⟩ := Option.map_eq_some_iff.1 hsession
  simp only [Prod.mk.injEq] at hout
  obtain ⟨hopen, hlength, hticket⟩ := hout
  have hwaiting : s.queue.packets ≠ [] := by
    intro hnil
    rw [hnil] at hlength
    cases hlength
  refine ⟨t, s, hrun, hs, hlength, hticket, ?_⟩
  rcases scheduled_or_held setup 4 2 {} actions hrun hs hopen hwaiting with ⟨hscheduled, -⟩ | hheld
  · exact absurd (hticket.symm.trans hscheduled) nofun
  · exact hheld

end Traffic

end SessionServer
