/-
# The outline of a registry

A session is fresh at first, becomes active with the first frame that is read from it, and is closed
in the end.  All that its life depends on is the *outline* of a registry: how far each session has
come, which ones are live, and which closings were noticed.  Queues, channels, names and players
make no difference to it, except that they decide who is closed.

Main result: on outlines, an operation that neither opens a session nor makes one active comes down
to the calls that close sessions, one after the other (`outline_operate`).
-/
import Mathlib.Logic.Function.Basic
import SessionServer.Proofs.Outbound.Farewell

namespace SessionServer

/-- What the life of sessions shows of a registry. -/
@[ext]
structure Outline where
  /-- How far a session has come, if there is one of that name. -/
  stage : SessionId → Option Lifecycle
  live : List SessionId
  notices : List (SessionId × CloseReason)

namespace Outline

variable {o : Outline} {k id : SessionId} {reason : CloseReason}
  {calls more : List (SessionId × CloseReason)}

/-- There is a session of this name, and it is not over. -/
def isOpen (o : Outline) (k : SessionId) : Bool := (o.stage k).any (· ≠ .closed)

/-- A session is opened. -/
def create (o : Outline) (k : SessionId) : Outline :=
  { o with stage := Function.update o.stage k (some .fresh), live := o.live ++ [k] }

/-- A session becomes active if it is fresh. -/
def activate (o : Outline) (k : SessionId) : Outline :=
  if o.stage k = some .fresh then { o with stage := Function.update o.stage k (some .active) }
  else o

/-- A session is closed, and this is noticed, unless it was closed before. -/
def close (o : Outline) (k : SessionId) (reason : CloseReason) : Outline :=
  if o.isOpen k then
    { stage := Function.update o.stage k (some .closed)
      live := o.live.filter (· ≠ k)
      notices := o.notices ++ [(k, reason)] }
  else o

/-- Sessions are closed, one after the other. -/
def closeAll (o : Outline) (calls : List (SessionId × CloseReason)) : Outline :=
  calls.foldl (fun o call => o.close call.1 call.2) o

lemma closeAll_append (o : Outline) (calls more : List (SessionId × CloseReason)) :
    o.closeAll (calls ++ more) = (o.closeAll calls).closeAll more :=
  List.foldl_append ..

lemma isOpen_iff : o.isOpen k = true ↔ o.stage k = some .fresh ∨ o.stage k = some .active := by
  unfold isOpen
  cases o.stage k with
  | none => simp
  | some stage => cases stage <;> simp

lemma stage_create (o : Outline) (k id : SessionId) :
    (o.create k).stage id = if id = k then some .fresh else o.stage id :=
  Function.update_apply ..

lemma stage_activate (o : Outline) (k id : SessionId) :
    (o.activate k).stage id
      = if id = k ∧ o.stage k = some .fresh then some .active else o.stage id := by
  unfold activate
  by_cases hfresh : o.stage k = some .fresh
  · simp [hfresh, Function.update_apply]
  · simp [hfresh]

lemma stage_close (o : Outline) (k : SessionId) (reason : CloseReason) (id : SessionId) :
    (o.close k reason).stage id = if id = k ∧ o.isOpen k then some .closed else o.stage id := by
  unfold close
  by_cases hopen : o.isOpen k = true
  · simp [hopen, Function.update_apply]
  · simp [hopen]

lemma isOpen_close (o : Outline) (k : SessionId) (reason : CloseReason) (id : SessionId) :
    (o.close k reason).isOpen id = (o.isOpen id && id ≠ k) := by
  rw [isOpen, stage_close]
  by_cases hid : id = k
  · subst hid
    cases hopen : o.isOpen id with
    | true => simp
    | false => simpa [isOpen] using hopen
  · simp [hid, isOpen]

/-- Closing sessions leaves a session where it was, or ends it. -/
lemma stage_closeAll (o : Outline) (calls : List (SessionId × CloseReason)) (id : SessionId) :
    (o.closeAll calls).stage id = o.stage id ∨
      o.isOpen id = true ∧ (o.closeAll calls).stage id = some .closed := by
  induction calls generalizing o with
  | nil => exact .inl rfl
  | cons call calls ih =>
    have hfirst := stage_close o call.1 call.2 id
    have hlater := isOpen_close o call.1 call.2 id
    rcases ih (o.close call.1 call.2) with hsame | ⟨hopen, hclosed⟩
    · split_ifs at hfirst with hid
      · exact .inr ⟨hid.1 ▸ hid.2, hsame.trans hfirst⟩
      · exact .inl (hsame.trans hfirst)
    · rw [hlater, Bool.and_eq_true] at hopen
      exact .inr ⟨hopen.1, hclosed⟩

lemma isSome_stage_closeAll (o : Outline) (calls : List (SessionId × CloseReason))
    (id : SessionId) : ((o.closeAll calls).stage id).isSome = (o.stage id).isSome := by
  rcases stage_closeAll o calls id with hsame | ⟨hopen, hclosed⟩
  · rw [hsame]
  · rcases isOpen_iff.1 hopen with hstage | hstage
    all_goals rw [hclosed, hstage]; rfl

end Outline

namespace Registry

variable {r r' : Registry} {k : SessionId} {s : Session}

/-- The outline of a registry. -/
def outline (r : Registry) : Outline where
  stage k := (r.session? k).map (·.state)
  live := r.live
  notices := r.notices

lemma stage_outline_of_some (hs : r.session? k = some s) : r.outline.stage k = some s.state :=
  congrArg (Option.map _) hs

lemma stage_outline_of_none (hk : r.session? k = none) : r.outline.stage k = none :=
  congrArg (Option.map _) hk

lemma isSome_stage_outline (r : Registry) (k : SessionId) :
    (r.outline.stage k).isSome = (r.session? k).isSome :=
  Option.isSome_map

lemma isOpen_outline (r : Registry) (k : SessionId) : r.outline.isOpen k = r.isOpen k := by
  simp only [Outline.isOpen, isOpen, outline, Option.any_map]
  exact congrArg (Option.any · _) (funext fun s => by simp [Session.isClosed])

/-- A change of a session that leaves its stage as it is. -/
lemma outline_modifySession {f : Session → Session} (hf : ∀ s, (f s).state = s.state)
    (r : Registry) (k : SessionId) : (r.modifySession k f).outline = r.outline := by
  refine Outline.ext (funext fun id => ?_) rfl rfl
  show ((r.modifySession k f).session? id).map _ = (r.session? id).map _
  rw [session?_modifySession]
  split_ifs
  · rw [Option.map_map]
    exact congrArg (Option.map · _) (funext hf)
  · rfl

lemma outline_offer (r : Registry) (s : Session) (p : Packet) :
    (r.offer s p).2.outline = r.outline := by
  unfold offer
  split <;> exact outline_modifySession (fun _ => by rfl) r s.id

lemma outline_enqueue (r : Registry) (k : SessionId) (p : Packet) :
    (r.enqueue k p).2.outline = r.outline := by
  unfold enqueue
  cases r.session? k with
  | none => rfl
  | some s =>
    dsimp only
    split_ifs
    · rfl
    · exact outline_modifySession (f := (·.recordDropped 1)) (fun _ => rfl) r k
    · exact outline_offer r s p

lemma outline_bindPlayer (r : Registry) (k : SessionId) (player : PlayerId) :
    (r.bindPlayer k player).2.outline = r.outline := by
  unfold bindPlayer
  cases r.session? k with
  | none => rfl
  | some s =>
    dsimp only
    split_ifs
    · rfl
    · exact outline_modifySession (f := fun s => { s with player := some player }) (fun _ => rfl)
        r k

lemma outline_attach (r : Registry) (resolve : Resolver) (ref : ChannelRef) (token : Bytes) :
    (r.attach resolve ref token).2.outline = r.outline := by
  have htry : (r.tryAttach resolve ref token).2.outline = r.outline := by
    unfold tryAttach
    split
    · rfl
    · split
      · rename_i s name _ _
        split_ifs
        · rfl
        · rfl
        · obtain ⟨channels, bySecondary, heq⟩ := replaceSecondary_eq
            ({ r with bySecondary := r.bySecondary.insert name s.id }.modifySession s.id
              fun s => { s with secondary := some ref }) s.secondary name
          refine (congrArg outline heq).trans ?_
          exact outline_modifySession (f := fun s => { s with secondary := some ref })
            (fun _ => rfl) r s.id
      · rfl
  unfold attach
  split
  · rename_i h
    rwa [h] at htry
  · rename_i h
    rwa [h] at htry

lemma outline_create (r : Registry) (primary : ChannelRef) :
    (r.create primary).2.outline = r.outline.create ⟨r.nextId⟩ := by
  refine Outline.ext (funext fun id => ?_) rfl rfl
  have hfind : (r.create primary).2.session? id
      = if id = ⟨r.nextId⟩ then some { r.newSession primary with lastActive := r.clock }
        else r.session? id := Index.find?_insert r.sessions _ id _
  show ((r.create primary).2.session? id).map _ = Function.update r.outline.stage _ _ id
  rw [hfind, Function.update_apply]
  split_ifs <;> rfl

/-- Only a fresh session becomes active, and whoever makes it so is told. -/
lemma outline_activate (r : Registry) (k : SessionId) :
    (r.activate k).2.outline = r.outline.activate k ∧
      ((r.activate k).1 = true ↔ r.outline.stage k = some .fresh) := by
  have hstage : r.outline.stage k = (r.session? k).map (·.state) := rfl
  unfold activate Outline.activate
  rw [hstage]
  cases hk : r.session? k with
  | none => simp
  | some s =>
    simp only [Option.map_some, Option.some.injEq]
    split_ifs with hfresh
    · refine ⟨Outline.ext (funext fun id => ?_) rfl rfl, iff_of_true rfl hfresh⟩
      show ((r.modifySession k _).session? id).map _ = Function.update r.outline.stage _ _ id
      rw [session?_modifySession, Function.update_apply]
      split_ifs with hid
      · rw [hid, hk]
        rfl
      · rfl
    · exact ⟨rfl, iff_of_false id hfresh⟩

/-- A session is closed by the first who tries, and whoever closes it is told. -/
lemma outline_close (r : Registry) (k : SessionId) (reason : CloseReason) :
    (r.close k reason).2.outline = r.outline.close k reason ∧
      (r.close k reason).1 = r.isOpen k := by
  unfold Outline.close
  rw [isOpen_outline]
  rcases over_or_open r k with hover | ⟨s, hs, hopen⟩
  · have hclosed : r.isOpen k = false := by
      refine Option.any_eq_false _ _ |>.2 fun s hs => ?_
      simp [over_iff.1 hover s hs]
    rw [close_of_over hover, hclosed]
    exact ⟨rfl, rfl⟩
  · obtain ⟨t, hk, rfl⟩ := core_eq_some_iff.1 hs
    have hisOpen : r.isOpen k = true := by simpa [Engine.isOpen_of_some hk] using hopen
    rw [hisOpen, if_pos rfl]
    refine ⟨Outline.ext (funext fun id => ?_) ?_ (notices_close hk hopen reason).1,
      fst_close_of_open hs hopen reason⟩
    · show ((r.close k reason).2.session? id).map _ = Function.update r.outline.stage _ _ id
      rw [session?_of_modify (sessions_close hk hopen reason), Function.update_apply]
      split_ifs with hid
      · rw [hid, hk]
        rfl
      · rfl
    · refine (live_close r k reason).trans (if_pos ?_)
      simp [fate, hs, hopen]

end Registry

namespace Engine

variable {e e' : Engine} {setup : Setup} {id k : SessionId} {s : Session} {p head : Packet}
  {rest : List Packet} {ref : ChannelRef} {c : Channel} {op : Operation} {n : ℕ}

/-! ## What operations do to outlines -/

/-- Giving a session its ticket, or taking it back. -/
lemma outline_ticket (e : Engine) (k : SessionId) (ticket : Bool) :
    (e.modifySession k fun s => { s with ticket }).registry.outline = e.registry.outline :=
  Registry.outline_modifySession (f := fun s => { s with ticket }) (fun _ => rfl) e.registry k

lemma outline_schedule (e : Engine) (k : SessionId) :
    (e.schedule k).2.registry.outline = e.registry.outline := by
  unfold schedule
  cases e.registry.session? k with
  | none => rfl
  | some s =>
    dsimp only
    split_ifs
    · rfl
    · exact outline_ticket e k true

lemma outline_scheduleRest (e : Engine) (k : SessionId) (rest : List Packet) :
    (e.scheduleRest k rest).registry.outline = e.registry.outline := by
  unfold scheduleRest
  split_ifs
  · rfl
  · exact outline_schedule e k

lemma outline_tryPop (h : e.tryPop n = some (k, e')) :
    e'.registry.outline = e.registry.outline := by
  unfold tryPop at h
  split at h
  · cases h
  · obtain ⟨rfl, rfl⟩ := Prod.mk.inj (Option.some.inj h)
    exact outline_ticket _ _ false

lemma outline_wake (e : Engine) (w : Waiter) :
    (e.wake w).registry.outline = e.registry.outline :=
  (outline_schedule _ w.session).trans (outline_ticket e w.session false)

lemma outline_park (setup : Setup) (e : Engine) (k : SessionId) (ref : ChannelRef) :
    (e.park setup k ref).registry.outline = e.registry.outline := by
  unfold park
  cases setup.blocked with
  | retry => exact outline_schedule e k
  | wait =>
    dsimp only
    split_ifs
    · exact outline_ticket e k true
    · rfl

/-- The call that closes a session whose queue has no room for a packet. -/
def overflow (e : Engine) (p : Packet) (k : SessionId) : List (SessionId × CloseReason) :=
  match (e.registry.enqueue k p).1 with
  | .error (.queueFull _) => [(k, .queueOverflow)]
  | _ => []

lemma outline_offer (e : Engine) (p : Packet) (k : SessionId) :
    (e.offer p k).2.registry.outline = e.registry.outline.closeAll (e.overflow p k) := by
  have henqueue := Registry.outline_enqueue e.registry k p
  unfold offer overflow
  generalize e.registry.enqueue k p = out at henqueue ⊢
  obtain ⟨answer, registry⟩ := out
  rcases answer with (_ | refused | _) | (_ | _ | _ | _)
  case error.queueFull =>
    refine (Registry.outline_close registry k .queueOverflow).1.trans ?_
    exact congrArg (Outline.close · k .queueOverflow) henqueue
  case ok.queued | ok.droppedOldest => exact (outline_schedule _ k).trans henqueue
  all_goals exact henqueue

/-- The calls that close the sessions that have no room for a packet that is offered to them one
after the other. -/
def overflows (p : Packet) : List SessionId → Engine → List (SessionId × CloseReason)
  | [], _ => []
  | k :: ids, e => e.overflow p k ++ overflows p ids (e.offer p k).2

lemma outline_offerAll (p : Packet) (ids : List SessionId) (e : Engine) :
    (offerAll p ids e).2.registry.outline = e.registry.outline.closeAll (overflows p ids e) := by
  induction ids generalizing e with
  | nil => rfl
  | cons k ids ih =>
    refine (ih (e.offer p k).2).trans ?_
    rw [outline_offer, overflows, Outline.closeAll_append]

/-- The fault that an attempt to write for a session meets with. -/
def fault? (e : Engine) (k : SessionId) : Option Fault :=
  (e.registry.session? k).bind fun s => s.queue.packets.head?.bind fun head =>
    (e.registry.channelFor s head.transport).bind fun ref =>
      (e.registry.channel? ref).bind fun c =>
        match (c.tryWrite head.pending).1 with
        | .error f => some f
        | .ok _ => none

/-- The call that closes a session by how the attempt to write for it has ended. -/
def closing (k : SessionId) (fault : Option Fault) :
    WriteOutcome → List (SessionId × CloseReason)
  | .finished => [(k, .lastPacket)]
  | .failed => (fault.map fun f => (k, .writeError f.message)).toList
  | _ => []

/-- The call that closes a session for which an attempt to write is made. -/
def attempt (setup : Setup) (e : Engine) (k : SessionId) : List (SessionId × CloseReason) :=
  closing k (e.fault? k) (e.writeOnce setup k).1

lemma outline_popHead (e : Engine) (k : SessionId) :
    (e.popHead k).registry.outline = e.registry.outline :=
  Registry.outline_modifySession (f := fun s => { s with queue := s.queue.pop }) (fun _ => rfl)
    e.registry k

lemma outline_dropHead (e : Engine) (k : SessionId) (rest : List Packet) :
    (e.dropHead k rest).registry.outline = e.registry.outline := by
  unfold dropHead
  refine (outline_scheduleRest _ k rest).trans (Eq.trans ?_ (outline_popHead e k))
  exact Registry.outline_modifySession (f := (·.recordDropped 1)) (fun _ => rfl) _ k

lemma outline_splitHead (e : Engine) (k : SessionId) (head : Packet) (n : ℕ) :
    (e.splitHead k head n).2.registry.outline = e.registry.outline := by
  unfold splitHead
  refine (outline_schedule _ k).trans ?_
  exact Registry.outline_modifySession
    (f := fun s => { s.recordWrite e.registry.clock n with
      queue := s.queue.setFragment (some (head.pending.drop n)) }) (fun _ => rfl) e.registry k

lemma outline_finishHead (e : Engine) (k : SessionId) (head : Packet) (rest : List Packet)
    (n : ℕ) (fault : Option Fault) :
    (e.finishHead k head rest n).2.registry.outline
      = e.registry.outline.closeAll (closing k fault (e.finishHead k head rest n).1) := by
  unfold finishHead
  extract_lets _ _ _ counted
  have hcounted : counted.registry.outline = e.registry.outline := by
    refine Eq.trans ?_ (outline_popHead e k)
    exact Registry.outline_modifySession
      (f := fun s => (s.recordWrite (e.popHead k).registry.clock n).recordWrittenPacket)
      (fun _ => rfl) _ k
  split_ifs
  · refine (Registry.outline_close counted.registry k .lastPacket).1.trans ?_
    exact congrArg (Outline.close · k .lastPacket) hcounted
  · exact (outline_scheduleRest counted k rest).trans hcounted

lemma outline_writeHead_of_ok {c' : Channel} (setup : Setup) (rest : List Packet)
    (fault : Option Fault) (hw : c.tryWrite head.pending = (.ok n, c')) :
    (e.writeHead setup k head rest ref c).2.registry.outline
      = e.registry.outline.closeAll
        (closing k fault (e.writeHead setup k head rest ref c).1) := by
  rw [writeHead_of_ok hw]
  split_ifs
  · exact outline_finishHead (e.wrote ref c') k head rest n fault
  · exact outline_park setup (e.wrote ref c') k ref
  · exact outline_splitHead (e.wrote ref c') k head n

lemma outline_writeHead_of_error {c' : Channel} {f : Fault} (setup : Setup) (rest : List Packet)
    (hw : c.tryWrite head.pending = (.error f, c')) :
    (e.writeHead setup k head rest ref c).2.registry.outline
      = e.registry.outline.closeAll
        (closing k (some f) (e.writeHead setup k head rest ref c).1) := by
  rw [writeHead_of_error hw]
  split_ifs
  · exact outline_park setup (e.wrote ref c') k ref
  · exact (Registry.outline_close (e.wrote ref c').registry k (.writeError f.message)).1

lemma fault?_eq (hs : e.registry.session? k = some s) (hq : s.queue.packets = head :: rest)
    (hfor : e.registry.channelFor s head.transport = some ref)
    (hc : e.registry.channel? ref = some c) :
    e.fault? k = match (c.tryWrite head.pending).1 with
      | .error f => some f
      | .ok _ => none := by
  simp [fault?, hs, hq, hfor, hc]

lemma outline_writeOnce (setup : Setup) (e : Engine) (k : SessionId) :
    (e.writeOnce setup k).2.registry.outline
      = e.registry.outline.closeAll (e.attempt setup k) := by
  unfold attempt
  cases hs : e.registry.session? k with
  | none => simp only [writeOnce, hs]; rfl
  | some s =>
    cases hopen : s.isClosed with
    | true => simp only [writeOnce, hs, hopen, if_true]; rfl
    | false =>
      have hcore : e.registry.core k = some s.core := Registry.core_eq_some_iff.2 ⟨s, hs, rfl⟩
      rcases writeOnce_cases setup hcore hopen with
        ⟨-, hout⟩ | ⟨head, rest, hq, ⟨-, hout⟩ | ⟨ref, c, hfor, hc, hout⟩⟩
      · rw [hout]
        rfl
      · rw [hout]
        exact outline_dropHead e k rest
      · obtain ⟨result, c', hw⟩ : ∃ result c', c.tryWrite head.pending = (result, c') :=
          ⟨_, _, rfl⟩
        rw [hout, fault?_eq hs hq hfor hc, hw]
        cases result with
        | error f => exact outline_writeHead_of_error setup rest hw
        | ok n => exact outline_writeHead_of_ok setup rest none hw

/-- The calls by which an operation closes sessions, first one first. -/
def closings (setup : Setup) (e : Engine) : Operation → List (SessionId × CloseReason)
  | .registry (.close k reason) => if (e.registry.session? k).isSome then [(k, reason)] else []
  | .submit p =>
    match e.frame setup p with
    | .error _ => []
    | .ok frame =>
      overflows (e.finished p frame) p.recipients { e with nextPacketId := e.nextPacketId + 1 }
  | .offer p k => e.overflow p k
  | .write k => e.attempt setup k
  | _ => []

lemma outline_submit (setup : Setup) (e : Engine) (p : Packet) :
    (e.submit setup p).2.registry.outline
      = e.registry.outline.closeAll (e.closings setup (.submit p)) := by
  cases hf : e.frame setup p with
  | error err =>
    rw [submit_of_frame_error hf, closings, hf]
    rfl
  | ok frame =>
    rw [closings, hf, submit, hf]
    exact outline_offerAll (e.finished p frame) p.recipients
      { e with nextPacketId := e.nextPacketId + 1 }

lemma outline_close (e : Engine) (setup : Setup) (k : SessionId) (reason : CloseReason) :
    (e.registry.close k reason).2.outline
      = e.registry.outline.closeAll (e.closings setup (.registry (.close k reason))) := by
  rw [(Registry.outline_close e.registry k reason).1, closings]
  cases hk : e.registry.session? k with
  | none =>
    have hnone : ¬ e.registry.outline.isOpen k = true := by
      rw [Registry.isOpen_outline, Registry.isOpen, hk]
      exact Bool.false_ne_true
    exact if_neg hnone
  | some s => rfl

/-- What an operation does to an outline. -/
lemma outline_operate (setup : Setup) (e : Engine) (op : Operation) :
    (e.operate setup op).registry.outline
      = match op with
        | .registry (.create _) => e.registry.outline.create ⟨e.registry.nextId⟩
        | .registry (.activate k) => e.registry.outline.activate k
        | op => e.registry.outline.closeAll (e.closings setup op) := by
  cases op with
  | registry d =>
    cases d with
    | create primary => exact Registry.outline_create e.registry primary
    | activate k => exact (Registry.outline_activate e.registry k).1
    | bindPlayer k player => exact Registry.outline_bindPlayer e.registry k player
    | attach ref token => exact Registry.outline_attach e.registry setup.resolve ref token
    | enqueue k p => exact Registry.outline_enqueue e.registry k p
    | close k reason => exact outline_close e setup k reason
  | submit p => exact outline_submit setup e p
  | offer p k => exact outline_offer e p k
  | write k => exact outline_writeOnce setup e k
  | schedule k => exact outline_schedule e k
  | take shard =>
    rw [operate]
    cases h : e.tryPop shard with
    | none => rfl
    | some popped => exact outline_tryPop h
  | wake i =>
    rw [operate]
    cases e.waiters[i]? with
    | none => rfl
    | some w => exact outline_wake _ w
  | turn ref change => rfl

end Engine

end SessionServer
