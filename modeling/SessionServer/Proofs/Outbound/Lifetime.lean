/-
# The life of a session

Many may close a session: the application, a reader, a submitter who finds its queue full, a worker
who has written its last packet or whose write has failed.  Whoever comes first closes it for good,
and those who come later do nothing.

That a session is closed by the first call that is made for it, and noticed with the reason of that
call, is a matter of outlines (`Recorded`), and carried on from one operation to the next
(`recorded_operate`).  That nothing is left of it is what closing does (`gone_operate`), and that
nothing is left for the listener to find, since it is told in the end (`notices_of_tells`).

Main result: the stages of a session follow each other, it is made active once at most, and it is
closed and noticed once, by the first call, when nothing of it is left (`closed_once`).
-/
import SessionServer.Proofs.Outbound.Notices
import SessionServer.Proofs.Outbound.Outline

namespace SessionServer

/-- One stage of life comes after another. -/
inductive Lifecycle.Step : Lifecycle → Lifecycle → Prop
  | activate : Step .fresh .active
  | close_fresh : Step .fresh .closed
  | close_active : Step .active .closed

/-! ## Who is closed by whom -/

namespace Outline

variable {o : Outline} {k id : SessionId} {reason : CloseReason} {active : List SessionId}
  {calls more : List (SessionId × CloseReason)}

/-- Sessions are live while they are open, and closed if a call was made for them.  Each of these
was noticed once, when the first call was made.  Sessions were made active once. -/
structure Recorded (o : Outline) (active : List SessionId)
    (calls : List (SessionId × CloseReason)) : Prop where
  mem_live_iff : ∀ k, k ∈ o.live ↔ o.isOpen k = true
  closed_iff : ∀ k, o.stage k = some .closed ↔ ∃ reason, (k, reason) ∈ calls
  notices : ∀ k, o.notices.filter (·.1 = k) = (calls.filter (·.1 = k)).take 1
  aged : ∀ k ∈ active, o.stage k = some .active ∨ o.stage k = some .closed
  nodup : active.Nodup

lemma ne_closed_of_isOpen (hopen : o.isOpen k = true) : o.stage k ≠ some .closed := by
  rcases isOpen_iff.1 hopen with hstage | hstage
  all_goals simp [hstage]

lemma closed_of_not_isOpen (hk : (o.stage k).isSome = true) (hopen : o.isOpen k = false) :
    o.stage k = some .closed := by
  obtain ⟨stage, hstage⟩ := Option.isSome_iff_exists.1 hk
  cases stage with
  | closed => exact hstage
  | _ => simp [isOpen, hstage] at hopen

lemma isOpen_iff_ne_closed (hk : (o.stage k).isSome = true) :
    o.isOpen k = true ↔ o.stage k ≠ some .closed :=
  ⟨ne_closed_of_isOpen, fun hne => by
    by_contra hopen
    exact hne (closed_of_not_isOpen hk (Bool.eq_false_iff.2 hopen))⟩

namespace Recorded

lemma filter_eq_nil (h : o.Recorded active calls) (hk : o.stage k ≠ some .closed) :
    calls.filter (·.1 = k) = [] := by
  refine List.filter_eq_nil_iff.2 fun call hmem hcall => hk ((h.closed_iff k).2 ⟨call.2, ?_⟩)
  rwa [← of_decide_eq_true hcall]

lemma filter_ne_nil (h : o.Recorded active calls) (hk : o.stage k = some .closed) :
    calls.filter (·.1 = k) ≠ [] := by
  obtain ⟨reason, hmem⟩ := (h.closed_iff k).1 hk
  exact List.ne_nil_of_mem (List.mem_filter.2 ⟨hmem, decide_eq_true rfl⟩)

/-- Once a session is closed, further calls make no difference to its first one. -/
lemma take_filter_append (h : o.Recorded active calls) (hk : o.stage k = some .closed)
    (more : List (SessionId × CloseReason)) :
    ((calls ++ more).filter (·.1 = k)).take 1 = (calls.filter (·.1 = k)).take 1 := by
  rw [List.filter_append]
  exact List.take_append_of_le_length (List.length_pos_iff.2 (h.filter_ne_nil hk))

lemma closed_of_mem_notices (h : o.Recorded active calls) (hmem : (k, reason) ∈ o.notices) :
    o.stage k = some .closed := by
  have hfilter : (k, reason) ∈ o.notices.filter (·.1 = k) :=
    List.mem_filter.2 ⟨hmem, decide_eq_true rfl⟩
  rw [h.notices] at hfilter
  exact (h.closed_iff k).2 ⟨reason, (List.mem_filter.1 (List.mem_of_mem_take hfilter)).1⟩

/-- The first call closes the session, and later ones do nothing. -/
lemma close (h : o.Recorded active calls) (hk : (o.stage k).isSome = true)
    (reason : CloseReason) : (o.close k reason).Recorded active (calls ++ [(k, reason)]) := by
  have hstage := stage_close o k reason
  cases hopen : o.isOpen k with
  | true =>
    have hclosed : o.close k reason = _ := if_pos hopen
    have hnone := h.filter_eq_nil (ne_closed_of_isOpen hopen)
    simp only [hopen, and_true] at hstage
    refine ⟨fun id => ?_, fun id => ?_, fun id => ?_, fun id hid => ?_, h.nodup⟩
    · rw [isOpen_close, hclosed, List.mem_filter, h.mem_live_iff, Bool.and_eq_true]
    · rw [hstage]
      split_ifs with hid
      · simp [hid]
      · simp [h.closed_iff, hid]
    · rw [hclosed, List.filter_append, List.filter_append, h.notices]
      by_cases hid : k = id
      · subst hid
        simp [hnone]
      · simp [hid]
    · rw [hstage]
      split_ifs
      · exact .inr rfl
      · exact h.aged id hid
  | false =>
    have hsame : o.close k reason = o := if_neg (by simp [hopen])
    have hclosed := closed_of_not_isOpen hk hopen
    rw [hsame]
    refine ⟨h.mem_live_iff, fun id => ?_, fun id => ?_, h.aged, h.nodup⟩
    · rw [h.closed_iff]
      by_cases hid : id = k
      · subst hid
        exact iff_of_true ((h.closed_iff id).1 hclosed) ⟨reason, by simp⟩
      · simp [hid]
    · rw [h.notices]
      by_cases hid : k = id
      · subst hid
        exact (h.take_filter_append hclosed _).symm
      · simp [hid]

lemma closeAll (h : o.Recorded active calls)
    (hmore : ∀ call ∈ more, (o.stage call.1).isSome = true) :
    (o.closeAll more).Recorded active (calls ++ more) := by
  induction more generalizing o calls with
  | nil => simpa [Outline.closeAll] using h
  | cons call more ih =>
    have hfirst := h.close (hmore call List.mem_cons_self) call.2
    have hrest : ∀ later ∈ more, ((o.close call.1 call.2).stage later.1).isSome = true :=
      fun later hmem => (isSome_stage_closeAll o [call] later.1).trans
        (hmore later (List.mem_cons_of_mem call hmem))
    rw [List.append_cons]
    exact ih hfirst hrest

lemma create (h : o.Recorded active calls) (hk : o.stage k = none) :
    (o.create k).Recorded active calls := by
  have hstage := stage_create o k
  refine ⟨fun id => ?_, fun id => ?_, h.notices, fun id hid => ?_, h.nodup⟩
  · rw [isOpen, hstage]
    show id ∈ o.live ++ [k] ↔ _
    rw [List.mem_append, h.mem_live_iff, List.mem_singleton, isOpen]
    by_cases hid : id = k
    · simp [hid]
    · simp [hid]
  · rw [hstage, ← h.closed_iff]
    split_ifs with hid
    · simp [hid, hk]
    · rfl
  · have hne : id ≠ k := fun heq => by simpa [heq, hk] using h.aged id hid
    rw [hstage, if_neg hne]
    exact h.aged id hid

/-- A session becomes active only if it was fresh, and then it had not been active before. -/
lemma activate (h : o.Recorded active calls) (k : SessionId) :
    (o.activate k).Recorded (active ++ if o.stage k = some .fresh then [k] else []) calls := by
  have hstage := stage_activate o k
  by_cases hfresh : o.stage k = some .fresh
  · have hnew : k ∉ active := fun hmem => by simpa [hfresh] using h.aged k hmem
    have hactive : o.activate k = _ := if_pos hfresh
    simp only [hfresh, and_true] at hstage
    rw [if_pos hfresh]
    refine ⟨fun id => ?_, fun id => ?_, fun id => ?_, fun id hid => ?_, ?_⟩
    · rw [isOpen, hstage, hactive, h.mem_live_iff, isOpen]
      split_ifs with hid
      · simp [hid, hfresh]
      · rfl
    · rw [hstage, ← h.closed_iff]
      split_ifs with hid
      · simp [hid, hfresh]
      · rfl
    · rw [hactive, h.notices]
    · rw [hstage]
      split_ifs with heq
      · exact .inl rfl
      · exact h.aged id ((List.mem_append.1 hid).resolve_right (by simpa using heq))
    · refine List.nodup_append.2 ⟨h.nodup, List.nodup_singleton k, ?_⟩
      rintro id hid _ hmem rfl
      exact hnew (List.mem_singleton.1 hmem ▸ hid)
  · have hsame : o.activate k = o := if_neg hfresh
    simpa [hsame, hfresh] using h

end Recorded

end Outline

namespace Registry

variable {r : Registry} {k : SessionId} {s : Session} {reason : CloseReason}
  {active : List SessionId} {calls : List (SessionId × CloseReason)}

/-- Once a call was made to close a session, it does not become active any more. -/
lemma fst_activate_of_mem_calls (h : r.outline.Recorded active calls)
    (hmem : (k, reason) ∈ calls) : (r.activate k).1 = false := by
  refine Bool.eq_false_iff.2 fun htrue => ?_
  have hfresh := (outline_activate r k).2.1 htrue
  exact absurd (hfresh.symm.trans ((h.closed_iff k).2 ⟨reason, hmem⟩)) nofun

/-- Whoever makes the first call is told that the session was closed by that. -/
lemma fst_close_iff (h : r.outline.Recorded active calls) (hs : r.session? k = some s)
    (reason : CloseReason) :
    (r.close k reason).1 = true ↔ ∀ earlier, (k, earlier) ∉ calls := by
  have hk : (r.outline.stage k).isSome = true := by
    rw [stage_outline_of_some hs]
    rfl
  rw [(outline_close r k reason).2, ← isOpen_outline, Outline.isOpen_iff_ne_closed hk, Ne,
    h.closed_iff, not_exists]

/-- Who is not told so has changed nothing. -/
lemma snd_close_of_false (hfalse : (r.close k reason).1 = false) : (r.close k reason).2 = r := by
  rcases over_or_open r k with hover | ⟨s, hs, hopen⟩
  · rw [close_of_over hover]
  · exact absurd (hfalse.symm.trans (fst_close_of_open hs hopen reason)) nofun

lemma isClosed_iff (h : r.outline.Recorded active calls) (k : SessionId) :
    (∃ s, r.session? k = some s ∧ s.isClosed = true) ↔ ∃ reason, (k, reason) ∈ calls := by
  rw [← h.closed_iff]
  refine Iff.trans ?_ Option.map_eq_some_iff.symm
  simp only [Session.isClosed, decide_eq_true_eq]

lemma get?_of_closed (h : r.outline.Recorded active calls)
    (hk : r.outline.stage k = some .closed) : r.get? k = none :=
  if_neg fun hlive => Outline.ne_closed_of_isOpen ((h.mem_live_iff k).1 hlive) hk

/-- What an index leads to is found only if it is live. -/
lemma bind_get?_ne (hget : r.get? k = none) (found : Option SessionId) :
    found.bind r.get? ≠ some k := by
  intro hfound
  obtain ⟨id, -, hid⟩ := Option.bind_eq_some_iff.1 hfound
  obtain rfl := eq_of_get? hid
  exact absurd (hget.symm.trans hid) nofun

/-- What is left of a session that was open: no lookup finds it, it has no packets, and every
channel that it had is closed. -/
structure Gone (k : SessionId) (r r' : Registry) : Prop where
  get? : r'.get? k = none
  lookupPrimary : ∀ channel, r'.lookupPrimary channel ≠ some k
  lookupSecondary : ∀ channel, r'.lookupSecondary channel ≠ some k
  sessionOf : ∀ player, r'.sessionOf player ≠ some k
  sessionForToken : ∀ resolve token, r'.sessionForToken resolve token ≠ some k
  session : ∃ s s', r.session? k = some s ∧ s.isClosed = false ∧
    r'.session? k = some s' ∧ s'.isClosed = true ∧ s'.queue.packets = [] ∧
    ∀ ref c, s.Binds ref → r.channel? ref = some c →
      ∃ c', r'.channel? ref = some c' ∧ c'.isOpen = false

/-- It makes no difference to lookups what the listener was told. -/
lemma Gone.scene {r' : Registry} (h : Gone k r r') : Gone k r r'.toTables.registry :=
  ⟨h.get?, h.lookupPrimary, h.lookupSecondary, h.sessionOf, h.sessionForToken, h.session⟩

end Registry

namespace Engine

open Registry (Gone Tells stage_outline_of_some stage_outline_of_none isSome_stage_outline)

variable {e : Engine} {setup : Setup} {k : SessionId} {reason : CloseReason} {p : Packet}
  {ids : List SessionId} {op : Operation} {n : ℕ} {active : List SessionId}
  {calls : List (SessionId × CloseReason)} {call : SessionId × CloseReason}

lemma isSome_of_mem_overflow (hmem : call ∈ e.overflow p k) :
    (e.registry.session? call.1).isSome = true := by
  unfold overflow at hmem
  cases hk : e.registry.session? k with
  | none => simp [Registry.enqueue, hk] at hmem
  | some s =>
    split at hmem
    · rw [List.mem_singleton.1 hmem, hk]
      rfl
    · cases hmem

lemma isSome_of_mem_overflows (hmem : call ∈ overflows p ids e) :
    (e.registry.session? call.1).isSome = true := by
  induction ids generalizing e with
  | nil => cases hmem
  | cons k ids ih =>
    rcases List.mem_append.1 hmem with hnow | hlater
    · exact isSome_of_mem_overflow hnow
    · have hthen := ih hlater
      rwa [← isSome_stage_outline, outline_offer, Outline.isSome_stage_closeAll,
        isSome_stage_outline] at hthen

lemma isSome_of_mem_attempt (hmem : call ∈ e.attempt setup k) :
    (e.registry.session? call.1).isSome = true := by
  cases hk : e.registry.session? k with
  | none => simp [attempt, writeOnce, hk, closing] at hmem
  | some s =>
    unfold attempt closing at hmem
    split at hmem
    · rw [List.mem_singleton.1 hmem, hk]
      rfl
    · obtain ⟨f, -, rfl⟩ := List.mem_map.1 (Option.toList_map .. ▸ hmem)
      rw [hk]
      rfl
    · cases hmem

/-- Only sessions that there are get closed. -/
lemma isSome_of_mem_closings (hmem : call ∈ e.closings setup op) :
    (e.registry.outline.stage call.1).isSome = true := by
  rw [isSome_stage_outline]
  unfold closings at hmem
  split at hmem
  · split_ifs at hmem with hk
    · rwa [List.mem_singleton.1 hmem]
    · cases hmem
  · split at hmem
    · cases hmem
    · exact isSome_of_mem_overflows (e := { e with nextPacketId := e.nextPacketId + 1 }) hmem
  · exact isSome_of_mem_overflow hmem
  · exact isSome_of_mem_attempt hmem
  · cases hmem

/-- The session that an operation makes active. -/
def activations (e : Engine) : Operation → List SessionId
  | .registry (.activate k) => if (e.registry.activate k).1 then [k] else []
  | _ => []

lemma recorded_operate (h : e.registry.outline.Recorded active calls) (hn : e.Named n)
    (setup : Setup) (op : Operation) (hroom : op.opens = true → n + 1 < UInt64.size) :
    (e.operate setup op).registry.outline.Recorded
      (active ++ e.activations op) (calls ++ e.closings setup op) := by
  have hmore : ∀ call ∈ e.closings setup op, (e.registry.outline.stage call.1).isSome = true :=
    fun _ hmem => isSome_of_mem_closings hmem
  rw [outline_operate]
  split
  · rename_i primary
    have hnone := stage_outline_of_none (hn.fresh (hroom rfl))
    simpa [activations, closings] using h.create hnone
  · rename_i k
    have hcalls : e.closings setup (.registry (.activate k)) = [] := rfl
    have hmade : e.activations (.registry (.activate k))
        = if (e.registry.activate k).1 then [k] else [] := rfl
    rw [hcalls, hmade, List.append_nil]
    simpa only [(Registry.outline_activate e.registry k).2] using h.activate k
  · rename_i hcreate hactivate
    have hnone : e.activations op = [] := by
      unfold activations
      split
      · exact absurd rfl (hactivate _)
      · rfl
    rw [hnone, List.append_nil]
    exact h.closeAll hmore

/-- There is room for the name that the last operation gives out. -/
lemma room_of_concat {ops : List Operation}
    (hcount : (ops ++ [op]).countP Operation.opens < UInt64.size) :
    ops.countP Operation.opens < UInt64.size ∧
      (op.opens = true → ops.countP Operation.opens + 1 < UInt64.size) := by
  rw [List.countP_append, List.countP_singleton] at hcount
  refine ⟨by omega, fun hopens => ?_⟩
  rwa [if_pos hopens] at hcount

lemma named_proceed {queueCapacity : ℕ} {channels : Array Channel} {ops : List Operation}
    (hstart : e.registry = .ofChannels queueCapacity channels) (setup : Setup)
    (hcount : ops.countP Operation.opens < UInt64.size) :
    (e.proceed setup ops).Named (ops.countP Operation.opens) := by
  have hn : (e.proceed setup ops).Named (0 + ops.countP Operation.opens) :=
    (named_ofChannels hstart).proceed setup (by omega)
  rwa [Nat.zero_add] at hn

/-- With every operation, sessions are recorded on. -/
lemma recorded_proceed {queueCapacity : ℕ} {channels : Array Channel} {ops : List Operation}
    (hstart : e.registry = .ofChannels queueCapacity channels) (setup : Setup)
    (hcount : ops.countP Operation.opens < UInt64.size) :
    (e.proceed setup ops).registry.outline.Recorded (gather (operate setup) activations e ops)
      (gather (operate setup) (closings setup) e ops) := by
  induction ops using List.reverseRecOn with
  | nil =>
    show e.registry.outline.Recorded [] []
    rw [hstart]
    exact ⟨fun _ => iff_of_false List.not_mem_nil Bool.false_ne_true,
      fun _ => iff_of_false nofun nofun, fun _ => rfl, nofun, .nil⟩
  | append_singleton ops op ih =>
    obtain ⟨hbefore, hroom⟩ := room_of_concat hcount
    have hrun : e.proceed setup (ops ++ [op]) = (e.proceed setup ops).operate setup op :=
      List.foldl_concat ..
    rw [gather_concat, gather_concat, hrun]
    exact recorded_operate (ih hbefore) (named_proceed hstart setup hbefore) setup op hroom

/-- An operation leaves a session at its stage, or takes it to the next one, or opens it. -/
lemma stage_operate (hn : e.Named n) (setup : Setup) (op : Operation)
    (hroom : op.opens = true → n + 1 < UInt64.size) (k : SessionId) :
    (e.operate setup op).registry.outline.stage k = e.registry.outline.stage k ∨
      (e.registry.outline.stage k = none ∧
        (e.operate setup op).registry.outline.stage k = some .fresh) ∨
      ∃ before after, e.registry.outline.stage k = some before ∧
        (e.operate setup op).registry.outline.stage k = some after ∧ before.Step after := by
  rw [outline_operate]
  split
  · rw [Outline.stage_create]
    split_ifs with hk
    · rw [hk]
      exact .inr (.inl ⟨stage_outline_of_none (hn.fresh (hroom rfl)), rfl⟩)
    · exact .inl rfl
  · rw [Outline.stage_activate]
    split_ifs with hk
    · rw [hk.1]
      exact .inr (.inr ⟨_, _, hk.2, rfl, .activate⟩)
    · exact .inl rfl
  · rcases Outline.stage_closeAll e.registry.outline (e.closings setup op) k with
      hsame | ⟨hopen, hclosed⟩
    · exact .inl hsame
    · rcases Outline.isOpen_iff.1 hopen with hstage | hstage
      · exact .inr (.inr ⟨_, _, hstage, hclosed, .close_fresh⟩)
      · exact .inr (.inr ⟨_, _, hstage, hclosed, .close_active⟩)

lemma state_operate (hn : e.Named n) (setup : Setup) (op : Operation)
    (hroom : op.opens = true → n + 1 < UInt64.size) {s : Session}
    (hs : e.registry.session? k = some s) :
    ∃ s', (e.operate setup op).registry.session? k = some s' ∧
      (s'.state = s.state ∨ s.state.Step s'.state) := by
  have hstage := stage_outline_of_some hs
  rcases stage_operate hn setup op hroom k with
    hsame | ⟨hnone, -⟩ | ⟨before, after, hbefore, hafter, hstep⟩
  · obtain ⟨s', hs', hstate⟩ := Option.map_eq_some_iff.1 (hsame.trans hstage)
    exact ⟨s', hs', .inl hstate⟩
  · exact absurd (hstage.symm.trans hnone) nofun
  · obtain rfl := Option.some.inj (hstage.symm.trans hbefore)
    obtain ⟨s', hs', rfl⟩ := Option.map_eq_some_iff.1 hafter
    exact ⟨s', hs', .inr hstep⟩

lemma state_operate_of_none (hn : e.Named n) (setup : Setup) (op : Operation)
    (hroom : op.opens = true → n + 1 < UInt64.size) (hnone : e.registry.session? k = none)
    {s' : Session} (hs' : (e.operate setup op).registry.session? k = some s') :
    s'.state = .fresh := by
  have hstage := stage_outline_of_none hnone
  have hstage' := stage_outline_of_some hs'
  rcases stage_operate hn setup op hroom k with hsame | ⟨-, hfresh⟩ | ⟨_, _, hbefore, -⟩
  · exact absurd (hstage'.symm.trans (hsame.trans hstage)) nofun
  · exact Option.some.inj (hstage'.symm.trans hfresh)
  · exact absurd (hbefore.symm.trans hstage) nofun

/-- The engine before and after each offer when a packet is offered to some sessions one after the
other. -/
def offerParts (p : Packet) : List SessionId → Engine → List (Engine × Engine)
  | [], _ => []
  | k :: ids, e => (e, (e.offer p k).2) :: offerParts p ids (e.offer p k).2

/-- The engine before and after each part of an operation: a submission is done for one recipient
after the other, and everything else at once. -/
def parts (setup : Setup) (e : Engine) : Operation → List (Engine × Engine)
  | .submit p =>
    match e.frame setup p with
    | .error _ => []
    | .ok frame =>
      offerParts (e.finished p frame) p.recipients { e with nextPacketId := e.nextPacketId + 1 }
  | op => [(e, e.operate setup op)]

/-- A session whose closing is noticed for the first time was open before. -/
lemma open_of_noticed (h : e.registry.outline.Recorded active calls) (hn : e.Named n)
    (setup : Setup) (op : Operation) (hroom : op.opens = true → n + 1 < UInt64.size)
    (hnew : (k, reason) ∈ (e.operate setup op).registry.notices)
    (hold : (k, reason) ∉ e.registry.notices) :
    ∃ s, e.registry.session? k = some s ∧ s.isClosed = false := by
  have h' := recorded_operate h hn setup op hroom
  have hclosed' := h'.closed_of_mem_notices hnew
  have hclosed : e.registry.outline.stage k ≠ some .closed := by
    -- otherwise it was noticed before, and only once
    intro hclosed
    have hfilter := h'.notices k
    rw [h.take_filter_append hclosed, ← h.notices k] at hfilter
    have hmem : (k, reason) ∈ e.registry.notices.filter (·.1 = k) :=
      hfilter ▸ List.mem_filter.2 ⟨hnew, decide_eq_true rfl⟩
    exact hold (List.mem_of_mem_filter hmem)
  rcases stage_operate hn setup op hroom k with hsame | ⟨-, hfresh⟩ | ⟨_, _, hbefore, -⟩
  · exact absurd (hsame.symm.trans hclosed') hclosed
  · exact absurd (hfresh.symm.trans hclosed') nofun
  · obtain ⟨s, hs, -⟩ := Option.map_eq_some_iff.1 hbefore
    refine ⟨s, hs, decide_eq_false fun hstate => hclosed ?_⟩
    rw [stage_outline_of_some hs, hstate]

/-- When it is noticed that a session was closed, it is gone. -/
lemma gone_operate (h : e.registry.outline.Recorded active calls) (hn : e.Named n) (setup : Setup)
    (op : Operation) (hroom : op.opens = true → n + 1 < UInt64.size)
    (hnew : (k, reason) ∈ (e.operate setup op).registry.notices)
    (hold : (k, reason) ∉ e.registry.notices) :
    Gone k e.registry (e.operate setup op).registry := by
  have h' := recorded_operate h hn setup op hroom
  have hclosed' := h'.closed_of_mem_notices hnew
  have hget := Registry.get?_of_closed h' hclosed'
  obtain ⟨s, hs, hopen⟩ := open_of_noticed h hn setup op hroom hnew hold
  obtain ⟨s', hs', hstate⟩ := Option.map_eq_some_iff.1 hclosed'
  have hover : s'.isClosed = true := decide_eq_true hstate
  obtain ⟨hempty, hshut⟩ := closes_operate hn setup op hroom hs hopen hs' hover
  exact {
    get? := hget
    lookupPrimary := fun _ => Registry.bind_get?_ne hget _
    lookupSecondary := fun _ => Registry.bind_get?_ne hget _
    sessionOf := fun _ => Registry.bind_get?_ne hget _
    sessionForToken := by
      intro resolve token hfound
      obtain ⟨player, -, hplayer⟩ := Option.bind_eq_some_iff.1 hfound
      exact Registry.bind_get?_ne hget _ hplayer
    session := ⟨s, s', hs, hopen, hs', hover, hempty, hshut⟩ }

/-- The listener is told between two engines that a session was closed.  The session is gone for
what the listener finds then, and it stays gone. -/
structure Notices (k : SessionId) (reason : CloseReason) (part : Engine × Engine) : Prop where
  unnoticed : (k, reason) ∉ part.1.registry.notices
  notices_eq : part.2.registry.notices = part.1.registry.notices ++ [(k, reason)]
  found : ∃ scene, part.2.registry.scenes = part.1.registry.scenes ++ [scene] ∧
    Gone k part.1.registry scene.registry
  gone : Gone k part.1.registry part.2.registry

/-- If the listener is told in a step, the session is gone for it as it is after the step. -/
lemma notices_of_tells {e' : Engine} (htells : Tells e.registry e'.registry)
    (hnew : (k, reason) ∈ e'.registry.notices) (hold : (k, reason) ∉ e.registry.notices)
    (hgone : Gone k e.registry e'.registry) : Notices k reason (e, e') := by
  cases htells with
  | nothing told_eq =>
    have hnotices : e'.registry.notices = e.registry.notices := congrArg Prod.fst told_eq
    exact absurd (hnotices ▸ hnew) hold
  | once id why told_eq =>
    obtain ⟨hnotices, hscenes⟩ := Prod.mk.inj told_eq
    have hsame : (k, reason) = (id, why) := by
      rw [hnotices] at hnew
      exact List.mem_singleton.1 ((List.mem_append.1 hnew).resolve_left hold)
    obtain ⟨rfl, rfl⟩ := Prod.mk.inj hsame
    exact ⟨hold, hnotices, ⟨_, hscenes, hgone.scene⟩, hgone⟩

lemma notices_offerParts (h : e.registry.outline.Recorded active calls) (hn : e.Named n)
    (setup : Setup) (hnew : (k, reason) ∈ (offerAll p ids e).2.registry.notices)
    (hold : (k, reason) ∉ e.registry.notices) :
    ∃ part ∈ offerParts p ids e, Notices k reason part := by
  induction ids generalizing e active calls n with
  | nil => exact absurd hnew hold
  | cons id ids ih =>
    have hroom : (Operation.offer p id).opens = true → n + 1 < UInt64.size := nofun
    by_cases hnow : (k, reason) ∈ (e.offer p id).2.registry.notices
    · have hgone := gone_operate h hn setup (.offer p id) hroom hnow hold
      exact ⟨_, List.mem_cons_self, notices_of_tells (tells_offer e p id) hnow hold hgone⟩
    · have hrest := ih (recorded_operate h hn setup (.offer p id) hroom)
        (hn.operate setup (.offer p id) hroom) hnew hnow
      exact hrest.imp fun part => And.imp_left (List.mem_cons_of_mem _)

/-- A session that is noticed was closed by one part of the operation. -/
lemma notices_parts (h : e.registry.outline.Recorded active calls) (hn : e.Named n)
    (setup : Setup) (op : Operation) (hroom : op.opens = true → n + 1 < UInt64.size)
    (hnew : (k, reason) ∈ (e.operate setup op).registry.notices)
    (hold : (k, reason) ∉ e.registry.notices) :
    ∃ part ∈ e.parts setup op, Notices k reason part := by
  unfold parts
  split
  · rename_i p
    rw [operate] at hnew
    cases hf : e.frame setup p with
    | error err =>
      rw [submit_of_frame_error hf] at hnew
      exact absurd hnew hold
    | ok frame =>
      rw [submit, hf] at hnew
      exact notices_offerParts (e := { e with nextPacketId := e.nextPacketId + 1 }) h
        ⟨hn.keyed, hn.numbered⟩ setup hnew hold
  · rename_i hop
    have hgone := gone_operate h hn setup op hroom hnew hold
    exact ⟨_, List.mem_singleton_self _,
      notices_of_tells (tells_operate setup e hop) hnew hold hgone⟩

/-- **A session is closed once.**  Sessions are opened on any channels, and anything is done, by
however many callers, in any order and as often as they like.  An operation leaves a session at its
stage or takes it to the next one, and a new session is fresh.  Whoever makes a session active is
told so, which happens once at most, and no more when a call to close it was made.

Such calls are made by the application, and by the engine itself when a queue is full, a last packet
was written or a write has failed.  Whoever tries to close a session is told that it was closed by
that if no call was made for it before, and otherwise nothing changes.  So the sessions that are
closed are those for which calls were made, and each was noticed once, with the reason of the first
call.

The listener found something each time it was told, and that is before a submission goes on to its
next recipient.  When it was told of a session, what it found was this: no lookup led to the session
any more, it had no packets, and every channel that it had had was closed. -/
theorem closed_once (setup : Setup) (e : Engine) (queueCapacity : ℕ) (channels : Array Channel)
    (ops : List Operation) (op : Operation)
    (hstart : e.registry = .ofChannels queueCapacity channels)
    (hcount : (ops ++ [op]).countP Operation.opens < UInt64.size) :
    let e₁ := e.proceed setup ops
    let e₂ := e₁.operate setup op
    let active := gather (operate setup) activations e ops
    let calls := gather (operate setup) (closings setup) e ops
    (∀ k s, e₁.registry.session? k = some s → ∃ s₂, e₂.registry.session? k = some s₂ ∧
        (s₂.state = s.state ∨ s.state.Step s₂.state)) ∧
      (∀ k s₂, e₁.registry.session? k = none → e₂.registry.session? k = some s₂ →
        s₂.state = .fresh) ∧
      active.Nodup ∧
      (∀ k reason, (k, reason) ∈ calls → (e₁.registry.activate k).1 = false) ∧
      (∀ k s reason, e₁.registry.session? k = some s →
        ((e₁.registry.close k reason).1 = true ↔ ∀ earlier, (k, earlier) ∉ calls)) ∧
      (∀ k reason, (e₁.registry.close k reason).1 = false →
        (e₁.registry.close k reason).2 = e₁.registry) ∧
      (∀ k, (∃ s, e₁.registry.session? k = some s ∧ s.isClosed = true) ↔
        ∃ reason, (k, reason) ∈ calls) ∧
      (∀ k, e₁.registry.notices.filter (·.1 = k) = (calls.filter (·.1 = k)).take 1) ∧
      e₁.registry.scenes.length = e₁.registry.notices.length ∧
      ∀ k reason, (k, reason) ∈ e₂.registry.notices → (k, reason) ∉ e₁.registry.notices →
        ∃ part ∈ e₁.parts setup op, Notices k reason part := by
  intro e₁ e₂ active calls
  obtain ⟨hbefore, hroom⟩ := room_of_concat hcount
  have hn : e₁.Named (ops.countP Operation.opens) := named_proceed hstart setup hbefore
  have h : e₁.registry.outline.Recorded active calls := recorded_proceed hstart setup hbefore
  have hmatched : e₁.registry.Matched := matched_proceed (by rw [hstart]; rfl) setup ops
  exact ⟨fun k s => state_operate hn setup op hroom,
    fun k s₂ hnone => state_operate_of_none hn setup op hroom hnone, h.nodup,
    fun k reason => Registry.fst_activate_of_mem_calls h,
    fun k s reason hs => Registry.fst_close_iff h hs reason,
    fun k reason => Registry.snd_close_of_false, Registry.isClosed_iff h, h.notices, hmatched,
    fun k reason => notices_parts h hn setup op hroom⟩

/-- A session that was made active is closed because its queue is full.  The application, which
tries to make it active again and to close it, comes too late.  Then the last packet of another
session, which is still fresh, is written. -/
theorem closed_once_of_full_queue :
    let channel (id : UInt64) : Channel := .memory { id := ⟨id⟩, transport := .stream }
    let packet (k : UInt64) (last : Bool) : Packet :=
      { data := [5], transport := .stream, last, recipients := [⟨k⟩] }
    let setup : Setup :=
      { codec := .plain, resolve := fun token => token.head?.map fun b => ⟨b.toUInt64⟩ }
    let channels : Array Channel := #[channel 1, channel 2]
    let e : Engine := { start 4 1 {} with registry := .ofChannels 1 channels }
    let ops : List Operation := [.registry (.create ⟨0⟩), .registry (.activate ⟨1⟩),
      .submit (packet 1 false), .submit (packet 1 false), .registry (.activate ⟨1⟩),
      .registry (.close ⟨1⟩ .idle), .registry (.create ⟨1⟩), .submit (packet 2 true)]
    let e₁ := e.proceed setup ops
    let e₂ := e₁.operate setup (.write ⟨2⟩)
    (e₁.registry.activate ⟨1⟩).1 = false ∧
      (e₁.registry.close ⟨1⟩ .shutdown).1 = false ∧
      (e₁.registry.close ⟨1⟩ .shutdown).2 = e₁.registry ∧
      e₁.registry.notices.filter (·.1 = ⟨1⟩) = [(⟨1⟩, .queueOverflow)] ∧
      e₁.registry.scenes.length = e₁.registry.notices.length ∧
      (e₁.registry.close ⟨2⟩ .shutdown).1 = true ∧
      (∃ s₂, e₂.registry.session? ⟨2⟩ = some s₂ ∧
        (s₂.state = .fresh ∨ Lifecycle.Step .fresh s₂.state)) ∧
      Notices ⟨2⟩ .lastPacket (e₁, e₂) := by
  intro channel packet setup channels e ops
  have hcalls : gather (operate setup) (closings setup) e ops
      = [(⟨1⟩, .queueOverflow), (⟨1⟩, .idle)] := by
    decide +kernel
  obtain ⟨s₁, hs₁⟩ : ∃ s, (e.proceed setup ops).registry.session? ⟨1⟩ = some s :=
    Option.isSome_iff_exists.1 (by decide +kernel)
  have hfresh : ((e.proceed setup ops).registry.session? ⟨2⟩).map (·.state) = some .fresh := by
    decide +kernel
  obtain ⟨s₂, hs₂, hstate₂⟩ := Option.map_eq_some_iff.1 hfresh
  have hunnoticed : (⟨2⟩, CloseReason.lastPacket) ∉ (e.proceed setup ops).registry.notices := by
    decide +kernel
  have hnoticed : (⟨2⟩, CloseReason.lastPacket) ∈
      ((e.proceed setup ops).operate setup (.write ⟨2⟩)).registry.notices := by
    decide +kernel
  obtain ⟨hstep, -, -, hinactive, hclose, hsame, -, hnotices, hmatched, hparts⟩ :=
    closed_once setup e 1 channels ops (.write ⟨2⟩) rfl (by decide)
  rw [hcalls] at hinactive hclose hnotices
  have hlate : ((e.proceed setup ops).registry.close ⟨1⟩ .shutdown).1 = false :=
    Bool.eq_false_iff.2 fun htrue => (hclose ⟨1⟩ s₁ .shutdown hs₁).1 htrue .idle (by simp)
  refine ⟨hinactive ⟨1⟩ .idle (by simp), hlate, hsame ⟨1⟩ .shutdown hlate,
    (hnotices ⟨1⟩).trans (by decide), hmatched, (hclose ⟨2⟩ s₂ .shutdown hs₂).2 (by simp),
    hstate₂ ▸ hstep ⟨2⟩ s₂ hs₂, ?_⟩
  obtain ⟨part, hmem, hnotice⟩ := hparts ⟨2⟩ .lastPacket hnoticed hunnoticed
  rwa [List.mem_singleton.1 hmem] at hnotice

end Engine

end SessionServer
