/-
# What the writer does to one session

Whatever is done for one session leaves the others alone.  What an attempt to write does to the
session itself is an attempt on its queue, unless the session closes.

Main results: everything done for a session concerns it only (`touches_offer`,
`touches_writeOnce`), and what an attempt to write (`writeOnce_cases`, `writeHead_cases`) and
offering a packet (`offer_eq`) do to it.
-/
import SessionServer.Proofs.Outbound.Queue
import SessionServer.Proofs.Registry.Core

namespace SessionServer

namespace Registry

/-- The channel that carries a packet is one of the session's. -/
lemma binds_of_channelFor {r : Registry} {s : Session} {ref : ChannelRef} {t : Transport}
    (h : r.channelFor s t = some ref) : s.Binds ref := by
  unfold channelFor at h
  split_ifs at h
  · exact .inl (Option.some.inj h)
  · exact .inr (Option.filter_eq_some_iff.1 h).1

lemma carries_of_channelFor {r : Registry} {s : Session} {ref : ChannelRef} {t : Transport}
    (h : r.channelFor s t = some ref) : r.carries t ref = true := by
  unfold channelFor at h
  split_ifs at h with hprimary
  · exact Option.some.inj h ▸ hprimary
  · exact (Option.filter_eq_some_iff.1 h).2

lemma channelFor_of_carries_primary {r : Registry} {s : Session} {t : Transport}
    (h : r.carries t s.primary = true) : r.channelFor s t = some s.primary := if_pos h

end Registry

/-- The channel ends a write with a fault that is not a wait. -/
def Channel.Breaks (c : Channel) (data : Bytes) : Prop :=
  ∃ f, (c.tryWrite data).1 = .error f ∧ f.kind ≠ .wouldBlock

namespace Engine

open Registry (Alike Touches)

variable {e : Engine} {id k : SessionId} {s : Session} {head p : Packet} {rest : List Packet}
  {ref : ChannelRef} {c : Channel} {setup : Setup}

/-! ## Tickets and counters -/

lemma alike_ticket (e : Engine) (k : SessionId) :
    Alike e.registry (e.modifySession k fun s => { s with ticket := true }).registry :=
  Registry.alike_modifySession (f := fun s => { s with ticket := true }) (fun _ => rfl) e.registry k

lemma alike_schedule (e : Engine) (k : SessionId) :
    Alike e.registry (e.schedule k).2.registry := by
  unfold schedule
  cases e.registry.session? k with
  | none => exact Alike.refl e.registry
  | some s =>
    dsimp only
    split_ifs
    · exact Alike.refl e.registry
    · exact alike_ticket e k

lemma alike_scheduleRest (e : Engine) (k : SessionId) (rest : List Packet) :
    Alike e.registry (e.scheduleRest k rest).registry := by
  unfold scheduleRest
  split_ifs
  · exact Alike.refl e.registry
  · exact alike_schedule e k

lemma alike_park (setup : Setup) (e : Engine) (k : SessionId) (ref : ChannelRef) :
    Alike e.registry (e.park setup k ref).registry := by
  unfold park
  cases setup.blocked with
  | retry => exact alike_schedule e k
  | wait =>
    dsimp only
    split_ifs
    · exact alike_ticket e k
    · exact Alike.refl e.registry

/-! ## The first packet -/

/-- The sessions after the first packet of one of them was taken away. -/
lemma core_popHead (e : Engine) (k id : SessionId) :
    (e.popHead k).registry.core id
      = if id = k then (e.registry.core id).map fun s => { s with queue := s.queue.pop }
        else e.registry.core id :=
  Registry.core_modifySession (g := fun s => { s with queue := s.queue.pop }) (fun _ => rfl)
    e.registry k id

lemma touches_popHead (e : Engine) (k : SessionId) :
    Touches k e.registry (e.popHead k).registry :=
  Registry.touches_of_map (core_popHead e k) (fun _ => rfl) fun s => s.keeps_withQueue s.queue.pop

lemma alike_dropHead (e : Engine) (k : SessionId) (rest : List Packet) :
    Alike (e.popHead k).registry (e.dropHead k rest).registry := by
  unfold dropHead
  refine Alike.trans ?_ (alike_scheduleRest _ k rest)
  exact Registry.alike_modifySession (f := (·.recordDropped 1)) (fun _ => rfl)
    (e.popHead k).registry k

lemma alike_recordHead (e : Engine) (k : SessionId) (n : ℕ) :
    Alike (e.popHead k).registry ((e.popHead k).modifySession k fun s =>
      (s.recordWrite (e.popHead k).registry.clock n).recordWrittenPacket).registry :=
  Registry.alike_modifySession
    (f := fun s => (s.recordWrite (e.popHead k).registry.clock n).recordWrittenPacket)
    (fun _ => rfl) (e.popHead k).registry k

lemma alike_finishHead (e : Engine) (k : SessionId) (rest : List Packet) (n : ℕ)
    (hlast : head.last = false) :
    Alike (e.popHead k).registry (e.finishHead k head rest n).2.registry := by
  unfold finishHead
  simp only [hlast, Bool.false_eq_true, if_false]
  refine Alike.trans ?_ (alike_scheduleRest _ k rest)
  exact alike_recordHead e k n

lemma over_finishHead (e : Engine) (k : SessionId) (rest : List Packet) (n : ℕ)
    (hlast : head.last = true) : (e.finishHead k head rest n).2.registry.Over k := by
  unfold finishHead
  simp only [hlast, if_true]
  exact Registry.over_close _ k .lastPacket

lemma touches_finishHead (e : Engine) (k : SessionId) (head : Packet) (rest : List Packet)
    (n : ℕ) : Touches k e.registry (e.finishHead k head rest n).2.registry := by
  cases hlast : head.last with
  | false => exact (touches_popHead e k).trans ((alike_finishHead e k rest n hlast).touches k)
  | true =>
    -- the packet was the last one, and the session closes behind it
    unfold finishHead
    simp only [hlast, if_true]
    refine (touches_popHead e k).trans (Touches.trans ?_ (Registry.touches_close _ k .lastPacket))
    exact (alike_recordHead e k n).touches k

lemma core_splitHead (e : Engine) (k : SessionId) (head : Packet) (n : ℕ) (id : SessionId) :
    (e.splitHead k head n).2.registry.core id
      = if id = k
        then (e.registry.core id).map fun s =>
          { s with queue := s.queue.setFragment (some (head.pending.drop n)) }
        else e.registry.core id := by
  unfold splitHead
  rw [(alike_schedule _ k).core]
  exact Registry.core_modifySession
    (g := fun s => { s with queue := s.queue.setFragment (some (head.pending.drop n)) })
    (fun _ => rfl) e.registry k id

@[simp] lemma channel?_splitHead (e : Engine) (k : SessionId) (head : Packet) (n : ℕ)
    (ref : ChannelRef) :
    (e.splitHead k head n).2.registry.channel? ref = e.registry.channel? ref := by
  unfold splitHead
  rw [(alike_schedule _ k).channel]
  rfl

lemma touches_splitHead (e : Engine) (k : SessionId) (head : Packet) (n : ℕ) :
    Touches k e.registry (e.splitHead k head n).2.registry :=
  Registry.touches_of_map (core_splitHead e k head n) (channel?_splitHead e k head n)
    fun s => s.keeps_withQueue (s.queue.setFragment (some (head.pending.drop n)))

lemma over_failHead (e : Engine) (k : SessionId) (f : Fault) : (e.failHead k f).registry.Over k :=
  Registry.over_close _ k (.writeError f.message)

lemma touches_failHead (e : Engine) (k : SessionId) (f : Fault) :
    Touches k e.registry (e.failHead k f).registry :=
  Registry.touches_close _ k (.writeError f.message)

/-! ## One attempt to write -/

/-- The engine with a channel as a write has left it. -/
def wrote (e : Engine) (ref : ChannelRef) (c : Channel) : Engine :=
  { e with registry := e.registry.modifyChannel ref fun _ => c }

@[simp] lemma core_wrote (e : Engine) (ref : ChannelRef) (c : Channel) (id : SessionId) :
    (e.wrote ref c).registry.core id = e.registry.core id := rfl

lemma channel?_wrote (hc : e.registry.channel? ref = some c) (c' : Channel) :
    (e.wrote ref c').registry.channel? ref = some c' := by
  rw [wrote, Registry.channel?_modifyChannel, if_pos rfl, hc, Option.map_some]

lemma touches_wrote (hs : e.registry.core k = some s) (hb : s.Binds ref) (c : Channel) :
    Touches k e.registry (e.wrote ref c).registry :=
  Registry.touches_modifyChannel _ hs hb

lemma writeHead_of_ok {n : ℕ} {c' : Channel} (hw : c.tryWrite head.pending = (.ok n, c')) :
    e.writeHead setup k head rest ref c
      = if head.pending.length ≤ n then (e.wrote ref c').finishHead k head rest n
        else if n = 0 then (.blocked, (e.wrote ref c').park setup k ref)
        else (e.wrote ref c').splitHead k head n := by
  unfold writeHead
  rw [hw]
  rfl

lemma writeHead_of_error {f : Fault} {c' : Channel}
    (hw : c.tryWrite head.pending = (.error f, c')) :
    e.writeHead setup k head rest ref c
      = if f.kind = .wouldBlock then (.blocked, (e.wrote ref c').park setup k ref)
        else (.failed, (e.wrote ref c').failHead k f) := by
  unfold writeHead
  rw [hw]
  rfl

lemma touches_writeHead (setup : Setup) (hs : e.registry.core k = some s) (hb : s.Binds ref)
    (head : Packet) (rest : List Packet) (c : Channel) :
    Touches k e.registry (e.writeHead setup k head rest ref c).2.registry := by
  obtain ⟨result, c', hw⟩ : ∃ result c', c.tryWrite head.pending = (result, c') := ⟨_, _, rfl⟩
  have hwrote := touches_wrote hs hb c'
  have hpark := (alike_park setup (e.wrote ref c') k ref).touches k
  cases result with
  | error f =>
    rw [writeHead_of_error hw]
    split_ifs
    · exact hwrote.trans hpark
    · exact hwrote.trans (touches_failHead (e.wrote ref c') k f)
  | ok n =>
    rw [writeHead_of_ok hw]
    split_ifs
    · exact hwrote.trans (touches_finishHead (e.wrote ref c') k head rest n)
    · exact hwrote.trans hpark
    · exact hwrote.trans (touches_splitHead (e.wrote ref c') k head n)

/-- An attempt for a session that is not over is made on the channel of its first packet, if there
are such a packet and such a channel. -/
lemma writeOnce_cases (setup : Setup) (hs : e.registry.core k = some s)
    (hopen : s.isClosed = false) :
    (s.queue.packets = [] ∧ e.writeOnce setup k = (.idle, e)) ∨
      ∃ head rest, s.queue.packets = head :: rest ∧
        (((∀ ref c, e.registry.channelFor s head.transport = some ref →
            e.registry.channel? ref ≠ some c) ∧
          e.writeOnce setup k = (.dropped, e.dropHead k rest)) ∨
        ∃ ref c, e.registry.channelFor s head.transport = some ref ∧
          e.registry.channel? ref = some c ∧
          e.writeOnce setup k = e.writeHead setup k head rest ref c) := by
  obtain ⟨t, hk, rfl⟩ := Registry.core_eq_some_iff.1 hs
  have hclosed : t.isClosed = false := hopen
  cases hq : t.queue.packets with
  | nil =>
    refine .inl ⟨hq, ?_⟩
    simp only [writeOnce, hk, hclosed, hq, Bool.false_eq_true, if_false]
  | cons head rest =>
    refine .inr ⟨head, rest, hq, ?_⟩
    cases hfor : e.registry.channelFor t head.transport with
    | none =>
      refine .inl ⟨fun ref c href => absurd (hfor.symm.trans href) nofun, ?_⟩
      simp only [writeOnce, hk, hclosed, hq, hfor, Bool.false_eq_true, if_false]
    | some ref =>
      cases hc : e.registry.channel? ref with
      | none =>
        refine .inl ⟨fun ref' c href hsome => ?_, ?_⟩
        · obtain rfl := Option.some.inj (hfor.symm.trans href)
          exact absurd (hc.symm.trans hsome) nofun
        · simp only [writeOnce, hk, hclosed, hq, hfor, hc, Bool.false_eq_true, if_false]
      | some c =>
        refine .inr ⟨ref, c, hfor, hc, ?_⟩
        simp only [writeOnce, hk, hclosed, hq, hfor, hc, Bool.false_eq_true, if_false]

lemma touches_writeOnce (setup : Setup) (e : Engine) (k : SessionId) :
    Touches k e.registry (e.writeOnce setup k).2.registry := by
  cases hs : e.registry.core k with
  | none =>
    have hk : e.registry.session? k = none := Option.map_eq_none_iff.1 hs
    simp only [writeOnce, hk]
    exact Touches.refl k e.registry
  | some s =>
    cases hc : s.isClosed with
    | true =>
      obtain ⟨t, hk, rfl⟩ := Registry.core_eq_some_iff.1 hs
      have hclosed : t.isClosed = true := hc
      simp only [writeOnce, hk, hclosed, if_true]
      exact Touches.refl k e.registry
    | false =>
      rcases writeOnce_cases setup hs hc with
        ⟨-, hout⟩ | ⟨head, rest, -, ⟨-, hout⟩ | ⟨ref, c, hfor, -, hout⟩⟩
      · rw [hout]
        exact Touches.refl k e.registry
      · rw [hout]
        exact (touches_popHead e k).trans ((alike_dropHead e k rest).touches k)
      · rw [hout]
        exact touches_writeHead setup hs (Registry.binds_of_channelFor hfor) head rest c

/-- What is written to the channel of the first packet comes from the front of that packet, unless
the session closes, because the packet was the last one or because the write failed. -/
lemma writeHead_cases (setup : Setup) (hs : e.registry.core k = some s)
    (hq : s.queue.packets = head :: rest) (hc : e.registry.channel? ref = some c) :
    ((e.writeHead setup k head rest ref c).2.registry.Over k ∧
        (head.last = true ∨ c.Breaks head.pending)) ∨
      ∃ took queue c', s.queue.Attempt (e.writeHead setup k head rest ref c).1 took queue ∧
        (e.writeHead setup k head rest ref c).1 ≠ .dropped ∧
        (e.writeHead setup k head rest ref c).2.registry.core k = some { s with queue } ∧
        (∀ ref', (e.writeHead setup k head rest ref c).2.registry.channel? ref'
          = (e.wrote ref c').registry.channel? ref') ∧
        c'.transport = c.transport ∧ c'.written = c.written ++ took := by
  obtain ⟨result, c', hw⟩ : ∃ result c', c.tryWrite head.pending = (result, c') := ⟨_, _, rfl⟩
  have htransport : c'.transport = c.transport := by
    rw [← Channel.transport_tryWrite c head.pending, hw]
  cases result with
  | error f =>
    obtain rfl := Channel.tryWrite_error hw
    rw [writeHead_of_error hw]
    split_ifs with hwait
    · -- the channel has to wait
      refine .inr ⟨[], s.queue, c', .blocked hq, nofun, ?_, fun ref' => ?_, rfl, ?_⟩
      · rw [(alike_park setup _ k ref).core, core_wrote, hs]
      · exact (alike_park setup _ k ref).channel ref'
      · rw [List.append_nil]
    · exact .inl ⟨over_failHead _ k f, .inr ⟨f, congrArg Prod.fst hw, hwait⟩⟩
  | ok n =>
    obtain ⟨hn, haccepted⟩ := Channel.written_of_tryWrite_ok hw
    have hwritten : c'.written = c.written ++ head.pending.take n := by
      rw [Channel.written, haccepted, List.flatten_append, List.flatten_singleton]
      rfl
    rw [writeHead_of_ok hw]
    split_ifs with hall hnone
    · -- the channel took the whole packet
      obtain rfl := Nat.le_antisymm hn hall
      rw [List.take_length] at hwritten
      cases hlast : head.last with
      | true => exact .inl ⟨over_finishHead _ k rest _ hlast, .inl rfl⟩
      | false =>
        have hout : ((e.wrote ref c').finishHead k head rest head.pending.length).1
            = .complete head.pending.length := by
          simp only [finishHead, hlast, Bool.false_eq_true, if_false]
        refine .inr ⟨head.pending, s.queue.pop, c', ?_, ?_, ?_, ?_, htransport, hwritten⟩
        · rw [hout]
          exact .complete hq hlast
        · rw [hout]
          exact nofun
        · rw [(alike_finishHead _ k rest _ hlast).core, core_popHead, if_pos rfl, core_wrote, hs]
          rfl
        · exact (alike_finishHead _ k rest _ hlast).channel
    · -- the channel took nothing
      subst hnone
      rw [List.take_zero, List.append_nil] at hwritten
      refine .inr ⟨[], s.queue, c', .blocked hq, nofun, ?_, fun ref' => ?_, htransport, ?_⟩
      · rw [(alike_park setup _ k ref).core, core_wrote, hs]
      · exact (alike_park setup _ k ref).channel ref'
      · rw [hwritten, List.append_nil]
    · -- the channel took a part of the packet
      refine .inr ⟨head.pending.take n, s.queue.setFragment (some (head.pending.drop n)), c',
        .incomplete hq (Nat.lt_of_not_le hall), nofun, ?_, ?_, htransport, hwritten⟩
      · rw [core_splitHead, if_pos rfl, core_wrote, hs]
        rfl
      · exact channel?_splitHead _ k head n

/-! ## Offering a packet -/

/-- Offering a packet does what the registry makes of it, and closes the session if its queue was
full. -/
lemma offer_eq (e : Engine) (p : Packet) (k : SessionId) :
    (∃ refused, (e.registry.enqueue k p).1 = .error (.queueFull refused) ∧
        (e.offer p k).2
          = { e with registry := (e.registry.enqueue k p).2 }.close k .queueOverflow) ∨
      ((∀ refused, (e.registry.enqueue k p).1 ≠ .error (.queueFull refused)) ∧
        Alike (e.registry.enqueue k p).2 (e.offer p k).2.registry) := by
  unfold offer
  rcases e.registry.enqueue k p with ⟨answer, registry⟩
  rcases answer with (_ | refused | _) | (_ | _ | _ | _)
  case error.queueFull => exact .inl ⟨refused, rfl, rfl⟩
  case ok.queued | ok.droppedOldest =>
    exact .inr ⟨nofun, alike_schedule { e with registry } k⟩
  all_goals exact .inr ⟨nofun, Alike.refl registry⟩

lemma touches_offer (hr : e.registry.Keyed) (p : Packet) (k : SessionId) :
    Touches k e.registry (e.offer p k).2.registry := by
  have henqueue := Registry.touches_enqueue hr k p
  rcases offer_eq e p k with ⟨refused, -, hout⟩ | ⟨-, halike⟩
  · rw [hout]
    exact henqueue.trans (Registry.touches_close _ k .queueOverflow)
  · exact henqueue.trans (halike.touches k)

end Engine

end SessionServer
