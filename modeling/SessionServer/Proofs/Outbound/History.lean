/-
# What happens to the packets of one session

A run of an engine is any sequence of actions: packets are submitted, sessions are given packets
directly, attempts to write are made, and channels change in between as they like, so that the
next write takes as much as it likes.  Of all this, one session sees little.  Packets are offered
to its queue, and attempts to write are made for it; this is its *history*.  Its *lane* is what
waits in its queue and what has been written on its primary channel.

Main results: the lane of a session that is not over follows its history (`run_course`), and every
packet of a history was submitted or given to the session (`offered_mem_history`).
-/
import SessionServer.Proofs.Outbound.Writing

namespace SessionServer

/-! ## Runs -/

/-- What a channel does between two writes.  It may be ready to take more or less than before, or
nothing, but what it has taken stays taken. -/
structure Turn where
  apply : Channel → Channel
  written_apply : ∀ c, (apply c).written = c.written
  transport_apply : ∀ c, (apply c).transport = c.transport

/-- What is done to an engine. -/
inductive Action where
  /-- A packet is submitted. -/
  | submit (p : Packet)
  /-- A packet is queued for a session as it is. -/
  | enqueue (k : SessionId) (p : Packet)
  /-- An attempt to write is made for a session. -/
  | write (k : SessionId)
  /-- A channel changes. -/
  | turn (ref : ChannelRef) (t : Turn)

namespace Engine

/-- The engine after a packet was queued for a session as it is. -/
def give (e : Engine) (k : SessionId) (p : Packet) : Engine :=
  { e with registry := (e.registry.enqueue k p).2 }

/-- The engine after an action. -/
def act (setup : Setup) (e : Engine) : Action → Engine
  | .submit p => (e.submit setup p).2
  | .enqueue k p => e.give k p
  | .write k => (e.writeOnce setup k).2
  | .turn ref t => { e with registry := e.registry.modifyChannel ref t.apply }

/-- The engine after some actions. -/
def run (setup : Setup) (e : Engine) (actions : List Action) : Engine :=
  actions.foldl (act setup) e

end Engine

/-! ## Histories -/

/-- What happens to the packets of a session. -/
inductive Event where
  /-- A packet is offered to its queue. -/
  | offered (queue : PacketQueue) (p : Packet) (answer : Except SessionError Admission)
  /-- An attempt to write is made. -/
  | tried (outcome : WriteOutcome)

namespace Engine

/-- The event of offering a packet, if it is offered to the session. -/
def offering (e : Engine) (id k : SessionId) (p : Packet) : List Event :=
  if k = id then
    ((e.registry.session? id).map fun s => .offered s.queue p (e.registry.enqueue id p).1).toList
  else []

/-- The events of offering a packet to some sessions, one after the other. -/
def offerings (id : SessionId) (p : Packet) : List SessionId → Engine → List Event
  | [], _ => []
  | k :: ids, e => e.offering id k p ++ offerings id p ids (e.offer p k).2

/-- The packet that is offered when a packet with this frame is submitted. -/
def finished (e : Engine) (p : Packet) (frame : Bytes) : Packet :=
  { p with recipients := [] }.encoded e.nextPacketId frame

/-- What an action is for a session. -/
def eventsOf (setup : Setup) (id : SessionId) (e : Engine) : Action → List Event
  | .submit p =>
    match e.frame setup p with
    | .error _ => []
    | .ok frame =>
      offerings id (e.finished p frame) p.recipients { e with nextPacketId := e.nextPacketId + 1 }
  | .enqueue k p => e.offering id k p
  | .write k => if k = id then [.tried (e.writeOnce setup id).1] else []
  | .turn _ _ => []

/-- What a run is for a session. -/
def history (setup : Setup) (id : SessionId) : Engine → List Action → List Event
  | _, [] => []
  | e, action :: actions =>
    e.eventsOf setup id action ++ history setup id (e.act setup action) actions

end Engine

/-! ## Lanes -/

/-- What waits for a session and what has been written on its primary channel. -/
structure Lane where
  queue : PacketQueue
  written : Bytes

variable {t : Transport} {lane lane₁ lane₂ lane₃ : Lane} {events events' : List Event}

/-- What an event that leaves the session open does to its lane.  The transport is the one of the
primary channel, which takes the packets of this transport. -/
inductive Event.Moves (t : Transport) : Event → Lane → Lane → Prop
  | admitted {lane : Lane} {p : Packet} {admission : Admission} {queue : PacketQueue}
      (hpush : lane.queue.push p p.guarantee.overflowPolicy = (admission, queue))
      (hadmitted : admission ≠ .rejected) :
      Moves t (.offered lane.queue p (.ok admission)) lane { lane with queue }
  | refused {lane : Lane} {p : Packet} {err : SessionError} :
      Moves t (.offered lane.queue p (.error err)) lane lane
  | tried {lane : Lane} {outcome : WriteOutcome} {took written : Bytes} {queue : PacketQueue}
      (hattempt : lane.queue.Attempt outcome took queue)
      (htook : (∀ head ∈ lane.queue.packets.head?, head.transport = t) →
        outcome ≠ .dropped ∧ written = lane.written ++ took) :
      Moves t (.tried outcome) lane { queue, written }

/-- If the event brings a packet, it has the property. -/
def Event.Brings (P : Packet → Prop) : Event → Prop
  | .offered _ p _ => P p
  | .tried _ => True

/-- What holds of the packets that wait and of those that are brought holds of those that wait
then. -/
lemma Event.Moves.forall_mem {P : Packet → Prop} {event : Event}
    (hm : event.Moves t lane₁ lane₂) (hP : ∀ p f, P p → P (p.withFragment f))
    (hb : event.Brings P) (h : ∀ p ∈ lane₁.queue.packets, P p) :
    ∀ p ∈ lane₂.queue.packets, P p := by
  cases hm with
  | admitted hpush hadmitted => exact PacketQueue.forall_mem_push h hb hpush
  | refused => exact h
  | tried hattempt htook => exact hattempt.forall_mem hP h

/-- What a history that leaves the session open does to its lane. -/
inductive Course (t : Transport) : List Event → Lane → Lane → Prop
  | nil {lane : Lane} : Course t [] lane lane
  | cons {event : Event} {events : List Event} {lane₁ lane₂ lane₃ : Lane}
      (hmoves : event.Moves t lane₁ lane₂) (hcourse : Course t events lane₂ lane₃) :
      Course t (event :: events) lane₁ lane₃

lemma Course.single {event : Event} (h : event.Moves t lane₁ lane₂) :
    Course t [event] lane₁ lane₂ := .cons h .nil

lemma Course.append (h : Course t events lane₁ lane₂) (h' : Course t events' lane₂ lane₃) :
    Course t (events ++ events') lane₁ lane₃ := by
  induction h with
  | nil => exact h'
  | cons hmoves _ ih => exact .cons hmoves (ih h')

/-- What holds of the packets that wait and of all that are brought holds of those that wait
then. -/
lemma Course.forall_mem {P : Packet → Prop} (hc : Course t events lane₁ lane₂)
    (hP : ∀ p f, P p → P (p.withFragment f)) (hb : ∀ event ∈ events, event.Brings P)
    (h : ∀ p ∈ lane₁.queue.packets, P p) : ∀ p ∈ lane₂.queue.packets, P p := by
  induction hc with
  | nil => exact h
  | cons hmoves _ ih =>
    exact ih (fun event hmem => hb event (List.mem_cons_of_mem _ hmem))
      (hmoves.forall_mem hP (hb _ List.mem_cons_self) h)

namespace Engine

open Registry (Later)

variable {e e' : Engine} {id k : SessionId} {ref : ChannelRef} {p : Packet} {setup : Setup}
  {action : Action} {actions : List Action}

/-- The lane of a session that is not over and was opened on a channel of the given transport. -/
structure Shows (e : Engine) (id : SessionId) (ref : ChannelRef) (t : Transport) (lane : Lane) :
    Prop where
  session : ∃ s, e.registry.core id = some s ∧ s.isClosed = false ∧ s.primary = ref ∧
    s.queue = lane.queue
  channel : ∃ c, e.registry.channel? ref = some c ∧ c.transport = t ∧ c.written = lane.written

/-- The sessions are listed under their own names, and no other session writes to the channel. -/
structure Private (e : Engine) (id : SessionId) (ref : ChannelRef) : Prop where
  keyed : e.registry.Keyed
  owns : e.registry.Owns id ref

lemma Private.of_later (h : e.Private id ref) (hl : Later e.registry e'.registry) :
    e'.Private id ref :=
  ⟨h.keyed.of_later hl, h.owns.of_later hl⟩

/-- What is done for another session does not show. -/
lemma Shows.of_touches (h : e.Shows id ref t lane) (hp : e.Private id ref) (hne : k ≠ id)
    (ht : Registry.Touches k e.registry e'.registry) : e'.Shows id ref t lane where
  session := by
    rw [ht.core_of_ne id (Ne.symm hne)]
    exact h.session
  channel := by
    rw [ht.channel?_of_not_binds ref fun s hs => hp.owns k s hne hs]
    exact h.channel

/-- What neither cores nor channels show does not show. -/
lemma Shows.of_eq (h : e.Shows id ref t lane)
    (hcore : e'.registry.core id = e.registry.core id)
    (hchannel : e'.registry.channel? ref = e.registry.channel? ref) : e'.Shows id ref t lane := by
  refine ⟨?_, ?_⟩
  · rw [hcore]
    exact h.session
  · rw [hchannel]
    exact h.channel

/-- The session is over, or it is open and its lane has followed some events. -/
def Follows (e : Engine) (id : SessionId) (ref : ChannelRef) (t : Transport) (lane : Lane)
    (events : List Event) : Prop :=
  e.registry.Over id ∨ ∃ lane', Course t events lane lane' ∧ e.Shows id ref t lane'

/-- A lane that stays where it is has followed nothing. -/
lemma Shows.follows_nil (h : e.Shows id ref t lane) : e.Follows id ref t lane [] :=
  .inr ⟨lane, .nil, h⟩

/-- A session that is over stays over, and a lane that has followed some events goes on from where
they have brought it. -/
lemma Follows.append (h : e.Follows id ref t lane events) (hl : Later e.registry e'.registry)
    (h' : ∀ lane', e.Shows id ref t lane' → e'.Follows id ref t lane' events') :
    e'.Follows id ref t lane (events ++ events') := by
  rcases h with hover | ⟨lane₁, hcourse₁, hshows₁⟩
  · exact .inl (hover.of_later hl)
  · rcases h' lane₁ hshows₁ with hover | ⟨lane₂, hcourse₂, hshows₂⟩
    · exact .inl hover
    · exact .inr ⟨lane₂, hcourse₁.append hcourse₂, hshows₂⟩

/-! ## Offering a packet -/

lemma offering_of_ne (hne : k ≠ id) (p : Packet) : e.offering id k p = [] := if_neg hne

lemma offering_self {s : Session} (hs : e.registry.core id = some s) (p : Packet) :
    e.offering id id p = [.offered s.queue p (e.registry.enqueue id p).1] := by
  obtain ⟨t, ht, rfl⟩ := Registry.core_eq_some_iff.1 hs
  rw [offering, if_pos rfl, ht]
  rfl

/-- A packet that is queued goes through the lane, and one that is not leaves it alone. -/
lemma give_course (h : e.Shows id ref t lane) (hp : e.Private id ref) (p : Packet) :
    ∃ lane', Course t (e.offering id id p) lane lane' ∧
      (e.give id p).Shows id ref t lane' := by
  obtain ⟨s, hs, hopen, hprimary, hqueue⟩ := h.session
  have hchannel := Registry.channel?_enqueue e.registry id p ref
  rw [offering_self hs, hqueue]
  rcases Registry.enqueue_cases hp.keyed id p with
    ⟨⟨err, hout⟩, hsame⟩ | ⟨s', admission, queue, hs', -, hpush, hne, hout, hafter⟩
  · rw [hout]
    exact ⟨lane, .single .refused, h.of_eq (hsame id) hchannel⟩
  · obtain rfl := Option.some.inj (hs.symm.trans hs')
    rw [hout]
    refine ⟨{ lane with queue }, .single (.admitted (hqueue ▸ hpush) hne), ?_, ?_⟩
    · exact ⟨{ s with queue }, (hafter id).trans (if_pos rfl), hopen, hprimary, rfl⟩
    · simp only [give, hchannel]
      exact h.channel

lemma later_offer (hr : e.registry.Keyed) (p : Packet) (k : SessionId) :
    Later e.registry (e.offer p k).2.registry :=
  (touches_offer hr p k).later

/-- What offering a packet to a session is for that session, if its queue does not refuse it. -/
lemma offer_self_course (h : e.Shows id ref t lane) (hp : e.Private id ref)
    (hroom : ∀ refused, (e.registry.enqueue id p).1 ≠ .error (.queueFull refused)) :
    ∃ lane', Course t (e.offering id id p) lane lane' ∧ (e.offer p id).2.Shows id ref t lane' := by
  rcases offer_eq e p id with ⟨refused, hfull, -⟩ | ⟨-, halike⟩
  · exact absurd hfull (hroom refused)
  · obtain ⟨lane', hcourse, hshows⟩ := give_course h hp p
    exact ⟨lane', hcourse, hshows.of_eq (halike.core id) (halike.channel ref)⟩

/-- What offering a packet to a session is for one session. -/
lemma offer_course (h : e.Shows id ref t lane) (hp : e.Private id ref) (p : Packet)
    (k : SessionId) : (e.offer p k).2.Follows id ref t lane (e.offering id k p) := by
  by_cases hk : k = id
  · subst hk
    rcases offer_eq e p k with ⟨refused, -, hout⟩ | ⟨hroom, -⟩
    · rw [hout]
      exact .inl (Registry.over_close _ k .queueOverflow)
    · exact .inr (offer_self_course h hp hroom)
  · rw [offering_of_ne hk]
    exact (h.of_touches hp hk (touches_offer hp.keyed p k)).follows_nil

lemma later_offerAll (p : Packet) (ids : List SessionId) (hr : e.registry.Keyed) :
    Later e.registry (offerAll p ids e).2.registry := by
  induction ids generalizing e with
  | nil => exact Later.refl e.registry
  | cons k ids ih =>
    have hfirst := later_offer hr p k
    exact hfirst.trans (ih (hr.of_later hfirst))

/-- What offering a packet to some sessions is for one session. -/
lemma offerAll_course (h : e.Shows id ref t lane) (hp : e.Private id ref) (p : Packet)
    (ids : List SessionId) :
    (offerAll p ids e).2.Follows id ref t lane (offerings id p ids e) := by
  induction ids generalizing e lane with
  | nil => exact h.follows_nil
  | cons k ids ih =>
    have hp' := hp.of_later (later_offer hp.keyed p k)
    exact (offer_course h hp p k).append (later_offerAll p ids hp'.keyed)
      fun lane' hshows => ih hshows hp'

/-- Submitting a packet that can be framed is offering it to its recipients. -/
lemma submit_of_frame {frame : Bytes} (hf : e.frame setup p = .ok frame) :
    (e.submit setup p).2.registry
      = (offerAll (e.finished p frame) p.recipients
          { e with nextPacketId := e.nextPacketId + 1 }).2.registry := by
  unfold submit
  rw [hf]
  rfl

lemma submit_of_frame_error {err : FrameError} (hf : e.frame setup p = .error err) :
    e.submit setup p = (.error err, e) := by
  unfold submit
  rw [hf]

/-! ## Attempts to write -/

/-- What an attempt to write for a session is for that session, unless the session closes, because
the packet was its last one or because the channel of the packet broke. -/
lemma writeOnce_course (setup : Setup) (h : e.Shows id ref t lane) :
    ((e.writeOnce setup id).2.registry.Over id ∧
        ∃ head ∈ lane.queue.packets.head?, head.last = true ∨ head.transport ≠ t ∨
          ∃ c, e.registry.channel? ref = some c ∧ c.Breaks head.pending) ∨
      ∃ lane', Course t [.tried (e.writeOnce setup id).1] lane lane' ∧
        (e.writeOnce setup id).2.Shows id ref t lane' := by
  obtain ⟨s, hs, hopen, hprimary, hqueue⟩ := h.session
  obtain ⟨c, hc, htransport, hwritten⟩ := h.channel
  obtain ⟨queue, written⟩ := lane
  dsimp only at hqueue hwritten
  subst hqueue hwritten hprimary htransport
  have hcarries : ∀ t', e.registry.carries t' s.primary = true ↔ t' = c.transport := by
    intro t'
    rw [Registry.carries, hc, Option.any_some, decide_eq_true_eq, eq_comm]
  rcases writeOnce_cases setup hs hopen with
    ⟨hq, hout⟩ | ⟨head, rest, hq, ⟨hnone, hout⟩ | ⟨used, d, hfor, hd, hout⟩⟩
  · -- nothing waits
    rw [hout]
    exact .inr ⟨_, .single (.tried (.idle hq) fun _ => ⟨nofun, (List.append_nil _).symm⟩), h⟩
  · -- a packet for which there is no channel is not for the primary channel
    have hother : head.transport ≠ c.transport := fun heq =>
      hnone _ c (Registry.channelFor_of_carries_primary ((hcarries _).2 heq)) hc
    rw [hout]
    refine .inr ⟨⟨s.queue.pop, c.written⟩,
      .single (.tried (.dropped hq) fun hall => ?_), ⟨?_, ?_⟩⟩
    · exact absurd (hall head (by rw [hq]; rfl)) hother
    · refine ⟨{ s with queue := s.queue.pop }, ?_, hopen, rfl, rfl⟩
      rw [(alike_dropHead e id rest).core, core_popHead, if_pos rfl, hs]
      rfl
    · rw [(alike_dropHead e id rest).channel]
      exact ⟨c, hc, rfl, rfl⟩
  · -- a write is made, on the primary channel exactly if the packet is for its transport
    have hhead : head ∈ s.queue.packets.head? := by rw [hq]; rfl
    rw [hout]
    rcases writeHead_cases setup hs hq hd with
      ⟨hover, hcause⟩ | ⟨took, queue, d', hattempt, hdropped, hcore, hchannel, htransport, htook⟩
    · refine .inl ⟨hover, head, hhead, hcause.imp_right fun hbreaks => ?_⟩
      by_cases heq : head.transport = c.transport
      · have hused := Registry.channelFor_of_carries_primary ((hcarries _).2 heq)
        obtain rfl := Option.some.inj (hused.symm.trans hfor)
        exact .inr ⟨d, hd, hbreaks⟩
      · exact .inl heq
    · by_cases heq : head.transport = c.transport
      · have hused := Registry.channelFor_of_carries_primary ((hcarries _).2 heq)
        obtain rfl := Option.some.inj (hused.symm.trans hfor)
        obtain rfl := Option.some.inj (hc.symm.trans hd)
        refine .inr ⟨⟨queue, c.written ++ took⟩,
          .single (.tried hattempt fun _ => ⟨hdropped, rfl⟩), ⟨?_, ?_⟩⟩
        · exact ⟨{ s with queue }, hcore, hopen, rfl, rfl⟩
        · exact ⟨d', (hchannel _).trans (channel?_wrote hc d'), htransport, htook⟩
      · -- the secondary channel was written to
        have hne : s.primary ≠ used := by
          rintro rfl
          exact heq ((hcarries _).1 (Registry.carries_of_channelFor hfor))
        refine .inr ⟨⟨queue, c.written⟩,
          .single (.tried hattempt fun hall => absurd (hall head hhead) heq), ⟨?_, ?_⟩⟩
        · exact ⟨{ s with queue }, hcore, hopen, rfl, rfl⟩
        · refine ⟨c, ?_, rfl, rfl⟩
          rw [hchannel, wrote, Registry.channel?_modifyChannel, if_neg hne, hc]

/-! ## Whole runs -/

lemma later_act (hr : e.registry.Keyed) (setup : Setup) (action : Action) :
    Later e.registry (e.act setup action).registry := by
  cases action with
  | submit p =>
    rw [act]
    cases hf : e.frame setup p with
    | error err =>
      rw [submit_of_frame_error hf]
      exact Later.refl e.registry
    | ok frame =>
      rw [submit_of_frame hf]
      exact later_offerAll (e := { e with nextPacketId := e.nextPacketId + 1 }) _ p.recipients hr
  | enqueue k p => exact (Registry.touches_enqueue hr k p).later
  | write k => exact (touches_writeOnce setup e k).later
  | turn ref turn => exact Later.of_eq fun id => Registry.core_modifyChannel _ ref turn.apply id

lemma later_run (hr : e.registry.Keyed) (setup : Setup) (actions : List Action) :
    Later e.registry (e.run setup actions).registry := by
  induction actions generalizing e with
  | nil => exact Later.refl e.registry
  | cons action actions ih =>
    have hfirst := later_act hr setup action
    exact hfirst.trans (ih (hr.of_later hfirst))

/-- What a channel does between two writes does not show. -/
lemma Shows.turn (h : e.Shows id ref t lane) (ref' : ChannelRef) (turn : Turn) :
    (e.act setup (.turn ref' turn)).Shows id ref t lane where
  session := h.session
  channel := by
    obtain ⟨c, hc, htransport, hwritten⟩ := h.channel
    simp only [act, Registry.channel?_modifyChannel, hc]
    split_ifs
    · exact ⟨turn.apply c, rfl, (turn.transport_apply c).trans htransport,
        (turn.written_apply c).trans hwritten⟩
    · exact ⟨c, rfl, htransport, hwritten⟩

/-- What an action is for a session. -/
lemma act_course (h : e.Shows id ref t lane) (hp : e.Private id ref) (setup : Setup)
    (action : Action) :
    (e.act setup action).Follows id ref t lane (e.eventsOf setup id action) := by
  cases action with
  | submit p =>
    rw [act, eventsOf]
    cases hf : e.frame setup p with
    | error err =>
      rw [submit_of_frame_error hf]
      exact h.follows_nil
    | ok frame =>
      have hnext : Shows { e with nextPacketId := e.nextPacketId + 1 } id ref t lane :=
        ⟨h.session, h.channel⟩
      have hsame := submit_of_frame hf
      rcases offerAll_course hnext ⟨hp.keyed, hp.owns⟩ (e.finished p frame) p.recipients with
        hover | ⟨lane', hcourse, hshows⟩
      · left
        rw [hsame]
        exact hover
      · refine .inr ⟨lane', hcourse, hshows.of_eq ?_ ?_⟩ <;> rw [hsame]
  | enqueue k p =>
    by_cases hk : k = id
    · subst hk
      exact .inr (give_course h hp p)
    · have hother : (e.give k p).Shows id ref t lane :=
        h.of_touches hp hk (Registry.touches_enqueue hp.keyed k p)
      rw [eventsOf, offering_of_ne hk]
      exact hother.follows_nil
  | write k =>
    by_cases hk : k = id
    · subst hk
      rw [eventsOf, if_pos rfl]
      exact (writeOnce_course setup h).imp_left And.left
    · rw [eventsOf, if_neg hk]
      exact (h.of_touches hp hk (touches_writeOnce setup e k)).follows_nil
  | turn ref' turn => exact (h.turn ref' turn).follows_nil

/-- **The lane of a session follows its history**, in every run after which the session is not
over. -/
lemma run_course (h : e.Shows id ref t lane) (hp : e.Private id ref) (setup : Setup)
    (actions : List Action) :
    (e.run setup actions).Follows id ref t lane (history setup id e actions) := by
  -- the channel stays the session's own, which the induction carries along with the lane
  induction actions generalizing e lane with
  | nil => exact h.follows_nil
  | cons action actions ih =>
    have hp' := hp.of_later (later_act hp.keyed setup action)
    exact (act_course h hp setup action).append (later_run hp'.keyed setup actions)
      fun lane' hshows => ih hshows hp'

/-! ## Where packets come from -/

variable {queue : PacketQueue} {answer : Except SessionError Admission}

lemma eq_of_offered_mem_offering {p' : Packet} (h : .offered queue p' answer ∈ e.offering id k p) :
    k = id ∧ p' = p := by
  unfold offering at h
  split_ifs at h with hk
  · obtain ⟨s, -, hs⟩ := Option.map_eq_some_iff.1 (Option.mem_toList.1 h)
    obtain ⟨-, rfl, -⟩ := Event.offered.inj hs
    exact ⟨hk, rfl⟩
  · exact absurd h List.not_mem_nil

lemma eq_of_offered_mem_offerings {p' : Packet} {ids : List SessionId}
    (h : .offered queue p' answer ∈ offerings id p ids e) : id ∈ ids ∧ p' = p := by
  induction ids generalizing e with
  | nil => exact absurd h List.not_mem_nil
  | cons k ids ih =>
    rcases List.mem_append.1 h with hfirst | hlater
    · obtain ⟨rfl, hp⟩ := eq_of_offered_mem_offering hfirst
      exact ⟨List.mem_cons_self, hp⟩
    · obtain ⟨hmem, hp⟩ := ih hlater
      exact ⟨List.mem_cons_of_mem k hmem, hp⟩

/-- A packet that is offered to a session was submitted for it and framed, or was given to it. -/
lemma offered_mem_history (h : .offered queue p answer ∈ history setup id e actions) :
    (∃ sent bytes e', .submit sent ∈ actions ∧ id ∈ sent.recipients ∧
        e'.frame setup sent = .ok bytes ∧ p = finished e' sent bytes) ∨
      .enqueue id p ∈ actions := by
  induction actions generalizing e with
  | nil => exact absurd h List.not_mem_nil
  | cons action actions ih =>
    rcases List.mem_append.1 h with hfirst | hlater
    · cases action with
      | submit sent =>
        rw [eventsOf] at hfirst
        cases hf : e.frame setup sent with
        | error err =>
          rw [hf] at hfirst
          exact absurd hfirst List.not_mem_nil
        | ok bytes =>
          rw [hf] at hfirst
          obtain ⟨hmem, hp⟩ := eq_of_offered_mem_offerings hfirst
          exact .inl ⟨sent, bytes, e, List.mem_cons_self, hmem, hf, hp⟩
      | enqueue k given =>
        obtain ⟨rfl, rfl⟩ := eq_of_offered_mem_offering hfirst
        exact .inr List.mem_cons_self
      | write k =>
        rw [eventsOf] at hfirst
        split_ifs at hfirst
        · exact absurd (List.mem_singleton.1 hfirst) nofun
        · exact absurd hfirst List.not_mem_nil
      | turn ref turn => exact absurd hfirst List.not_mem_nil
    · rcases ih hlater with ⟨sent, bytes, e', hmem, hrest⟩ | hmem
      · exact .inl ⟨sent, bytes, e', List.mem_cons_of_mem action hmem, hrest⟩
      · exact .inr (List.mem_cons_of_mem action hmem)

/-! ## Sessions that were just opened -/

/-- The session is open on a channel of its own that has the given transport, and nothing waits
for it or has been written to the channel. -/
structure Opened (e : Engine) (id : SessionId) (ref : ChannelRef) (t : Transport) : Prop extends
    e.Private id ref where
  shows : ∃ capacity, e.Shows id ref t ⟨{ capacity }, []⟩

/-- The engine with a new channel and a session that is opened on it. -/
def accept (e : Engine) (c : Channel) : SessionId × Engine :=
  let (ref, registry) := e.registry.addChannel c
  let (id, registry) := registry.create ref
  (id, { e with registry })

lemma core_accept (e : Engine) (c : Channel) (k : SessionId) :
    (e.accept c).2.registry.core k
      = if k = (e.accept c).1 then
          some { id := (e.accept c).1, primary := ⟨e.registry.channels.size⟩,
                 queue := .ofCapacity e.registry.queueCapacity, createdAt := e.registry.clock }
        else e.registry.core k := by
  have hfind := Index.find?_insert e.registry.sessions (e.accept c).1 k
    { id := (e.accept c).1, primary := ⟨e.registry.channels.size⟩,
      queue := .ofCapacity e.registry.queueCapacity, createdAt := e.registry.clock,
      lastActive := e.registry.clock }
  refine (congrArg (Option.map Session.core) hfind).trans ?_
  split_ifs <;> rfl

lemma channel?_accept (e : Engine) (c : Channel) :
    (e.accept c).2.registry.channel? ⟨e.registry.channels.size⟩ = some c :=
  Array.getElem?_push_size

/-- A session that is opened on a new channel has just been opened, if every session was listed
under its own name and had its channels in the table. -/
lemma opened_accept {c : Channel} (hkeyed : e.registry.Keyed)
    (hbound : ∀ k s, e.registry.core k = some s → ∀ ref, s.Binds ref →
      ref.index < e.registry.channels.size) (hwritten : c.written = []) :
    (e.accept c).2.Opened (e.accept c).1 ⟨e.registry.channels.size⟩ c.transport where
  keyed k s hs := by
    rw [core_accept] at hs
    split_ifs at hs with hk
    · obtain rfl := Option.some.inj hs
      exact hk.symm
    · exact hkeyed k s hs
  owns k s hne hs hb := by
    -- the place of the new channel was not taken before
    rw [core_accept, if_neg hne] at hs
    exact Nat.lt_irrefl _ (hbound k s hs _ hb)
  shows := by
    refine ⟨max e.registry.queueCapacity 1, ⟨_, (core_accept e c _).trans (if_pos rfl), rfl, rfl,
      rfl⟩, c, channel?_accept e c, rfl, hwritten⟩

/-- The first session of an engine has just been opened. -/
lemma opened_accept_start (queueCapacity shards : ℕ) (dispatcher : DispatcherConfig) {c : Channel}
    (hwritten : c.written = []) :
    ((start queueCapacity shards dispatcher).accept c).2.Opened ⟨1⟩ ⟨0⟩ c.transport :=
  opened_accept (e := start queueCapacity shards dispatcher) nofun nofun hwritten

end Engine

end SessionServer
