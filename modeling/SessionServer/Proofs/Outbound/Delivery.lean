/-
# Everything that is submitted arrives

Messages are submitted for a session that was opened on a stream.  Each is queued without another
one being thrown out for it, and the channel takes as much of what it is offered as it likes, but
does not break.  Once nothing waits any more, the bytes that the channel has taken, however they
are cut into reads on the other side, are read as the messages, in the order in which they were
submitted.

Main result: `delivered_of_isEmpty`.
-/
import Mathlib.Data.List.Forall2
import SessionServer.Proofs.Frame.RoundTrip
import SessionServer.Proofs.Outbound.Overflow

namespace SessionServer

open Assembler (Piece)

variable {c : Codec} {sent finished : Packet} {sents packets : List Packet}

/-! ## Frames of packets -/

/-- The second packet holds a frame that is read as the first one. -/
def Codec.Carries (c : Codec) (sent finished : Packet) : Prop :=
  ∃ piece : Piece, finished.data = piece.wire ∧ piece.Fits c.config.maxFrameSize ∧
    c.decodeBody piece.1 piece.2 = .ok ⟨piece.1, sent.data⟩ ∧ piece.1.dataType = sent.dataType

/-- The format and the payload that are read of a piece. -/
def Codec.message (c : Codec) (piece : Piece) : Except FrameError (DataType × Bytes) :=
  (c.decodeBody piece.1 piece.2).map fun f => (f.dataType, f.payload)

/-- A packet that was framed within the limit holds a frame that is read as it was. -/
lemma carries_of_frame {setup : Setup} {e : Engine} {bytes : Bytes} (hlaw : setup.codec.Lawful)
    (hfits : setup.codec.Fits e.nextPacketId sent.data sent.encrypted)
    (hcount : sent.counting = true) (hf : e.frame setup sent = .ok bytes) :
    setup.codec.Carries sent (e.finished sent bytes) := by
  obtain ⟨data, encrypted, body, compressed, hprotect, hshrink, hlen, rfl⟩ :=
    Codec.encode_eq_ok_iff.1 hf
  obtain ⟨hdata, hbody⟩ := hfits data encrypted body compressed hprotect hshrink
  refine ⟨(_, body), rfl, ⟨hcount, ?_, hbody⟩, ?_, rfl⟩
  · exact Codec.length_lt_capacity_headerFor hcount hlen
  · exact Codec.decodeBody_of_encode hlaw hprotect hshrink hdata hbody rfl rfl

/-- Frames that are put one after the other are read as what they were made of. -/
lemma exists_pieces (h : List.Forall₂ c.Carries sents packets) :
    ∃ pieces : List Piece, packets.flatMap (·.data) = pieces.flatMap Piece.wire ∧
      (∀ piece ∈ pieces, piece.Fits c.config.maxFrameSize) ∧
      pieces.map c.message = sents.map fun p => .ok (p.dataType, p.data) := by
  induction h with
  | nil => exact ⟨[], rfl, List.forall_mem_nil _, rfl⟩
  | cons hcarries _ ih =>
    obtain ⟨piece, hdata, hfits, hdecode, htype⟩ := hcarries
    obtain ⟨pieces, hwire, hall, hmessages⟩ := ih
    refine ⟨piece :: pieces, ?_, List.forall_mem_cons.2 ⟨hfits, hall⟩, ?_⟩
    · rw [List.flatMap_cons, List.flatMap_cons, hdata, hwire]
    · rw [List.map_cons, List.map_cons, hmessages, Codec.message, hdecode, ← htype]
      rfl

/-! ## Channels that do not break -/

namespace Channel

/-- The channel is a connection, or stands for one, and neither closed nor told to fail. -/
def isSteady : Channel → Bool
  | memory c => c.isOpen && c.failing.isNone
  | stream c => c.isOpen
  | _ => false

/-- A write on such a channel takes something, takes nothing or has to wait. -/
lemma not_breaks_of_isSteady {c : Channel} (h : c.isSteady = true) (data : Bytes) :
    ¬ c.Breaks data := by
  rintro ⟨f, hf, hkind⟩
  cases c with
  | memory c =>
    obtain ⟨hopen, hfailing⟩ := Bool.and_eq_true_iff.1 h
    have hnone : c.failing = none := Option.isNone_iff_eq_none.1 hfailing
    cases hblocked : c.blocked with
    | true =>
      simp only [tryWrite, MemoryChannel.tryWrite, hopen, hblocked, Bool.not_true,
        Bool.false_eq_true, if_false, if_true, Except.error.injEq] at hf
      exact hkind (hf ▸ rfl)
    | false =>
      simp [tryWrite, MemoryChannel.tryWrite, hopen, hblocked, hnone] at hf
  | stream c =>
    have hopen : c.isOpen = true := h
    simp [tryWrite, StreamChannel.tryWrite, hopen] at hf
  | _ => exact Bool.false_ne_true h

end Channel

/-! ## Runs that only deliver -/

/-- The packet is a message for one session on a stream, and not the last one. -/
structure Packet.Message (id : SessionId) (p : Packet) : Prop where
  fresh : p.Fresh .stream
  counting : p.counting = true
  last : p.last = false
  recipients : p.recipients = [id]

/-- The packet that an action submits. -/
def Action.submitted? : Action → Option Packet
  | .submit p => some p
  | _ => none

namespace Engine

variable {e : Engine} {id : SessionId} {ref : ChannelRef} {t : Transport} {lane : Lane}
  {setup : Setup} {action : Action} {actions : List Action}

/-- Something holds of every action of a run and of the engine that it is done to. -/
def Throughout (setup : Setup) (holds : Engine → Action → Prop) : Engine → List Action → Prop
  | _, [] => True
  | e, action :: actions => holds e action ∧ Throughout setup holds (e.act setup action) actions

/-- A message that is submitted for the session is framed within the limit and queued, and no
packet is lost by that; no packet is given to the session directly; and when an attempt to write is
made for it, its channel does not break. -/
def Delivers (setup : Setup) (id : SessionId) (ref : ChannelRef) (e : Engine) : Action → Prop
  | .submit p => p.Message id ∧ setup.codec.Fits e.nextPacketId p.data p.encrypted ∧
      (e.submit setup p).1 = .ok ⟨e.nextPacketId, 1, 0⟩
  | .enqueue k _ => k ≠ id
  | .write k => k = id → ∀ c, e.registry.channel? ref = some c → ∀ data, ¬ c.Breaks data
  | .turn _ _ => True

/-- A packet that was queued without a loss was let in. -/
lemma enqueue_of_offer {p : Packet} (h : (e.offer p id).1 = (1, 0)) :
    (e.registry.enqueue id p).1 = .ok .queued := by
  unfold offer at h
  rcases henqueue : e.registry.enqueue id p with ⟨answer, registry⟩
  rw [henqueue] at h
  rcases answer with (_ | _ | _) | (_ | _ | _ | _) <;> first | rfl | exact absurd h nofun

lemma offerAll_singleton (p : Packet) (k : SessionId) (e : Engine) :
    offerAll p [k] e = e.offer p k := by
  rcases h : e.offer p k with ⟨⟨queued, dropped⟩, e'⟩
  simp [offerAll, h]

/-- The report on a packet that can be framed counts what its recipients did with it. -/
lemma report_of_frame {bytes : Bytes} (hf : e.frame setup sent = .ok bytes) :
    (e.submit setup sent).1
      = .ok ⟨e.nextPacketId,
          (offerAll (e.finished sent bytes) sent.recipients
            { e with nextPacketId := e.nextPacketId + 1 }).1.1,
          (offerAll (e.finished sent bytes) sent.recipients
            { e with nextPacketId := e.nextPacketId + 1 }).1.2⟩ := by
  unfold submit
  rw [hf]
  rfl

/-- A message that was queued without a loss is one event. -/
lemma submit_course (h : e.Shows id ref t lane) (hp : e.Private id ref)
    (hone : sent.recipients = [id])
    (hreport : (e.submit setup sent).1 = .ok ⟨e.nextPacketId, 1, 0⟩) :
    ∃ bytes lane', e.frame setup sent = .ok bytes ∧
      e.eventsOf setup id (.submit sent)
        = [.offered lane.queue (e.finished sent bytes) (.ok .queued)] ∧
      Course t (e.eventsOf setup id (.submit sent)) lane lane' ∧
      (e.act setup (.submit sent)).Shows id ref t lane' := by
  cases hf : e.frame setup sent with
  | error err =>
    rw [submit_of_frame_error hf] at hreport
    exact absurd hreport nofun
  | ok bytes =>
    have hnext : Shows { e with nextPacketId := e.nextPacketId + 1 } id ref t lane :=
      ⟨h.session, h.channel⟩
    have hoffer : (offer { e with nextPacketId := e.nextPacketId + 1 }
        (e.finished sent bytes) id).1 = (1, 0) := by
      rw [report_of_frame hf, hone, offerAll_singleton] at hreport
      obtain ⟨-, hqueued, hdropped⟩ := SubmitReport.mk.inj (Except.ok.inj hreport)
      exact Prod.ext hqueued hdropped
    have hqueued := enqueue_of_offer hoffer
    obtain ⟨lane', hcourse, hshows⟩ := offer_self_course hnext ⟨hp.keyed, hp.owns⟩
      fun refused => by rw [hqueued]; exact nofun
    obtain ⟨s, hs, -, -, hqueue⟩ := hnext.session
    have hevents : e.eventsOf setup id (.submit sent)
        = offering { e with nextPacketId := e.nextPacketId + 1 } id id
            (e.finished sent bytes) := by
      simp only [eventsOf, hf, hone, offerings, List.append_nil]
    have hact := submit_of_frame hf
    rw [hone, offerAll_singleton] at hact
    refine ⟨bytes, lane', rfl, ?_, hevents ▸ hcourse, hshows.of_eq ?_ ?_⟩
    · rw [hevents, offering_self hs, hqueued, hqueue]
    · rw [act, hact]
    · rw [act, hact]

/-- The packet does not close its session, and goes to a stream. -/
def Passes (p : Packet) : Prop := p.transport = .stream ∧ p.last = false

/-- What an action of a run that only delivers is for the session: it stays open, nothing is thrown
out, and the frame of what is submitted is let in. -/
lemma act_delivers (hlaw : setup.codec.Lawful) (h : e.Shows id ref .stream lane)
    (hp : e.Private id ref) (hpasses : ∀ p ∈ lane.queue.packets, Passes p)
    (ha : Delivers setup id ref e action) :
    ∃ lane', Course .stream (e.eventsOf setup id action) lane lane' ∧
      (e.act setup action).Shows id ref .stream lane' ∧
      (∀ event ∈ e.eventsOf setup id action, event.Brings (Packet.Fresh .stream) ∧
        event.Brings Passes ∧ event.evicted? = none) ∧
      List.Forall₂ setup.codec.Carries action.submitted?.toList
        ((e.eventsOf setup id action).filterMap Event.admitted?) := by
  have hnone : ∀ event ∈ ([] : List Event), event.Brings (Packet.Fresh .stream) ∧
      event.Brings Passes ∧ event.evicted? = none := fun _ hmem => absurd hmem List.not_mem_nil
  cases action with
  | submit sent =>
    obtain ⟨hmessage, hfits, hreport⟩ := ha
    obtain ⟨bytes, lane', hf, hevents, hcourse, hshows⟩ :=
      submit_course h hp hmessage.recipients hreport
    refine ⟨lane', hcourse, hshows, ?_, ?_⟩
    · rw [hevents]
      rintro event hmem
      obtain rfl := List.mem_singleton.1 hmem
      exact ⟨hmessage.fresh, ⟨hmessage.fresh.1, hmessage.last⟩, rfl⟩
    · rw [hevents]
      exact .cons (carries_of_frame hlaw hfits hmessage.counting hf) .nil
  | enqueue k p =>
    rw [eventsOf, offering_of_ne ha]
    exact ⟨lane, .nil, h.of_touches hp ha (Registry.touches_enqueue hp.keyed k p), hnone, .nil⟩
  | write k =>
    by_cases hk : k = id
    · subst hk
      rw [eventsOf, if_pos rfl]
      rcases writeOnce_course setup h with
        ⟨-, head, hhead, hcause⟩ | ⟨lane', hcourse, hshows⟩
      · -- none of the causes for which an attempt closes the session is there
        obtain ⟨htransport, hlast⟩ := hpasses head (List.mem_of_mem_head? hhead)
        rcases hcause with hcause | hcause | ⟨c, hc, hbreaks⟩
        · exact absurd (hlast.symm.trans hcause) Bool.false_ne_true
        · exact absurd htransport hcause
        · exact absurd hbreaks (ha rfl c hc head.pending)
      · refine ⟨lane', hcourse, hshows, fun event hmem => ?_, ?_⟩
        · obtain rfl := List.mem_singleton.1 hmem
          exact ⟨trivial, trivial, rfl⟩
        · rw [List.filterMap_cons_none (by rfl)]
          exact .nil
    · rw [eventsOf, if_neg hk]
      exact ⟨lane, .nil, h.of_touches hp hk (touches_writeOnce setup e k), hnone, .nil⟩
  | turn ref' turn =>
    rw [eventsOf]
    exact ⟨lane, .nil, h.turn ref' turn, hnone, .nil⟩

/-- What a run that only delivers is for the session. -/
lemma run_delivers (hlaw : setup.codec.Lawful) (h : e.Shows id ref .stream lane)
    (hp : e.Private id ref) (hpasses : ∀ p ∈ lane.queue.packets, Passes p)
    (ha : Throughout setup (Delivers setup id ref) e actions) :
    ∃ lane', Course .stream (history setup id e actions) lane lane' ∧
      (e.run setup actions).Shows id ref .stream lane' ∧
      (∀ event ∈ history setup id e actions, event.Brings (Packet.Fresh .stream) ∧
        event.evicted? = none) ∧
      List.Forall₂ setup.codec.Carries (actions.filterMap Action.submitted?)
        ((history setup id e actions).filterMap Event.admitted?) := by
  induction actions generalizing e lane with
  | nil => exact ⟨lane, .nil, h, fun _ hmem => absurd hmem List.not_mem_nil, .nil⟩
  | cons action actions ih =>
    obtain ⟨hfirst, hlater⟩ := ha
    obtain ⟨lane₁, hcourse₁, hshows₁, hevents₁, hcarries₁⟩ :=
      act_delivers hlaw h hp hpasses hfirst
    have hpasses₁ := hcourse₁.forall_mem (fun _ _ hpass => hpass)
      (fun event hmem => (hevents₁ event hmem).2.1) hpasses
    obtain ⟨lane₂, hcourse₂, hshows₂, hevents₂, hcarries₂⟩ :=
      ih hshows₁ (hp.of_later (later_act hp.keyed setup action)) hpasses₁ hlater
    refine ⟨lane₂, hcourse₁.append hcourse₂, hshows₂, fun event hmem => ?_, ?_⟩
    · rcases List.mem_append.1 hmem with hmem | hmem
      · exact ⟨(hevents₁ event hmem).1, (hevents₁ event hmem).2.2⟩
      · exact hevents₂ event hmem
    · rw [history, List.filterMap_append]
      have hsubmitted : (action :: actions).filterMap Action.submitted?
          = action.submitted?.toList ++ actions.filterMap Action.submitted? := by
        cases h : action.submitted? <;> simp [h]
      rw [hsubmitted]
      exact List.rel_append hcarries₁ hcarries₂

/-- **Everything that is submitted arrives.**  A session is opened on a stream of its own, messages
are submitted for it, and attempts to write are made in any order, in which the channel takes as
much each time as it likes, nothing, or says that it has to wait.  The session stays open; and once
nothing waits for it, the bytes that the channel has taken, cut into reads in any way, are read as
the messages in the order in which they were submitted, without an error and with nothing left. -/
theorem delivered_of_isEmpty (setup : Setup) (hlaw : setup.codec.Lawful)
    (ho : e.Opened id ref .stream)
    (ha : Throughout setup (Delivers setup id ref) e actions) :
    ∃ s c, (e.run setup actions).registry.session? id = some s ∧ s.isClosed = false ∧
      (e.run setup actions).registry.channel? ref = some c ∧
      (s.queue.packets = [] → ∀ chunks : List Bytes, chunks.flatten = c.written →
        let limit := setup.codec.config.maxFrameSize
        let fed := (Assembler.start limit).feed chunks
        fed.1.1.map setup.codec.message
            = (actions.filterMap Action.submitted?).map (fun p => .ok (p.dataType, p.data)) ∧
          fed.1.2 = none ∧ fed.2 = Assembler.start limit) := by
  obtain ⟨capacity, hshows⟩ := ho.shows
  have hwaiting : ∀ p ∈ ({ capacity } : PacketQueue).packets, Passes p :=
    fun _ hmem => absurd hmem List.not_mem_nil
  obtain ⟨lane, hcourse, hlast, hevents, hcarries⟩ :=
    run_delivers hlaw hshows ho.toPrivate hwaiting ha
  obtain ⟨s', hs', hopen, -, hqueue⟩ := hlast.session
  obtain ⟨s, hs, rfl⟩ := Registry.core_eq_some_iff.1 hs'
  obtain ⟨c, hc, -, hwritten⟩ := hlast.channel
  refine ⟨s, c, hs, hopen, hc, fun hempty chunks hchunks => ?_⟩
  -- all that was let in has been written
  have hnothing : Ledger.Conveys [] .stream ⟨{ capacity }, []⟩ := Ledger.conveys_nil _ rfl rfl
  have hconveys := hnothing.of_course (fun event hmem => (hevents event hmem).1) hcourse
  have hkept := Ledger.kept_eq_of_evicted_eq_nil
    (Ledger.evicted_eq_nil_of_course hcourse rfl fun event hmem => (hevents event hmem).2)
  have hbytes : c.written
      = ((history setup id e actions).filterMap Event.admitted?).flatMap (·.data) := by
    have hall := hconveys.written_append_backlog
    have hbacklog : lane.queue.backlog = [] :=
      PacketQueue.backlog_of_nil ((congrArg PacketQueue.packets hqueue).symm.trans hempty)
    rw [hbacklog, List.append_nil] at hall
    rw [hwritten, hall, ← Ledger.packets_ofHistory, ← hkept, Ledger.ofHistory]
  -- and it is made of frames, which are read as what they were made of
  obtain ⟨pieces, hwire, hfits, hmessages⟩ := exists_pieces hcarries
  obtain ⟨hread, hleft⟩ := Assembler.feed_start setup.codec.config.maxFrameSize chunks
  rw [hchunks, hbytes, hwire, parse_flatMap_wire hfits] at hread hleft
  intro limit fed
  refine ⟨?_, congrArg Prod.snd hread, Assembler.eq_start_of_before_nil hleft⟩
  rw [← hmessages]
  exact congrArg (fun out => out.1.map setup.codec.message) hread

/-- Channels that are open and do not fail take what they take without breaking. -/
lemma not_breaks_of_all_isSteady {channel : Option Channel}
    (h : channel.all Channel.isSteady = true) :
    ∀ c, channel = some c → ∀ data, ¬ c.Breaks data := by
  rintro c rfl data
  exact Channel.not_breaks_of_isSteady h data

/-- Two messages on a channel that takes four bytes at a time: the first one is encrypted, by
turning it around, and compressed, by a compressor that only marks what it was given; the second
one is too short to be compressed.  The bytes are read one by one. -/
theorem delivered_turned_and_marked :
    let codec : Codec :=
      { config := { compressionThreshold := 2, maxFrameSize := 4, encryption := true }
        compressor := some ⟨fun data => .ok (0 :: data), fun small _ => .ok small.tail⟩
        encryptor := some ⟨fun _ payload => .ok payload.reverse, fun data => .ok data.reverse⟩ }
    let setup : Setup := { codec }
    let e := ((start 2 1 {}).accept
      (.memory { id := ⟨1⟩, transport := .stream, cap := some 4 })).2
    let first : Packet :=
      { data := [1, 2, 3], transport := .stream, encrypted := true, recipients := [⟨1⟩] }
    let second : Packet :=
      { data := [9], dataType := .msgPack, transport := .stream, recipients := [⟨1⟩] }
    let actions : List Action :=
      [.submit first, .write ⟨1⟩, .submit second, .write ⟨1⟩, .write ⟨1⟩]
    let wire : Bytes := [27, 0, 4, 0, 3, 2, 1, 33, 0, 1, 9]
    ((e.run setup actions).registry.channel? ⟨0⟩).map (·.written) = some wire ∧
      ((Assembler.start 4).feed (wire.map fun b => [b])).1.1.map codec.message
        = [.ok (.zero, [1, 2, 3]), .ok (.msgPack, [9])] := by
  intro codec setup e first second actions wire
  have hlaw : codec.Lawful := by
    refine ⟨?_, ?_⟩
    · rintro plugIn hplugIn serial payload secret hsecret
      obtain rfl := Option.some.inj hplugIn
      obtain rfl := Except.ok.inj hsecret
      exact congrArg Except.ok payload.reverse_reverse
    · rintro plugIn hplugIn data small limit hsmall -
      obtain rfl := Option.some.inj hplugIn
      obtain rfl := Except.ok.inj hsmall
      rfl
  have hfirst : ∀ serial, codec.Fits serial first.data first.encrypted := by
    intro serial data encrypted body compressed hprotect hshrink
    obtain rfl : [3, 2, 1] = data := congrArg Prod.fst (Except.ok.inj hprotect)
    obtain rfl : [0, 3, 2, 1] = body := congrArg Prod.fst (Except.ok.inj hshrink)
    decide
  have hsecond : ∀ serial, codec.Fits serial second.data second.encrypted := by
    intro serial data encrypted body compressed hprotect hshrink
    obtain rfl : [9] = data := congrArg Prod.fst (Except.ok.inj hprotect)
    obtain rfl : [9] = body := congrArg Prod.fst (Except.ok.inj hshrink)
    decide
  have hopened : e.Opened ⟨1⟩ ⟨0⟩ .stream := opened_accept_start 2 1 {} rfl
  have hactions : Throughout setup (Delivers setup ⟨1⟩ ⟨0⟩) e actions := by
    refine ⟨⟨⟨⟨rfl, rfl⟩, rfl, rfl, rfl⟩, hfirst _, by decide +kernel⟩, fun _ => ?_,
      ⟨⟨⟨rfl, rfl⟩, rfl, rfl, rfl⟩, hsecond _, by decide +kernel⟩, fun _ => ?_, fun _ => ?_,
      trivial⟩
    all_goals exact not_breaks_of_all_isSteady (by decide +kernel)
  have hwritten : ((e.run setup actions).registry.channel? ⟨0⟩).map (·.written) = some wire := by
    decide +kernel
  have hqueue : ((e.run setup actions).registry.session? ⟨1⟩).map (·.queue.packets) = some [] := by
    decide +kernel
  obtain ⟨s, c, hs, -, hc, hread⟩ := delivered_of_isEmpty setup hlaw hopened hactions
  rw [hs, Option.map_some] at hqueue
  have hflat : (wire.map fun b => [b]).flatten = c.written := by
    rw [hc, Option.map_some] at hwritten
    exact (Option.some.inj hwritten).symm
  obtain ⟨hmessages, -, -⟩ := hread (Option.some.inj hqueue) _ hflat
  exact ⟨hwritten, hmessages⟩

end Engine

end SessionServer
