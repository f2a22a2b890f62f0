/-
# Bytes leave in order

Whatever is submitted, however the channel cuts what it is offered, and whatever is thrown out of
the queue in between: as long as a session is open, the bytes that its channel has taken, followed
by those that wait, are the frames of the packets that were let in and not thrown out, one after
the other in the order in which they were submitted.  No frame is torn, repeated or moved.

Main result: `written_append_backlog_eq_kept`.
-/
import SessionServer.Proofs.Outbound.Ledger

namespace SessionServer

/-- The action submits packets for the session on one transport only, and gives it none. -/
def Action.Submits (id : SessionId) (t : Transport) : Action → Prop
  | .submit p => id ∈ p.recipients → p.Fresh t
  | .enqueue k _ => k ≠ id
  | .write _ | .turn _ _ => True

namespace Engine

variable {e : Engine} {id : SessionId} {ref : ChannelRef} {t : Transport} {setup : Setup}
  {actions : List Action} {lane : Lane} {s : Session}

/-- The lane of a session that is open after a run. -/
lemma exists_course (h : e.Shows id ref t lane) (hp : e.Private id ref)
    (hs : (e.run setup actions).registry.session? id = some s) (hopen : s.isClosed = false) :
    ∃ lane', Course t (history setup id e actions) lane lane' ∧
      (e.run setup actions).Shows id ref t lane' ∧ s.queue = lane'.queue := by
  have hcore : (e.run setup actions).registry.core id = some s.core :=
    Registry.core_eq_some_iff.2 ⟨s, hs, rfl⟩
  rcases run_course h hp setup actions with hover | ⟨lane', hcourse, hshows⟩
  · exact absurd (hopen.symm.trans (hover s.core hcore)) Bool.false_ne_true
  · obtain ⟨s', hs', -, -, hqueue⟩ := hshows.session
    obtain rfl := Option.some.inj (hcore.symm.trans hs')
    exact ⟨lane', hcourse, hshows, hqueue⟩

/-- A packet that is offered was submitted with its frame. -/
lemma exists_frame_of_offered (ha : ∀ action ∈ actions, action.Submits id t)
    {queue : PacketQueue} {p : Packet} {answer : Except SessionError Admission}
    (h : .offered queue p answer ∈ history setup id e actions) :
    ∃ (sent : Packet) (e' : Engine), .submit sent ∈ actions ∧ id ∈ sent.recipients ∧
      e'.frame setup sent = .ok p.data ∧ p.Fresh t := by
  rcases offered_mem_history h with ⟨sent, bytes, e', hmem, hid, hframe, rfl⟩ | hmem
  · exact ⟨sent, e', hmem, hid, hframe, ha _ hmem hid⟩
  · exact absurd rfl (ha _ hmem)

lemma brings_of_mem_history (ha : ∀ action ∈ actions, action.Submits id t) {event : Event}
    (h : event ∈ history setup id e actions) : event.Brings (Packet.Fresh t) := by
  cases event with
  | offered queue p answer =>
    obtain ⟨-, -, -, -, -, hbrings⟩ := exists_frame_of_offered ha h
    exact hbrings
  | tried outcome => trivial

/-- **Bytes leave in order.**  A session is opened on a channel of its own, packets are submitted
for it on the transport of that channel, attempts to write are made in any order, and the channel
takes as much each time as it likes.  While the session is open, what has been written and what
waits are the frames of the packets that were let in and not thrown out, in the order in which
they came.  The ledger that says so lists exactly the packets that were let in, and each of them
is the frame of a packet that was submitted. -/
theorem written_append_backlog_eq_kept (setup : Setup) (ho : e.Opened id ref t)
    (ha : ∀ action ∈ actions, action.Submits id t)
    (hs : (e.run setup actions).registry.session? id = some s) (hopen : s.isClosed = false) :
    ∃ c, (e.run setup actions).registry.channel? ref = some c ∧
      c.written ++ s.queue.backlog
        = (Ledger.ofHistory (history setup id e actions)).kept.flatMap (·.data) ∧
      (Ledger.ofHistory (history setup id e actions)).map (·.packet)
        = (history setup id e actions).filterMap Event.admitted? ∧
      ∀ entry ∈ Ledger.ofHistory (history setup id e actions),
        ∃ (sent : Packet) (e' : Engine), .submit sent ∈ actions ∧ id ∈ sent.recipients ∧
          e'.frame setup sent = .ok entry.packet.data := by
  obtain ⟨capacity, hshows⟩ := ho.shows
  obtain ⟨lane, hcourse, hlast, hqueue⟩ := exists_course hshows ho.toPrivate hs hopen
  obtain ⟨c, hc, -, hwritten⟩ := hlast.channel
  have hempty : Ledger.Conveys [] t ⟨{ capacity }, []⟩ := Ledger.conveys_nil t rfl rfl
  have hconveys := hempty.of_course (fun _ hmem => brings_of_mem_history ha hmem) hcourse
  refine ⟨c, hc, ?_, Ledger.packets_ofHistory _, fun entry hmem => ?_⟩
  · rw [hwritten, hqueue]
    exact hconveys.written_append_backlog
  · obtain ⟨queue, answer, hoffered⟩ := Ledger.exists_offered_of_mem hmem
    obtain ⟨sent, e', hsent, hid, hframe, -⟩ := exists_frame_of_offered ha hoffered
    exact ⟨sent, e', hsent, hid, hframe⟩

/-- Four packets for a queue that has room for one.  The second one takes the place of the first;
half of it is written when the third one, which must not be lost, makes the queue longer than its
capacity; and the fourth one takes the place of the third. -/
theorem written_append_backlog_of_four :
    let setup : Setup := { codec := .plain }
    let e := ((start 1 1 {}).accept
      (.memory { id := ⟨7⟩, transport := .stream, cap := some 3 })).2
    let packet (data : Bytes) (guarantee : Guarantee) : Packet :=
      { data, transport := .stream, guarantee, recipients := [⟨1⟩] }
    let actions : List Action :=
      [.submit (packet [1] .unreliable), .submit (packet [2] .unreliable), .write ⟨1⟩,
        .submit (packet [3] .critical), .submit (packet [4] .unreliable), .write ⟨1⟩, .write ⟨1⟩]
    ∃ s c, (e.run setup actions).registry.session? ⟨1⟩ = some s ∧ s.isClosed = false ∧
      (e.run setup actions).registry.channel? ⟨0⟩ = some c ∧
      c.written = [17, 0, 1, 2, 17, 0, 1] ∧
      c.written ++ s.queue.backlog = [17, 0, 1, 2, 17, 0, 1, 4] := by
  intro setup e packet actions
  have hopened : e.Opened ⟨1⟩ ⟨0⟩ .stream := opened_accept_start 1 1 {} rfl
  have hactions : ∀ action ∈ actions, action.Submits ⟨1⟩ .stream := by
    simp [actions, packet, Action.Submits, Packet.Fresh]
  have hsession : ((e.run setup actions).registry.session? ⟨1⟩).map (·.isClosed) = some false := by
    decide +kernel
  have hwritten : ((e.run setup actions).registry.channel? ⟨0⟩).map (·.written)
      = some [17, 0, 1, 2, 17, 0, 1] := by
    decide +kernel
  have hkept : (Ledger.ofHistory (history setup ⟨1⟩ e actions)).kept.flatMap (·.data)
      = [17, 0, 1, 2, 17, 0, 1, 4] := by
    decide +kernel
  obtain ⟨s, hs, hopen⟩ := Option.map_eq_some_iff.1 hsession
  obtain ⟨c, hc, hbytes, -, -⟩ := written_append_backlog_eq_kept setup hopened hactions hs hopen
  rw [hc, Option.map_some] at hwritten
  exact ⟨s, c, hs, hopen, hc, Option.some.inj hwritten, hbytes.trans hkept⟩

end Engine

end SessionServer
