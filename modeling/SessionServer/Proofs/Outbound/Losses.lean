/-
# Packets that are lost

A packet that is offered to a session is either in the queue afterwards or it is lost, and a packet
that waited may be lost for it.  The counter of packets that were thrown away has to tell how many.
There are six ways in which an offer ends, four of them in the queue, and in each of them the queue
and the counter are changed apart.  `Handles` puts them together.

The counter tells the truth for every session that is not over.  A session that is over answers
before anything is counted, so that the packet is lost and nobody knows of it.

Main results: what becomes of a packet (`handles_enqueue`), and that the lost packets are counted
exactly if the session is not over (`losses_counted_iff_open`).
-/
import SessionServer.Proofs.Outbound.Line
import SessionServer.Proofs.Outbound.Tending

namespace SessionServer

/-- The number of packets that are lost by a push, of which this was answered. -/
def Admission.losses (admission : Admission) : ℕ := if admission = .queued then 0 else 1

/-- What a session answers if this was answered by its queue. -/
def Admission.answer (k : SessionId) : Admission → Except SessionError Admission
  | .rejected => .error (.queueFull k)
  | admission => .ok admission

/-- The packets that waited and the one that came are those that wait now, and those that are
lost. -/
def Loses (q : PacketQueue) (p : Packet) (q' : PacketQueue) (lost : List Packet) : Prop :=
  (q.packets ++ [p]).Perm (q'.packets ++ lost)

lemma loses_self (q : PacketQueue) (p : Packet) : Loses q p q [p] := List.Perm.refl _

/-- A counter that starts again at zero still shows that something was counted. -/
lemma ne_add_one (n : UInt64) : n ≠ n + UInt64.ofNat 1 := by
  intro h
  have hzero : n + 0 = n + UInt64.ofNat 1 := (UInt64.add_zero n).trans h
  exact absurd (UInt64.add_right_inj n |>.1 hzero) (by decide)

namespace PacketQueue.Pushed

variable {q q' : PacketQueue} {p : Packet} {policy : OverflowPolicy} {admission : Admission}

/-- A push loses as many packets as its answer says. -/
lemma exists_loses (h : Pushed q p policy admission q') :
    ∃ lost, Loses q p q' lost ∧ lost.length = admission.losses := by
  cases h with
  | appended => exact ⟨[], List.Perm.of_eq (List.append_nil _).symm, rfl⟩
  | @replacing victim kept _ _ hevicts =>
    refine ⟨[victim], ?_, rfl⟩
    calc (q.packets ++ [p]).Perm (victim :: kept ++ [p]) := hevicts.perm.append_right [p]
      _ |>.Perm (kept ++ [p] ++ [victim]) := (List.perm_append_singleton victim (kept ++ [p])).symm
  | turnedAway | refused => exact ⟨[p], loses_self q p, rfl⟩

/-- A queue that refuses a packet stays as it was. -/
lemma eq_of_rejected (h : Pushed q p policy .rejected q') : q' = q := by
  cases h
  rfl

end PacketQueue.Pushed

namespace Registry

variable {r : Registry} {s s' : Session} {p : Packet} {answer : Except SessionError Admission}

/-- What becomes of a packet that is offered to a session: what is answered, and what is left of the
session. -/
inductive Handles (r : Registry) (s : Session) (p : Packet) :
    Except SessionError Admission → Session → Prop
  /-- The session is over, and nothing happens. -/
  | closed (hclosed : s.isClosed = true) : Handles r s p (.error (.closed s.id)) s
  /-- There is no channel for the packet. -/
  | unbound (hopen : s.isClosed = false) (hnone : r.channelFor s p.transport = none) :
      Handles r s p (.error (.noBinding s.id p.transport)) (s.recordDropped 1)
  /-- The packet is pushed, and what the queue makes of it is counted. -/
  | pushed {admission : Admission} {queue : PacketQueue} (hopen : s.isClosed = false)
      (hbound : r.channelFor s p.transport ≠ none)
      (hpushed : s.queue.Pushed p p.guarantee.overflowPolicy admission queue) :
      Handles r s p (admission.answer s.id) { s.recordDropped admission.losses with queue }

lemma answer_offer (r : Registry) (s : Session) (p : Packet) :
    (r.offer s p).1 = (s.queue.push p p.guarantee.overflowPolicy).1.answer s.id := by
  unfold offer
  rcases s.queue.push p p.guarantee.overflowPolicy with ⟨admission, queue⟩
  cases admission <;> rfl

/-- An open session with a channel for the packet does with it what its queue does. -/
lemma session?_offer (hs : r.session? s.id = some s) (p : Packet) :
    let admission := (s.queue.push p p.guarantee.overflowPolicy).1
    (r.offer s p).2.session? s.id = some { s.recordDropped admission.losses with
      queue := (s.queue.push p p.guarantee.overflowPolicy).2 } := by
  obtain ⟨admission, queue, hpush, hsessions⟩ := Engine.sessions_offer r s p
  have hpushed := PacketQueue.pushed_push s.queue p p.guarantee.overflowPolicy
  rw [hpush] at hpushed
  rw [session?_of_modify hsessions, if_pos rfl, hs, hpush, Option.map_some]
  by_cases hrejected : admission = .rejected
  · subst hrejected
    rw [hpushed.eq_of_rejected]
    rfl
  · rw [if_neg hrejected]
    rfl

lemma handles_enqueue (hs : r.session? s.id = some s) (p : Packet) :
    ∃ s', (r.enqueue s.id p).2.session? s.id = some s' ∧
      Handles r s p (r.enqueue s.id p).1 s' := by
  unfold enqueue
  rw [hs]
  dsimp only
  split_ifs with hclosed hnone
  · exact ⟨s, hs, .closed hclosed⟩
  · refine ⟨s.recordDropped 1, ?_, .unbound (eq_false_of_ne_true hclosed) ?_⟩
    · rw [session?_modifySession, if_pos rfl, hs, Option.map_some]
    · exact Option.isNone_iff_eq_none.1 hnone
  · refine ⟨_, session?_offer hs p, ?_⟩
    rw [answer_offer]
    refine .pushed (eq_false_of_ne_true hclosed) ?_ (PacketQueue.pushed_push s.queue p _)
    exact fun h => hnone (Option.isNone_iff_eq_none.2 h)

namespace Handles

/-- A packet that is refused leaves the queue as it was. -/
lemma queue_eq {err : SessionError} (h : Handles r s p (.error err) s') : s'.queue = s.queue := by
  generalize hanswer : Except.error err = answer at h
  cases h with
  | closed | unbound => rfl
  | @pushed admission queue _ _ hpushed =>
    cases admission with
    | rejected => exact hpushed.eq_of_rejected
    | _ => cases hanswer

/-- The packets that are lost are counted exactly if the session is not over. -/
lemma exists_loses (h : Handles r s p answer s') :
    ∃ lost, Loses s.queue p s'.queue lost ∧
      (s'.stats.droppedPackets = s.stats.droppedPackets + UInt64.ofNat lost.length
        ↔ s.isClosed = false) := by
  cases h with
  | closed hclosed =>
    refine ⟨[p], loses_self s.queue p, fun hcounted => ?_, fun hopen => ?_⟩
    · exact absurd hcounted (ne_add_one s.stats.droppedPackets)
    · exact absurd (hopen.symm.trans hclosed) Bool.false_ne_true
  | unbound hopen hnone => exact ⟨[p], loses_self s.queue p, fun _ => hopen, fun _ => rfl⟩
  | pushed hopen hbound hpushed =>
    obtain ⟨lost, hloses, hlength⟩ := hpushed.exists_loses
    refine ⟨lost, hloses, fun _ => hopen, fun _ => ?_⟩
    rw [hlength]
    rfl

end Handles

/-- Whatever packet is offered to whatever session: the packets that waited and the one that came
are either in the queue afterwards or lost, and they are counted as dropped exactly if the session
is not over.  If the packet is not taken, the queue stays as it was. -/
theorem losses_counted_iff_open (r : Registry) (s : Session) (p : Packet)
    (hs : r.session? s.id = some s) :
    ∃ s' lost, (r.enqueue s.id p).2.session? s.id = some s' ∧
      Handles r s p (r.enqueue s.id p).1 s' ∧
      (s.queue.packets ++ [p]).Perm (s'.queue.packets ++ lost) ∧
      (s'.stats.droppedPackets = s.stats.droppedPackets + UInt64.ofNat lost.length
        ↔ s.isClosed = false) ∧
      ∀ err, (r.enqueue s.id p).1 = .error err → s'.queue = s.queue := by
  obtain ⟨s', hs', hhandles⟩ := handles_enqueue hs p
  obtain ⟨lost, hloses, hcounted⟩ := hhandles.exists_loses
  refine ⟨s', lost, hs', hhandles, hloses, hcounted, fun err herr => ?_⟩
  rw [herr] at hhandles
  exact hhandles.queue_eq

/-- One packet goes for another one, and is counted. -/
theorem losses_counted_of_full_queue :
    let packet (data : UInt8) : Packet :=
      { data := [data], transport := .stream, guarantee := .unreliable }
    let start := ofChannels 1 #[.stream { id := ⟨1⟩ }]
    let r := start.run (fun _ => none) [.create ⟨0⟩, .enqueue ⟨1⟩ (packet 1)]
    ∃ s' lost, (r.enqueue ⟨1⟩ (packet 2)).2.session? ⟨1⟩ = some s' ∧
      [packet 1, packet 2].Perm (s'.queue.packets ++ lost) ∧
      s'.stats.droppedPackets = UInt64.ofNat lost.length := by
  intro packet start r
  let s : Session :=
    { id := ⟨1⟩, primary := ⟨0⟩, queue := { packets := [packet 1], capacity := 1 } }
  have hs : r.session? s.id = some s := by decide +kernel
  obtain ⟨s', lost, hs', -, hperm, hcounted, -⟩ := losses_counted_iff_open r s (packet 2) hs
  have hdropped := hcounted.2 rfl
  rw [show s.stats.droppedPackets = 0 from rfl, UInt64.zero_add] at hdropped
  exact ⟨s', lost, hs', hperm, hdropped⟩

/-- A packet comes for a session that is over.  It is lost, and not counted. -/
theorem loss_not_counted_once_closed :
    let p : Packet := { data := [1], transport := .stream }
    let start := ofChannels 1 #[.stream { id := ⟨1⟩ }]
    let r := start.run (fun _ => none) [.create ⟨0⟩, .close ⟨1⟩ .idle]
    let r' := (r.enqueue ⟨1⟩ p).2
    ∃ s s', r.session? ⟨1⟩ = some s ∧ r'.session? ⟨1⟩ = some s' ∧
      ∀ lost : List Packet, (s.queue.packets ++ [p]).Perm (s'.queue.packets ++ lost) →
        s'.stats.droppedPackets ≠ s.stats.droppedPackets + UInt64.ofNat lost.length := by
  intro p start r r'
  let s : Session := { id := ⟨1⟩, primary := ⟨0⟩, state := .closed, queue := { capacity := 1 } }
  have hs : r.session? ⟨1⟩ = some s := by decide +kernel
  have hs' : r'.session? ⟨1⟩ = some s := by decide +kernel
  refine ⟨s, s, hs, hs', fun lost hperm => ?_⟩
  have hlength : 1 = lost.length := hperm.length_eq
  rw [← hlength]
  decide

end Registry

end SessionServer
