/-
# What a listener finds

A listener is told of every session that is closed, when everything else that belongs to closing it
has been done.  Closing is the last thing in each step that closes a session: in an offer to a full
queue, in a write that fails or ends a last packet, and in a call of the application.  So what the
listener finds is what there is after the step, and it is told of one session at the most.

Main results: a call that closes a session tells of that one, or of none (`tells_close`), and so do
every other operation but a submission (`tells_operate`); whatever is done, the listener finds
something each time it is told (`matched_proceed`).
-/
import SessionServer.Proofs.Outbound.Operations

namespace SessionServer

namespace Registry

variable {r r' r'' : Registry}

/-- What the listener was told and what it found. -/
def told (r : Registry) : List (SessionId × CloseReason) × List Tables := (r.notices, r.scenes)

/-- Between the registries the listener was told nothing, or it was told that a session was closed
when everything was as it is in the second one. -/
inductive Tells (r r' : Registry) : Prop
  | nothing (told_eq : r'.told = r.told)
  | once (k : SessionId) (reason : CloseReason)
      (told_eq : r'.told = (r.notices ++ [(k, reason)], r.scenes ++ [r'.toTables]))

lemma Tells.after (h : Tells r' r'') (htold : r'.told = r.told) : Tells r r'' := by
  obtain ⟨hnotices, hscenes⟩ := Prod.mk.inj htold
  cases h with
  | nothing told_eq => exact .nothing (told_eq.trans htold)
  | once k reason told_eq => exact .once k reason (by rw [told_eq, hnotices, hscenes])

/-- The listener found something each time it was told. -/
def Matched (r : Registry) : Prop := r.scenes.length = r.notices.length

lemma Matched.of_tells (h : r.Matched) (htells : Tells r r') : r'.Matched := by
  cases htells with
  | nothing told_eq =>
    obtain ⟨hnotices, hscenes⟩ := Prod.mk.inj told_eq
    rwa [Matched, hnotices, hscenes]
  | once k reason told_eq =>
    obtain ⟨hnotices, hscenes⟩ := Prod.mk.inj told_eq
    rw [Matched, hnotices, hscenes, List.length_append, List.length_append, h]
    rfl

lemma told_dropSecondary (r : Registry) (s : Session) : (r.dropSecondary s).told = r.told := by
  unfold dropSecondary
  cases s.secondary with
  | none => rfl
  | some ref =>
    dsimp only
    split <;> rfl

/-- The listener is told when nothing is left to be done. -/
lemma tells_close (r : Registry) (k : SessionId) (reason : CloseReason) :
    Tells r (r.close k reason).2 := by
  unfold close
  cases r.session? k with
  | none => exact .nothing rfl
  | some s =>
    dsimp only
    split_ifs
    · exact .nothing rfl
    · have hnotify : ∀ r : Registry, Tells r (r.notify k reason) := fun _ => .once k reason rfl
      exact (hnotify _).after (told_dropSecondary _ s)

lemma told_offer (r : Registry) (s : Session) (p : Packet) : (r.offer s p).2.told = r.told := by
  unfold offer
  split <;> rfl

lemma told_enqueue (r : Registry) (k : SessionId) (p : Packet) :
    (r.enqueue k p).2.told = r.told := by
  unfold enqueue
  cases r.session? k with
  | none => rfl
  | some s =>
    dsimp only
    split_ifs
    · rfl
    · rfl
    · exact told_offer r s p

lemma told_activate (r : Registry) (k : SessionId) : (r.activate k).2.told = r.told := by
  unfold activate
  split
  · split_ifs <;> rfl
  · rfl

lemma told_bindPlayer (r : Registry) (k : SessionId) (player : PlayerId) :
    (r.bindPlayer k player).2.told = r.told := by
  unfold bindPlayer
  split
  · rfl
  · split_ifs <;> rfl

lemma told_replaceSecondary (r : Registry) (previous : Option ChannelRef) (name : ChannelId) :
    (r.replaceSecondary previous name).told = r.told := by
  unfold replaceSecondary
  split
  · rfl
  · split
    · rfl
    · split_ifs <;> rfl

lemma told_attach (r : Registry) (resolve : Resolver) (ref : ChannelRef) (token : Bytes) :
    (r.attach resolve ref token).2.told = r.told := by
  have htry : (r.tryAttach resolve ref token).2.told = r.told := by
    unfold tryAttach
    split
    · rfl
    · split
      · split_ifs
        · rfl
        · rfl
        · exact told_replaceSecondary _ _ _
      · rfl
  unfold attach
  split
  all_goals
    rename_i h
    rwa [h] at htry

end Registry

namespace Engine

open Registry (Tells tells_close)

variable {e : Engine} {k : SessionId} {head : Packet} {ref : ChannelRef}

lemma told_schedule (e : Engine) (k : SessionId) :
    (e.schedule k).2.registry.told = e.registry.told := by
  unfold schedule
  cases e.registry.session? k with
  | none => rfl
  | some s =>
    dsimp only
    split_ifs <;> rfl

lemma told_scheduleRest (e : Engine) (k : SessionId) (rest : List Packet) :
    (e.scheduleRest k rest).registry.told = e.registry.told := by
  unfold scheduleRest
  split_ifs
  · rfl
  · exact told_schedule e k

lemma told_park (setup : Setup) (e : Engine) (k : SessionId) (ref : ChannelRef) :
    (e.park setup k ref).registry.told = e.registry.told := by
  unfold park
  cases setup.blocked with
  | retry => exact told_schedule e k
  | wait =>
    dsimp only
    split_ifs <;> rfl

/-- An offer to a full queue closes the session. -/
lemma tells_offer (e : Engine) (p : Packet) (k : SessionId) :
    Tells e.registry (e.offer p k).2.registry := by
  have htold := Registry.told_enqueue e.registry k p
  unfold offer
  generalize e.registry.enqueue k p = out at htold ⊢
  obtain ⟨answer, registry⟩ := out
  rcases answer with (_ | refused | _) | (_ | _ | _ | _)
  case error.queueFull => exact (tells_close registry k .queueOverflow).after htold
  case ok.queued | ok.droppedOldest => exact .nothing ((told_schedule _ k).trans htold)
  all_goals exact .nothing htold

/-- A last packet that was written to its end closes the session. -/
lemma tells_finishHead (e : Engine) (k : SessionId) (head : Packet) (rest : List Packet) (n : ℕ) :
    Tells e.registry (e.finishHead k head rest n).2.registry := by
  unfold finishHead
  dsimp only
  split_ifs
  · exact (tells_close _ k .lastPacket).after rfl
  · exact .nothing (told_scheduleRest _ k rest)

/-- A write that fails closes the session. -/
lemma tells_writeHead (setup : Setup) (e : Engine) (k : SessionId) (head : Packet)
    (rest : List Packet) (ref : ChannelRef) (c : Channel) :
    Tells e.registry (e.writeHead setup k head rest ref c).2.registry := by
  cases hw : c.tryWrite head.pending with
  | mk result c' =>
    cases result with
    | ok n =>
      rw [writeHead_of_ok hw]
      split_ifs
      · exact (tells_finishHead (e.wrote ref c') k head rest n).after rfl
      · exact .nothing (told_park setup (e.wrote ref c') k ref)
      · exact .nothing (told_schedule _ k)
    | error f =>
      rw [writeHead_of_error hw]
      split_ifs
      · exact .nothing (told_park setup (e.wrote ref c') k ref)
      · exact (tells_close _ k (.writeError f.message)).after rfl

lemma tells_writeOnce (setup : Setup) (e : Engine) (k : SessionId) :
    Tells e.registry (e.writeOnce setup k).2.registry := by
  have hdrop : ∀ rest, Tells e.registry (e.dropHead k rest).registry := fun rest =>
    .nothing (told_scheduleRest _ k rest)
  unfold writeOnce
  cases e.registry.session? k with
  | none => exact .nothing rfl
  | some s =>
    dsimp only
    split_ifs
    · exact .nothing rfl
    · cases s.queue.packets with
      | nil => exact .nothing rfl
      | cons head rest =>
        dsimp only
        cases e.registry.channelFor s head.transport with
        | none => exact hdrop rest
        | some ref =>
          dsimp only
          cases e.registry.channel? ref with
          | none => exact hdrop rest
          | some c => exact tells_writeHead setup e k head rest ref c

lemma told_tryPop {e' : Engine} {shard : ℕ} (h : e.tryPop shard = some (k, e')) :
    e'.registry.told = e.registry.told := by
  unfold tryPop at h
  split at h
  · cases h
  · obtain ⟨rfl, rfl⟩ := Prod.mk.inj (Option.some.inj h)
    rfl

/-- A submission may close several sessions, every other operation one at the most. -/
lemma tells_operate {op : Operation} (setup : Setup) (e : Engine) (hop : ∀ p, op ≠ .submit p) :
    Tells e.registry (e.operate setup op).registry := by
  cases op with
  | registry d =>
    cases d with
    | create primary => exact .nothing rfl
    | activate k => exact .nothing (Registry.told_activate e.registry k)
    | bindPlayer k player => exact .nothing (Registry.told_bindPlayer e.registry k player)
    | attach ref token =>
      exact .nothing (Registry.told_attach e.registry setup.resolve ref token)
    | enqueue k p => exact .nothing (Registry.told_enqueue e.registry k p)
    | close k reason => exact tells_close e.registry k reason
  | submit p => exact absurd rfl (hop p)
  | offer p k => exact tells_offer e p k
  | write k => exact tells_writeOnce setup e k
  | schedule k => exact .nothing (told_schedule e k)
  | take shard =>
    rw [operate]
    cases hpop : e.tryPop shard with
    | none => exact .nothing rfl
    | some popped => exact .nothing (told_tryPop hpop)
  | wake i =>
    rw [operate]
    cases e.waiters[i]? with
    | none => exact .nothing rfl
    | some w => exact .nothing (told_schedule _ w.session)
  | turn ref change => exact .nothing rfl

/-! ## Told as often as found -/

lemma matched_offerAll (h : e.registry.Matched) (p : Packet) (ids : List SessionId) :
    (offerAll p ids e).2.registry.Matched := by
  induction ids generalizing e with
  | nil => exact h
  | cons k ids ih => exact ih (h.of_tells (tells_offer e p k))

lemma matched_operate (h : e.registry.Matched) (setup : Setup) (op : Operation) :
    (e.operate setup op).registry.Matched := by
  by_cases hop : ∃ p, op = .submit p
  · obtain ⟨p, rfl⟩ := hop
    rw [operate]
    cases hf : e.frame setup p with
    | error err =>
      rw [submit_of_frame_error hf]
      exact h
    | ok frame =>
      rw [submit, hf]
      exact matched_offerAll (e := { e with nextPacketId := e.nextPacketId + 1 }) h _ p.recipients
  · exact h.of_tells (tells_operate setup e (not_exists.1 hop))

/-- Whatever is done, the listener finds something each time it is told. -/
lemma matched_proceed (h : e.registry.Matched) (setup : Setup) (ops : List Operation) :
    (e.proceed setup ops).registry.Matched := by
  induction ops generalizing e with
  | nil => exact h
  | cons op ops ih => exact ih (matched_operate h setup op)

end Engine

end SessionServer
