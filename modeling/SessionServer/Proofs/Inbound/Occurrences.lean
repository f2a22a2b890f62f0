/-
# Everything that happens

An engine is worked on from both sides: operations submit packets, write them and look after
sessions, and arrivals are read and become requests.  Besides, channels come into being, workers
take requests, endpoints are forgotten and time passes.  An engine lives through a list of such
*occurrences*, from the start, when there is nothing.

Operations leave alone what belongs to the reader (`intake_operate`).  What an arrival does to
sessions is what its `Heard` says.

Main results: sessions have names of their own at all times (`named_undergo`), and how far a session
has come changes in three ways only, unless the application makes sessions active
(`stage_occur`).
-/
import SessionServer.Proofs.Inbound.Arrivals
import SessionServer.Proofs.Outbound.Lifetime

namespace SessionServer

/-- What happens to an engine. -/
inductive Occurrence where
  | operation (op : Operation)
  | arrival (a : Arrival)
  /-- A channel comes into being. -/
  | channel (c : Channel)
  /-- The endpoints whose channels are closed are forgotten. -/
  | prune
  /-- The workers of the dispatcher are started. -/
  | start
  /-- A worker takes the next request. -/
  | work
  /-- The dispatcher is stopped. -/
  | shutdown
  /-- So many milliseconds pass. -/
  | wait (n : ℕ)

/-- The occurrence opens a session. -/
def Occurrence.opens : Occurrence → Bool
  | .operation op => op.opens
  | _ => false

namespace Engine

open Registry (stage_outline_of_none)

variable {e : Engine} {setup : Setup} {o : Occurrence} {os : List Occurrence} {n : ℕ}

/-- The engine after an occurrence. -/
def occur (setup : Setup) (e : Engine) : Occurrence → Engine
  | .operation op => e.operate setup op
  | .arrival a => e.receive setup a
  | .channel c => { e with registry := (e.registry.addChannel c).2 }
  | .prune => e.prunePeers.2
  | .start => { e with dispatcher := e.dispatcher.start.2 }
  | .work => { e with dispatcher := (e.dispatcher.take?.map (·.2)).getD e.dispatcher }
  | .shutdown => { e with dispatcher := e.dispatcher.shutdown }
  | .wait n => { e with registry := { e.registry with clock := e.registry.clock + n } }

/-- The engine after some occurrences. -/
def undergo (setup : Setup) (e : Engine) (os : List Occurrence) : Engine := os.foldl (occur setup) e

/-- The requests that are made by an occurrence. -/
def makes (setup : Setup) (e : Engine) : Occurrence → List Request
  | .arrival a => e.made setup a
  | _ => []

/-! ## The side of the reader -/

/-- What of an engine belongs to the reader. -/
structure Intake where
  nextRequestId : UInt64
  reader : ReaderStats
  dispatcher : Dispatcher Request
  peers : Index Endpoint ChannelRef
  channelIds : ChannelIds

def intake (e : Engine) : Intake where
  nextRequestId := e.nextRequestId
  reader := e.reader
  dispatcher := e.dispatcher
  peers := e.peers
  channelIds := e.channelIds

lemma intake_schedule (e : Engine) (k : SessionId) : (e.schedule k).2.intake = e.intake := by
  unfold schedule
  cases e.registry.session? k with
  | none => rfl
  | some s =>
    dsimp only
    split_ifs <;> rfl

lemma intake_offer (e : Engine) (p : Packet) (k : SessionId) :
    (e.offer p k).2.intake = e.intake := by
  unfold offer
  split
  · exact intake_schedule _ k
  · exact intake_schedule _ k
  · rfl
  · rfl
  · rfl

lemma intake_offerAll (p : Packet) (ids : List SessionId) (e : Engine) :
    (offerAll p ids e).2.intake = e.intake := by
  induction ids generalizing e with
  | nil => rfl
  | cons k ids ih => exact (ih (e.offer p k).2).trans (intake_offer e p k)

lemma intake_submit (setup : Setup) (e : Engine) (p : Packet) :
    (e.submit setup p).2.intake = e.intake := by
  unfold submit
  cases e.frame setup p with
  | error err => rfl
  | ok frame =>
    exact intake_offerAll (e.finished p frame) p.recipients
      { e with nextPacketId := e.nextPacketId + 1 }

lemma intake_scheduleRest (e : Engine) (k : SessionId) (rest : List Packet) :
    (e.scheduleRest k rest).intake = e.intake := by
  unfold scheduleRest
  split_ifs
  · rfl
  · exact intake_schedule e k

lemma intake_park (setup : Setup) (e : Engine) (k : SessionId) (ref : ChannelRef) :
    (e.park setup k ref).intake = e.intake := by
  unfold park
  cases setup.blocked with
  | retry => exact intake_schedule e k
  | wait =>
    dsimp only
    split_ifs <;> rfl

lemma intake_finishHead (e : Engine) (k : SessionId) (head : Packet) (rest : List Packet)
    (n : ℕ) : (e.finishHead k head rest n).2.intake = e.intake := by
  unfold finishHead
  dsimp only
  split_ifs
  · rfl
  · exact intake_scheduleRest _ k rest

lemma intake_writeHead (setup : Setup) (e : Engine) (k : SessionId) (head : Packet)
    (rest : List Packet) (ref : ChannelRef) (c : Channel) :
    (e.writeHead setup k head rest ref c).2.intake = e.intake := by
  unfold writeHead
  generalize c.tryWrite head.pending = written
  obtain ⟨result, c'⟩ := written
  cases result with
  | ok n =>
    dsimp only
    split_ifs
    · exact intake_finishHead _ k head rest n
    · exact intake_park setup _ k ref
    · exact intake_schedule _ k
  | error f =>
    dsimp only
    split_ifs
    · exact intake_park setup _ k ref
    · rfl

lemma intake_writeOnce (setup : Setup) (e : Engine) (k : SessionId) :
    (e.writeOnce setup k).2.intake = e.intake := by
  unfold writeOnce
  split
  · rfl
  · split_ifs
    · rfl
    · split
      · rfl
      · split
        · exact intake_scheduleRest _ k _
        · split
          · exact intake_scheduleRest _ k _
          · exact intake_writeHead setup e k _ _ _ _

/-- Operations leave alone what belongs to the reader. -/
lemma intake_operate (setup : Setup) (e : Engine) (op : Operation) :
    (e.operate setup op).intake = e.intake := by
  cases op with
  | registry d => rfl
  | submit p => exact intake_submit setup e p
  | offer p k => exact intake_offer e p k
  | write k => exact intake_writeOnce setup e k
  | schedule k => exact intake_schedule e k
  | take shard =>
    rw [operate]
    cases hpop : e.tryPop shard with
    | none => rfl
    | some popped =>
      unfold tryPop at hpop
      split at hpop
      · cases hpop
      · obtain rfl := Option.some.inj hpop
        rfl
  | wake i =>
    rw [operate]
    cases e.waiters[i]? with
    | none => rfl
    | some w => exact intake_schedule _ w.session
  | turn ref change => rfl

/-! ## Names -/

lemma numbered_of_stages {r r' : Registry} (h : r.Numbered n) (hnext : r'.nextId = r.nextId)
    (hstage : ∀ k, (r'.outline.stage k).isSome = (r.outline.stage k).isSome) : r'.Numbered n := by
  have hfate : ∀ (r : Registry) k, (r.fate k).isSome = (r.outline.stage k).isSome := by
    intro r k
    simp [Registry.fate, Registry.core, Registry.isSome_stage_outline]
  refine ⟨hnext ▸ h.nextId, fun k hk => h.toNat_le k ?_⟩
  rw [hfate] at hk ⊢
  exact (hstage k) ▸ hk

/-- What reaches the reader neither opens sessions nor takes names back. -/
lemma Named.receive (hn : e.Named n) (setup : Setup) (a : Arrival) :
    (e.receive setup a).Named n := by
  refine ⟨keyed_receive hn.keyed setup a, ?_⟩
  rcases made_cases hn.keyed setup a with ⟨-, -, calls, htally⟩ | ⟨q, -, -, -, -, htally⟩
  · have houtline := congrArg Tally.outline htally
    exact numbered_of_stages hn.numbered (congrArg Tally.nextId htally) fun k =>
      (congrArg (fun o => (o.stage k).isSome) houtline).trans (Outline.isSome_stage_closeAll _ _ k)
  · have houtline := congrArg Tally.outline htally
    refine numbered_of_stages hn.numbered (congrArg Tally.nextId htally) fun k =>
      (congrArg (fun o => (o.stage k).isSome) houtline).trans ?_
    show ((e.registry.outline.activate q.session).stage k).isSome = _
    rw [Outline.stage_activate]
    split_ifs with hk
    · rw [hk.1, hk.2]
      rfl
    · rfl

lemma Named.occur (hn : e.Named n) (setup : Setup) (o : Occurrence)
    (hroom : o.opens = true → n + 1 < UInt64.size) :
    (e.occur setup o).Named (n + [o].countP Occurrence.opens) := by
  cases o with
  | operation op =>
    have hcount : [Occurrence.operation op].countP Occurrence.opens
        = [op].countP Operation.opens := by
      rw [List.countP_singleton, List.countP_singleton]
      rfl
    rw [hcount]
    exact hn.operate setup op hroom
  | arrival a => exact hn.receive setup a
  | _ => exact ⟨hn.keyed, hn.numbered.nextId, hn.numbered.toNat_le⟩

lemma undergo_concat (setup : Setup) (e : Engine) (os : List Occurrence) (o : Occurrence) :
    e.undergo setup (os ++ [o]) = (e.undergo setup os).occur setup o :=
  List.foldl_concat ..

lemma room_of_opens (hcount : (os ++ [o]).countP Occurrence.opens < UInt64.size) :
    os.countP Occurrence.opens < UInt64.size ∧
      (o.opens = true → os.countP Occurrence.opens + 1 < UInt64.size) := by
  rw [List.countP_append, List.countP_singleton] at hcount
  refine ⟨by omega, fun hopens => ?_⟩
  rwa [if_pos hopens] at hcount

/-- At all times, sessions have names of their own. -/
lemma named_undergo (setup : Setup) (queueCapacity shards : ℕ) (config : DispatcherConfig)
    (hcount : os.countP Occurrence.opens < UInt64.size) :
    ((Engine.start queueCapacity shards config).undergo setup os).Named
      (os.countP Occurrence.opens) := by
  induction os using List.reverseRecOn with
  | nil =>
    have hstart : (Engine.start queueCapacity shards config).registry
        = .ofChannels queueCapacity #[] := rfl
    exact named_ofChannels hstart
  | append_singleton os o ih =>
    obtain ⟨hbefore, hroom⟩ := room_of_opens hcount
    rw [undergo_concat, List.countP_append]
    exact (ih hbefore).occur setup o hroom

/-! ## How far sessions come -/

/-- Unless the application makes a session active, a session stays at its stage, or is opened, or is
closed, as long as nothing arrives. -/
lemma stage_occur (hn : e.Named n) (setup : Setup) (hroom : o.opens = true → n + 1 < UInt64.size)
    (harrival : ∀ a, o ≠ .arrival a) (hactivate : ∀ k, o ≠ .operation (.registry (.activate k)))
    (k : SessionId) :
    (e.occur setup o).registry.outline.stage k = e.registry.outline.stage k ∨
      (e.registry.outline.stage k = none ∧
        (e.occur setup o).registry.outline.stage k = some .fresh) ∨
      (e.occur setup o).registry.outline.stage k = some .closed := by
  cases o with
  | arrival a => exact absurd rfl (harrival a)
  | operation op =>
    rw [occur, outline_operate]
    split
    · rw [Outline.stage_create]
      split_ifs with hk
      · rw [hk]
        exact .inr (.inl ⟨stage_outline_of_none (hn.fresh (hroom rfl)), rfl⟩)
      · exact .inl rfl
    · exact absurd rfl (hactivate _)
    · rcases Outline.stage_closeAll e.registry.outline (e.closings setup op) k with
        hsame | ⟨-, hclosed⟩
      · exact .inl hsame
      · exact .inr (.inr hclosed)
  | _ => exact .inl rfl

end Engine

end SessionServer
