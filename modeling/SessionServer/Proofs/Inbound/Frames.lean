/-
# One frame of a stream connection

What a byte stream says is settled by the stream alone: its frames, up to the first one that is
refused or cannot be restored, and why that one is.  The reader of a connection goes from frame to
frame instead.  It makes one request of every frame it can restore, the first of which makes the
session active, and closes the session at the first one it cannot.

Main results: the transcript of a stream begins with the frame at its front
(`transcript_of_restored`, `transcript_of_spoiled`), what one turn of the reader does to the engine
(`outlook_acceptFrame`, `outlook_rejectFrame`), and that the turns after one read are
`Engine.readStream` (`exists_turns_eq_readStream`).
-/
import Mathlib.Logic.Function.Iterate
import SessionServer.Engine.Inbound
import SessionServer.Proofs.Dispatch.Queue
import SessionServer.Proofs.Frame.Parse
import SessionServer.Proofs.Registry.Core

namespace SessionServer

open Assembler (Piece)

/-! ## What a stream says -/

namespace Codec

variable {c : Codec} {data rest : Bytes} {h : Header} {body : Bytes} {f : Frame} {err : FrameError}

/-- The frames of some pieces up to the first one that cannot be restored, and why it cannot. -/
def restore (c : Codec) : List Piece → List Frame × Option FrameError
  | [] => ([], none)
  | (h, body) :: pieces =>
    match c.decodeBody h body with
    | .ok f => (f :: (c.restore pieces).1, (c.restore pieces).2)
    | .error err => ([], some err)

/-- The frames of a stream up to the first one that is refused or cannot be restored, and why that
one is, if there is one. -/
def transcript (c : Codec) (data : Bytes) : List Frame × Option FrameError :=
  let read := parse c.config.maxFrameSize data
  ((c.restore read.pieces).1, (c.restore read.pieces).2.or read.fault)

lemma transcript_of_error (ht : takeFrame c.config.maxFrameSize data = .error err) :
    c.transcript data = ([], some err) := by
  rw [transcript, parse_of_error ht]
  rfl

lemma transcript_of_none (ht : takeFrame c.config.maxFrameSize data = .ok none) :
    c.transcript data = ([], none) := by
  rw [transcript, parse_of_none ht]
  rfl

/-- A frame that can be restored comes first, and what follows it is read on. -/
lemma transcript_of_restored
    (ht : takeFrame c.config.maxFrameSize data = .ok (some ((h, body), rest)))
    (hf : c.decodeBody h body = .ok f) :
    c.transcript data = (f :: (c.transcript rest).1, (c.transcript rest).2) := by
  rw [transcript, transcript, parse_of_some ht]
  simp only [Parsed.after, List.cons_append, List.nil_append, restore, hf]

/-- A frame that cannot be restored ends the reading. -/
lemma transcript_of_spoiled
    (ht : takeFrame c.config.maxFrameSize data = .ok (some ((h, body), rest)))
    (hf : c.decodeBody h body = .error err) : c.transcript data = ([], some err) := by
  rw [transcript, parse_of_some ht]
  simp only [Parsed.after, List.cons_append, List.nil_append, restore, hf, Option.some_or]

end Codec

/-- What a request tells the handler about the frame that it was made of. -/
abbrev Content := RequestEvent × DataType × Bytes

def Request.content (r : Request) : Content := (r.event, r.dataType, r.payload)

/-- What the requests that are made of some frames tell the handler: one request for each frame,
and the first one opens the session. -/
def contents : List Frame → List Content
  | [] => []
  | f :: fs =>
    (.connected, f.dataType, f.payload) :: fs.map fun f => (.message, f.dataType, f.payload)

lemma contents_append_singleton (fs : List Frame) (f : Frame) :
    contents (fs ++ [f])
      = contents fs ++ [(if fs = [] then .connected else .message, f.dataType, f.payload)] := by
  cases fs with
  | nil => rfl
  | cons first fs => simp [contents]

lemma contents_prefix (fs more : List Frame) : contents fs <+: contents (fs ++ more) := by
  cases fs with
  | nil => exact List.nil_prefix
  | cons first fs => exact ⟨more.map fun f => (.message, f.dataType, f.payload), by simp [contents]⟩

/-! ## What the engine does with a frame -/

/-- What of an engine concerns the reader of one connection. -/
structure Outlook where
  /-- How far the life of its session has come. -/
  lifecycle : Option Lifecycle
  /-- Why the session was closed, once for each time that it was. -/
  closings : List CloseReason
  /-- How many frames could not be read, on all connections. -/
  misreads : UInt64
  clock : ℕ
  dispatcher : Dispatcher Request

namespace Engine

variable {e : Engine} {id k : SessionId} {l : Lifecycle}

def outlook (e : Engine) (id : SessionId) : Outlook where
  lifecycle := (e.registry.session? id).map (·.state)
  closings := (e.registry.notices.filter fun notice => notice.1 = id).map (·.2)
  misreads := e.reader.decodeErrors
  clock := e.registry.clock
  dispatcher := e.dispatcher

/-- The request that is made of a frame. -/
def request (e : Engine) (id : SessionId) (event : RequestEvent) (transport : Transport)
    (f : Frame) : Request where
  id := e.nextRequestId
  priority := .forTransport transport
  timestamp := e.registry.clock
  session := id
  event := event
  transport := transport
  dataType := f.dataType
  payload := f.payload

lemma outlook_modifySession {g : Session → Session} (hg : ∀ s, (g s).state = s.state)
    (e : Engine) (k id : SessionId) : (e.modifySession k g).outlook id = e.outlook id := by
  have hstate : ((e.modifySession k g).registry.session? id).map (·.state)
      = (e.registry.session? id).map (·.state) := by
    rw [modifySession, Registry.session?_modifySession]
    split_ifs
    · rw [Option.map_map]
      exact congrArg (Option.map · _) (funext hg)
    · rfl
  rw [outlook, hstate]
  rfl

/-- The bytes of a read are counted. -/
@[simp] lemma outlook_countRead (e : Engine) (id : SessionId) (n : ℕ) :
    ((e.countRead id n).countBytes n).outlook id = e.outlook id :=
  outlook_modifySession (g := (·.recordRead e.registry.clock n)) (fun _ => rfl) e id id

/-- The request that is made of a frame is offered to the dispatcher. -/
lemma outlook_dispatch (e : Engine) (id k : SessionId) (event : RequestEvent)
    (transport : Transport) (f : Frame) :
    (e.dispatch k event transport f).outlook id
      = { e.outlook id with
          dispatcher := ((e.outlook id).dispatcher.enqueue
            (RequestPriority.forTransport transport).toNat (e.outlook id).clock
            (e.request k event transport f)).2 } := by
  unfold dispatch request
  dsimp only [outlook]
  split <;> rename_i henqueue <;> rw [henqueue]

/-- A session that is open is active after it was made active, and tells whether it was before. -/
lemma outlook_activate (hl : (e.outlook id).lifecycle = some l) (hlive : l ≠ .closed) :
    (e.registry.activate id).1 = decide (l = .fresh) ∧
      Engine.outlook { e with registry := (e.registry.activate id).2 } id
        = { e.outlook id with lifecycle := some .active } := by
  obtain ⟨s, hs, rfl⟩ := Option.map_eq_some_iff.1 hl
  unfold Registry.activate
  rw [hs]
  dsimp only
  split_ifs with hfresh
  · refine ⟨(decide_eq_true hfresh).symm, ?_⟩
    have hactive : ((e.registry.modifySession id fun s => { s with state := .active }).session? id).map
        (·.state) = some .active := by
      rw [Registry.session?_modifySession, if_pos rfl, hs]
      rfl
    simp only [outlook, hactive]
    rfl
  · refine ⟨(decide_eq_false hfresh).symm, ?_⟩
    -- a session that is neither fresh nor over is active
    have hactive : s.state = .active := by
      cases hstate : s.state with
      | fresh => exact absurd hstate hfresh
      | active => rfl
      | closed => exact absurd hstate hlive
    simp only [outlook, hs, Option.map_some, hactive]

/-- The engine after a frame of a session was counted and the session was made active. -/
def greet (e : Engine) (id : SessionId) : Engine :=
  let e := e.countFrame.modifySession id (·.recordMessage)
  { e with registry := (e.registry.activate id).2 }

/-- What a frame of a session is to the handler: the first one opens the session. -/
def greeting (e : Engine) (id : SessionId) : RequestEvent :=
  let e := e.countFrame.modifySession id (·.recordMessage)
  if (e.registry.activate id).1 then .connected else .message

lemma acceptFrame_eq (e : Engine) (id : SessionId) (transport : Transport) (f : Frame) :
    e.acceptFrame id transport f
      = if (e.registry.session? id).all (·.isClosed) then e
        else (e.greet id).dispatch id (e.greeting id) transport f := rfl

lemma outlook_countFrame (e : Engine) (id k : SessionId) :
    (e.countFrame.modifySession k (·.recordMessage)).outlook id = e.outlook id :=
  outlook_modifySession (g := (·.recordMessage)) (fun _ => rfl) e.countFrame k id

/-- A frame of a session that is open becomes a request, and the session is active then. -/
lemma outlook_acceptFrame (transport : Transport) (f : Frame)
    (hl : (e.outlook id).lifecycle = some l) (hlive : l ≠ .closed)
    (hopen : (e.outlook id).dispatcher.stopped = false)
    (hroom : (e.outlook id).dispatcher.length < (e.outlook id).dispatcher.capacity) :
    e.greeting id = (if l = .fresh then .connected else .message) ∧
      (e.acceptFrame id transport f).outlook id
        = { e.outlook id with
            lifecycle := some .active
            dispatcher := (e.outlook id).dispatcher.receive
              (RequestPriority.forTransport transport).toNat (e.outlook id).clock
              ((e.greet id).request id (e.greeting id) transport f) } := by
  have hclosed : (e.registry.session? id).all (·.isClosed) = false := by
    obtain ⟨s, hs, rfl⟩ := Option.map_eq_some_iff.1 hl
    rw [hs]
    exact decide_eq_false hlive
  obtain ⟨hfirst, hactive⟩ := outlook_activate ((outlook_countFrame e id id).symm ▸ hl) hlive
  rw [outlook_countFrame] at hactive
  have hgreet : (e.greet id).outlook id = { e.outlook id with lifecycle := some .active } := hactive
  have hqueued := Dispatcher.enqueue_of_room hopen hroom
    (RequestPriority.forTransport transport).toNat (e.outlook id).clock
    ((e.greet id).request id (e.greeting id) transport f)
  constructor
  · simp only [greeting, hfirst, decide_eq_true_eq]
  · rw [acceptFrame_eq, hclosed, if_neg Bool.false_ne_true, outlook_dispatch, hgreet]
    dsimp only
    rw [hqueued]

/-- A session that is open is closed for one more reason. -/
lemma outlook_close (hl : (e.outlook id).lifecycle = some l) (hlive : l ≠ .closed)
    (reason : CloseReason) :
    (e.close id reason).outlook id
      = { e.outlook id with
          lifecycle := some .closed
          closings := (e.outlook id).closings ++ [reason] } := by
  obtain ⟨s, hs, rfl⟩ := Option.map_eq_some_iff.1 hl
  have hopen : s.isClosed = false := decide_eq_false hlive
  obtain ⟨hnotices, hclock⟩ := Registry.notices_close hs hopen reason
  have hcore : e.registry.core id = some s.core := Registry.core_eq_some_iff.2 ⟨s, hs, rfl⟩
  have hstate := Registry.core_close e.registry id reason id
  rw [if_pos rfl, hcore, Option.map_some, Session.isClosed_core, hopen] at hstate
  obtain ⟨t, ht, hshut⟩ := Registry.core_eq_some_iff.1 hstate
  have hclosed : t.state = .closed := congrArg Session.state hshut
  simp only [outlook, close, ht, Option.map_some, hclosed, hnotices, hclock, List.filter_append,
    List.map_append]
  simp

/-- A frame that cannot be read is counted and closes its session. -/
lemma outlook_rejectFrame (hl : (e.outlook id).lifecycle = some l) (hlive : l ≠ .closed)
    (err : FrameError) :
    (e.rejectFrame id err).outlook id
      = { e.outlook id with
          lifecycle := some .closed
          closings := (e.outlook id).closings ++ [.decodeError err.message]
          misreads := (e.outlook id).misreads + 1 } := by
  have hcounted : (e.countDecodeError.outlook id).lifecycle = some l := hl
  rw [rejectFrame, outlook_close hcounted hlive]
  rfl

/-! ### Other sessions -/

lemma outlook_activate_of_ne (h : id ≠ k) (e : Engine) :
    Engine.outlook { e with registry := (e.registry.activate k).2 } id = e.outlook id := by
  have hkept : (e.registry.activate k).2.session? id = e.registry.session? id ∧
      (e.registry.activate k).2.notices = e.registry.notices ∧
      (e.registry.activate k).2.clock = e.registry.clock := by
    unfold Registry.activate
    split
    · split_ifs
      · refine ⟨?_, rfl, rfl⟩
        rw [Registry.session?_modifySession, if_neg h]
      · exact ⟨rfl, rfl, rfl⟩
    · exact ⟨rfl, rfl, rfl⟩
  obtain ⟨hsession, hnotices, hclock⟩ := hkept
  simp only [outlook, hsession, hnotices, hclock]

/-- A frame of another session is not seen, or becomes a request in the name of that session. -/
lemma outlook_acceptFrame_of_ne (h : id ≠ k) (e : Engine) (transport : Transport) (f : Frame) :
    (e.acceptFrame k transport f).outlook id = e.outlook id ∨
      (e.acceptFrame k transport f).outlook id
        = { e.outlook id with
            dispatcher := ((e.outlook id).dispatcher.enqueue
              (RequestPriority.forTransport transport).toNat (e.outlook id).clock
              ((e.greet k).request k (e.greeting k) transport f)).2 } := by
  have hgreet : (e.greet k).outlook id = e.outlook id :=
    (outlook_activate_of_ne h _).trans (outlook_countFrame e id k)
  rw [acceptFrame_eq]
  split_ifs
  · exact .inl rfl
  · right
    rw [outlook_dispatch, hgreet]

/-- Closing another session is not seen. -/
lemma outlook_close_of_ne (h : id ≠ k) (e : Engine) (reason : CloseReason) :
    (e.close k reason).outlook id = e.outlook id := by
  have hcore := Registry.core_close e.registry k reason id
  rw [if_neg h] at hcore
  have hstate : ((e.registry.close k reason).2.session? id).map (·.state)
      = (e.registry.session? id).map (·.state) := by
    have hmap := congrArg (Option.map (·.state)) hcore
    rwa [Registry.core, Registry.core, Option.map_map, Option.map_map] at hmap
  by_cases hclosed : ∀ s, e.registry.session? k = some s → s.isClosed = true
  · rw [close, Registry.close_of_closed hclosed]
  · obtain ⟨s, hlive⟩ := not_forall.1 hclosed
    obtain ⟨hs, hopen⟩ := Classical.not_imp.1 hlive
    obtain ⟨hnotices, hclock⟩ := Registry.notices_close hs (eq_false_of_ne_true hopen) reason
    simp only [outlook, close, hstate, hnotices, hclock, List.filter_append]
    simp [h.symm]

end Engine

/-! ## The reader of a connection -/

/-- Where the reader of a stream connection stands. -/
inductive Phase where
  /-- It waits for bytes. -/
  | waiting (a : Assembler)
  /-- It looks for whole frames in what has arrived. -/
  | framing (a : Assembler)
  /-- It has ended. -/
  | ended
deriving DecidableEq, Repr

namespace Engine

variable {e : Engine} {id : SessionId} {setup : Setup} {a : Assembler}

/-- Looks for one whole frame in what has arrived. -/
def readNext (setup : Setup) (e : Engine) (id : SessionId) (a : Assembler) : Phase × Engine :=
  match a.next with
  | (.ok none, a) => (.waiting a, e)
  | (.error err, _) => (.ended, e.rejectFrame id err)
  | (.ok (some (h, body)), a) =>
    match e.settleFrame id .stream (setup.codec.decodeBody h body) with
    | (true, e) => (.framing a, e)
    | (false, e) => (.ended, e)

/-- A reader that looks for the next frame has found one. -/
lemma pending_lt_of_readNext {a' : Assembler} (h : (e.readNext setup id a).1 = .framing a') :
    a'.pending < a.pending := by
  obtain ⟨out, a₁, hn⟩ : ∃ out a₁, a.next = (out, a₁) := ⟨_, _, rfl⟩
  rcases out with err | _ | ⟨header, body⟩
  · simp only [readNext, hn] at h
    cases h
  · simp only [readNext, hn] at h
    cases h
  · simp only [readNext, hn] at h
    cases hf : setup.codec.decodeBody header body with
    | error err =>
      simp only [hf, settleFrame] at h
      cases h
    | ok f =>
      simp only [hf, settleFrame, Phase.framing.injEq] at h
      exact h ▸ Assembler.pending_lt_of_next hn

/-- One turn of a reader, which does nothing unless it looks for frames. -/
def turn (setup : Setup) (id : SessionId) : Phase × Engine → Phase × Engine
  | (.framing a, e) => e.readNext setup id a
  | (phase, e) => (phase, e)

/-- Where a read leaves the reader. -/
def afterRead (setup : Setup) (id : SessionId) (e : Engine)
    (drained : (List Piece × Option FrameError) × Assembler) : Phase × Engine :=
  match handlePieces setup id drained.1.1 e, drained.1.2 with
  | (false, e), _ => (.ended, e)
  | (true, e), none => (.waiting drained.2, e)
  | (true, e), some err => (.ended, e.rejectFrame id err)

lemma exists_turns_eq_afterRead (setup : Setup) (id : SessionId) (e : Engine) (a : Assembler) :
    ∃ n, (turn setup id)^[n] (.framing a, e) = afterRead setup id e a.drain := by
  induction hp : a.pending using Nat.strongRecOn generalizing a e with
  | _ n ih =>
    obtain ⟨out, a', hn⟩ : ∃ out a', a.next = (out, a') := ⟨_, _, rfl⟩
    rcases out with err | _ | ⟨h, body⟩
    · refine ⟨1, ?_⟩
      simp only [Function.iterate_one, turn, readNext, hn, Assembler.drain_of_error hn, afterRead,
        handlePieces]
    · refine ⟨1, ?_⟩
      simp only [Function.iterate_one, turn, readNext, hn, Assembler.drain_of_none hn, afterRead,
        handlePieces]
    · have hturn : turn setup id (.framing a, e) = e.readNext setup id a := rfl
      rw [Assembler.drain_of_some hn]
      cases hf : setup.codec.decodeBody h body with
      | error err =>
        refine ⟨1, ?_⟩
        simp only [Function.iterate_one, turn, readNext, hn, hf, settleFrame, afterRead,
          handlePieces]
      | ok f =>
        obtain ⟨m, hm⟩ := ih a'.pending (hp ▸ Assembler.pending_lt_of_next hn)
          (e.acceptFrame id .stream f) a' rfl
        refine ⟨m + 1, ?_⟩
        have hfirst : turn setup id (.framing a, e)
            = (.framing a', e.acceptFrame id .stream f) := by
          simp only [turn, readNext, hn, hf, settleFrame]
        rw [Function.iterate_succ_apply, hfirst, hm]
        simp only [afterRead, handlePieces, hf, settleFrame]

/-- The turns after one read, one after the other, are `readStream`. -/
theorem exists_turns_eq_readStream (setup : Setup) (e : Engine) (id : SessionId) (a : Assembler)
    (data : Bytes) :
    ∃ n, (turn setup id)^[n]
        (.framing (a.push data), (e.countRead id data.length).countBytes data.length)
      = match e.readStream setup id a data with
        | (some a, e) => (.waiting a, e)
        | (none, e) => (.ended, e) := by
  obtain ⟨n, hn⟩ := exists_turns_eq_afterRead setup id
    ((e.countRead id data.length).countBytes data.length) (a.push data)
  refine ⟨n, hn.trans ?_⟩
  unfold readStream afterRead
  generalize (a.push data).drain = drained
  obtain ⟨⟨pieces, fault⟩, a'⟩ := drained
  dsimp only
  generalize handlePieces setup id pieces _ = handled
  obtain ⟨goesOn, e'⟩ := handled
  cases goesOn <;> cases fault <;> rfl

end Engine

end SessionServer
