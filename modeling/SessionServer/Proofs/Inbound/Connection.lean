/-
# What the handler hears of a stream connection

A stream connection brings bytes in pieces of any size.  Its reader, the one worker of the
dispatcher and everybody else on the server take their steps in any order: the reader looks for one
frame at a time, the worker takes one request at a time and hands it to the handler, and whatever
else is done on the server lies *elsewhere*, as long as it does not close the session and makes no
request in the name of this connection.

Whatever the order, the requests that the connection has made and that nobody has taken yet wait
one behind the other, since all of them have the same priority and time does not run backwards, and
neither do the numbers of arrival, as long as there are any left.

Main result: what the handler hears of a connection is what the bytes say (`heard_in_full`).
-/
import SessionServer.Proofs.Inbound.Frames

namespace SessionServer

/-- The request was made of a frame that the stream connection of the session brought. -/
def Request.cameFrom (id : SessionId) (r : Request) : Bool :=
  r.session = id && r.transport = .stream

/-! ## The requests of one connection -/

/-- The dispatcher works: it is open, has workers, and something can wait in it. -/
structure Dispatcher.Serving (d : Dispatcher Request) : Prop where
  stopped_eq : d.stopped = false
  workers_ne : d.workers ≠ 0
  capacity_pos : 0 < d.capacity

lemma Dispatcher.Serving.enqueue {d : Dispatcher Request} (h : d.Serving)
    (priority timestamp : ℕ) (r : Request) : (d.enqueue priority timestamp r).2.Serving := by
  rcases d.enqueue_cases priority timestamp r with ⟨-, hout⟩ | ⟨-, -, hout⟩ | ⟨-, -, hout⟩
  · rwa [hout]
  · rwa [hout]
  · rw [hout]
    exact ⟨h.stopped_eq, h.workers_ne, h.capacity_pos⟩

/-- Nothing that waits came from the connection. -/
lemma Dispatcher.filter_cameFrom_eq_nil {id : SessionId} {d : Dispatcher Request}
    (h : ∀ w ∈ d.waiting, w.request.cameFrom id = false) :
    (d.waiting.map (·.request)).filter (·.cameFrom id) = [] := by
  rw [List.filter_map, List.filter_eq_nil_iff.2, List.map_nil]
  exact fun w hw hown => absurd ((h w hw).symm.trans hown) nofun

/-- How many requests were queued meanwhile. -/
def Dispatcher.since (d d' : Dispatcher Request) : ℕ := (d'.arrivals - d.arrivals).toNat

lemma Dispatcher.since_of_eq {d d' : Dispatcher Request} (h : d'.arrivals = d.arrivals) :
    d.since d' = 0 := by
  rw [since, h, UInt64.sub_self]
  rfl

lemma Dispatcher.since_receive (d : Dispatcher Request) (priority timestamp : ℕ) (r : Request) :
    d.since (d.receive priority timestamp r) = 1 := by
  have hnext : (d.receive priority timestamp r).arrivals - d.arrivals = 1 := by
    show d.arrivals + 1 - d.arrivals = 1
    rw [UInt64.add_comm, UInt64.add_sub_cancel]
  rw [since, hnext]
  rfl

/-- Some frames have been told, and so many requests were queued: the requests that have been taken
and those that wait are, as far as they came from the connection, the requests for these frames.
Those that wait have been waiting for no shorter time than a request that comes now. -/
structure Told (id : SessionId) (fs : List Frame) (log : List Request) (n : ℕ)
    (d : Dispatcher Request) (clock : ℕ) : Prop where
  ordered : d.Ordered
  arrivals_eq : d.arrivals = UInt64.ofNat n
  rank_le : ∀ w ∈ d.waiting, w.request.cameFrom id = true →
    w.priority = RequestPriority.normal.toNat ∧ w.timestamp ≤ clock
  arrival_lt : n ≤ UInt64.size → ∀ w ∈ d.waiting, w.request.cameFrom id = true →
    w.arrival.toNat < n
  content_eq : n ≤ UInt64.size →
    ((log ++ d.waiting.map (·.request)).filter (·.cameFrom id)).map Request.content = contents fs

section Told

variable {id : SessionId} {fs : List Frame} {log : List Request} {d d' : Dispatcher Request}
  {clock clock' n : ℕ} {r : Request}

lemma Told.of_clock_le (h : Told id fs log n d clock) (hle : clock ≤ clock') :
    Told id fs log n d clock' where
  ordered := h.ordered
  arrivals_eq := h.arrivals_eq
  rank_le w hw hown := by
    obtain ⟨hpriority, htime⟩ := h.rank_le w hw hown
    exact ⟨hpriority, htime.trans hle⟩
  arrival_lt := h.arrival_lt
  content_eq := h.content_eq

/-- Whoever takes a request takes it from the front. -/
lemma Told.take (h : Told id fs log n d clock) (ht : d.take? = some (r, d')) :
    Told id fs (log ++ [r]) n d' clock := by
  obtain ⟨-, -, w, rest, hw, rfl, rfl⟩ := Dispatcher.take?_eq_some_iff.1 ht
  refine ⟨h.ordered.take hw, h.arrivals_eq,
    fun v hv => h.rank_le v (hw ▸ List.mem_cons_of_mem w hv),
    fun hle v hv => h.arrival_lt hle v (hw ▸ List.mem_cons_of_mem w hv), fun hle => ?_⟩
  rw [← h.content_eq hle, hw, List.map_cons, List.append_assoc, List.singleton_append]

lemma Told.arrivals_receive (h : Told id fs log n d clock) (priority timestamp : ℕ) (r : Request) :
    (d.receive priority timestamp r).arrivals = UInt64.ofNat (n + 1) := by
  rw [UInt64.ofNat_add, ← h.arrivals_eq]
  rfl

/-- A request that did not come from the connection does not show. -/
lemma Told.enqueue_of_not_cameFrom (h : Told id fs log n d clock) (hr : r.cameFrom id = false)
    (priority timestamp : ℕ) :
    Told id fs log (n + d.since (d.enqueue priority timestamp r).2)
      (d.enqueue priority timestamp r).2 clock := by
  rcases d.enqueue_cases priority timestamp r with ⟨-, hout⟩ | ⟨-, -, hout⟩ | ⟨-, hroom, hout⟩
  · rwa [hout, Dispatcher.since_of_eq rfl, Nat.add_zero]
  · rwa [hout, Dispatcher.since_of_eq rfl, Nat.add_zero]
  · rw [hout, Dispatcher.since_receive]
    refine ⟨h.ordered.receive hroom priority timestamp r, h.arrivals_receive priority timestamp r,
      fun w hw hown => ?_, fun hle w hw hown => ?_, fun hle => ?_⟩
    · rcases (Waiting.mem_insert _ w d.waiting).1 hw with rfl | hw
      · exact absurd (hr.symm.trans hown) nofun
      · exact h.rank_le w hw hown
    · rcases (Waiting.mem_insert _ w d.waiting).1 hw with rfl | hw
      · exact absurd (hr.symm.trans hown) nofun
      · exact Nat.lt_succ_of_lt (h.arrival_lt (Nat.le_of_succ_le hle) w hw hown)
    · have hshown := h.content_eq (Nat.le_of_succ_le hle)
      rw [List.filter_append, List.filter_map] at hshown ⊢
      rwa [Dispatcher.receive, Waiting.filter_insert_of_neg _ hr]

/-- A request that comes from the connection waits behind all others that do. -/
lemma Told.receive (h : Told id fs log n d clock) (hroom : d.length < d.capacity)
    (hr : r.cameFrom id = true) {f : Frame}
    (hcontent : r.content
      = (if fs = [] then .connected else .message, f.dataType, f.payload)) :
    Told id (fs ++ [f]) log (n + 1) (d.receive RequestPriority.normal.toNat clock r) clock where
  ordered := h.ordered.receive hroom _ _ _
  arrivals_eq := h.arrivals_receive _ _ r
  rank_le w hw hown := by
    rcases (Waiting.mem_insert _ w d.waiting).1 hw with rfl | hw
    · exact ⟨rfl, le_refl clock⟩
    · exact h.rank_le w hw hown
  arrival_lt hle w hw hown := by
    rcases (Waiting.mem_insert _ w d.waiting).1 hw with rfl | hw
    · have hnumber : d.arrivals.toNat = n := h.arrivals_eq ▸ UInt64.toNat_ofNat_of_lt hle
      exact Nat.lt_succ_of_le hnumber.le
    · exact Nat.lt_succ_of_lt (h.arrival_lt (Nat.le_of_succ_le hle) w hw hown)
  content_eq hle := by
    have hnumber : d.arrivals.toNat = n := h.arrivals_eq ▸ UInt64.toNat_ofNat_of_lt hle
    have hlast : ∀ v ∈ d.waiting, v.request.cameFrom id = true →
        v.key ≤ (d.arrival RequestPriority.normal.toNat clock r).key := by
      intro v hv hown
      obtain ⟨hpriority, htime⟩ := h.rank_le v hv hown
      have harrival := h.arrival_lt (Nat.le_of_succ_le hle) v hv hown
      simp only [Waiting.key, Dispatcher.arrival, Prod.Lex.toLex_le_toLex, hpriority, hnumber]
      rcases htime.lt_or_eq with hearlier | hsame
      · exact .inr ⟨trivial, .inl hearlier⟩
      · exact .inr ⟨trivial, .inr ⟨hsame, harrival.le⟩⟩
    have hbehind := Waiting.filter_insert (fun w => w.request.cameFrom id) h.ordered.sorted hr hlast
    have hwaiting : ((d.receive RequestPriority.normal.toNat clock r).waiting.map
        (·.request)).filter (·.cameFrom id)
          = (d.waiting.map (·.request)).filter (·.cameFrom id) ++ [r] := by
      rw [List.filter_map, List.filter_map]
      exact (congrArg (List.map (·.request)) hbehind).trans List.map_append
    have hshown := h.content_eq (Nat.le_of_succ_le hle)
    rw [List.filter_append] at hshown ⊢
    rw [hwaiting, ← List.append_assoc, List.map_append, hshown, contents_append_singleton,
      ← hcontent]
    rfl

end Told

/-! ## A connection and its worker -/

/-- Why a connection is closed whose reading ended in this way. -/
def closeReason : Option FrameError → CloseReason
  | some err => .decodeError err.message
  | none => .peerClosed

/-- A stream connection with the pieces that it is going to bring, and the worker of the
dispatcher. -/
structure Connection where
  engine : Engine
  phase : Phase
  /-- The pieces that have not arrived yet. -/
  unsent : List Bytes
  /-- The request that the worker has taken and not handed to the handler yet. -/
  hand : Option Request := none
  /-- The requests that the handler was handed, first one first. -/
  handled : List Request := []
  /-- How many requests the dispatcher has queued. -/
  queued : ℕ := 0
  /-- How many frames could not be read on other connections. -/
  misreadElsewhere : UInt64 := 0

/-- What is done elsewhere neither opens nor closes the session, makes no request in the name of
its connection, and does not turn back time. -/
structure Elsewhere (id : SessionId) (o o' : Outlook) : Prop where
  lifecycle_eq : o'.lifecycle = o.lifecycle
  closings_eq : o'.closings = o.closings
  clock_le : o.clock ≤ o'.clock
  dispatcher : o'.dispatcher = o.dispatcher ∨
    ∃ priority timestamp r, r.cameFrom id = false ∧
      o'.dispatcher = (o.dispatcher.enqueue priority timestamp r).2

/-- What the reader of another connection does is done elsewhere. -/
lemma elsewhere_readNext {id k : SessionId} (h : id ≠ k) (setup : Setup) (e : Engine)
    (a : Assembler) : Elsewhere id (e.outlook id) ((e.readNext setup k a).2.outlook id) := by
  have hnothing : Elsewhere id (e.outlook id) (e.outlook id) :=
    ⟨rfl, rfl, le_refl _, .inl rfl⟩
  have hrejected : ∀ err, Elsewhere id (e.outlook id) ((e.rejectFrame k err).outlook id) := by
    intro err
    rw [Engine.rejectFrame, Engine.outlook_close_of_ne h]
    exact ⟨rfl, rfl, le_refl _, .inl rfl⟩
  obtain ⟨out, a', hn⟩ : ∃ out a', a.next = (out, a') := ⟨_, _, rfl⟩
  rcases out with err | _ | ⟨header, body⟩
  · simp only [Engine.readNext, hn]
    exact hrejected err
  · simp only [Engine.readNext, hn]
    exact hnothing
  · cases hf : setup.codec.decodeBody header body with
    | error err =>
      simp only [Engine.readNext, hn, hf, Engine.settleFrame]
      exact hrejected err
    | ok f =>
      simp only [Engine.readNext, hn, hf, Engine.settleFrame]
      rcases Engine.outlook_acceptFrame_of_ne h e .stream f with hout | hout
      · rw [hout]
        exact hnothing
      · rw [hout]
        refine ⟨rfl, rfl, le_refl _, .inr ⟨_, _, _, ?_, rfl⟩⟩
        simp [Request.cameFrom, Engine.request, h.symm]

namespace Connection

/-- What the reader of the connection and the worker do. -/
inductive Move where
  /-- The reader reads the next piece. -/
  | arrive
  /-- The reader looks for one frame. -/
  | turn
  /-- The reader comes to the end of the stream. -/
  | hangUp
  /-- The worker takes a request. -/
  | take
  /-- The worker hands its request to the handler. -/
  | handle

variable {setup : Setup} {e : Engine} {id : SessionId} {chunks : List Bytes} {c c' : Connection}

/-- A connection that has brought nothing yet. -/
def start (setup : Setup) (e : Engine) (chunks : List Bytes) : Connection where
  engine := e
  phase := .waiting (.start setup.codec.config.maxFrameSize)
  unsent := chunks
  queued := e.dispatcher.arrivals.toNat

/-- What a move does, if it can be made. -/
def move (setup : Setup) (id : SessionId) (c : Connection) : Move → Option Connection
  | .arrive =>
    match c.phase, c.unsent with
    | .waiting a, chunk :: chunks =>
      some { c with
        engine := (c.engine.countRead id chunk.length).countBytes chunk.length
        phase := .framing (a.push chunk)
        unsent := chunks }
    | _, _ => none
  | .turn =>
    match c.phase with
    | .framing a =>
      -- the dispatcher never fills up: it has room whenever a frame may come
      if c.engine.dispatcher.length < c.engine.dispatcher.capacity then
        some { c with
          engine := (c.engine.readNext setup id a).2
          phase := (c.engine.readNext setup id a).1
          queued := c.queued
            + c.engine.dispatcher.since (c.engine.readNext setup id a).2.dispatcher }
      else none
    | _ => none
  | .hangUp =>
    match c.phase, c.unsent with
    | .waiting _, [] => some { c with engine := c.engine.close id .peerClosed, phase := .ended }
    | _, _ => none
  | .take =>
    match c.hand, c.engine.dispatcher.take? with
    | none, some (r, dispatcher) =>
      some { c with engine := { c.engine with dispatcher }, hand := some r }
    | _, _ => none
  | .handle => c.hand.map fun r => { c with hand := none, handled := c.handled ++ [r] }

/-- What some moves do, if they can be made one after the other. -/
def play (setup : Setup) (id : SessionId) (c : Connection) : List Move → Option Connection
  | [] => some c
  | m :: moves => (c.move setup id m).bind fun c => c.play setup id moves

/-- What can come of a connection, by its own moves and by what is done elsewhere. -/
inductive Run (setup : Setup) (id : SessionId) (c₀ : Connection) : Connection → Prop
  | start : Run setup id c₀ c₀
  | move {c c' : Connection} (hrun : Run setup id c₀ c) (m : Move)
      (h : c.move setup id m = some c') : Run setup id c₀ c'
  | elsewhere {c : Connection} (hrun : Run setup id c₀ c) (e : Engine)
      (h : Elsewhere id (c.engine.outlook id) (e.outlook id)) :
      Run setup id c₀
        { c with
          engine := e
          queued := c.queued + c.engine.dispatcher.since e.dispatcher
          misreadElsewhere := c.misreadElsewhere
            + ((e.outlook id).misreads - (c.engine.outlook id).misreads) }

/-- What the handler has heard of the connection. -/
def heard (id : SessionId) (c : Connection) : List Content :=
  (c.handled.filter (·.cameFrom id)).map Request.content

/-- The reading has ended, and no request of the connection is on its way to the handler. -/
structure Rests (id : SessionId) (c : Connection) : Prop where
  phase_eq : c.phase = .ended
  hand_free : ∀ r ∈ c.hand, r.cameFrom id = false
  nothing_waits : ∀ w ∈ c.engine.dispatcher.waiting, w.request.cameFrom id = false

/-! ## What the reader has come to -/

/-- What has become of a session that was open before: how far its life has come, why it was
closed since, and how many frames could not be read on its connection and elsewhere. -/
structure Shows (before : Outlook) (elsewhere : UInt64) (o : Outlook) (l : Lifecycle)
    (reasons : List CloseReason) (misreads : UInt64) : Prop where
  lifecycle_eq : o.lifecycle = some l
  closings_eq : o.closings = before.closings ++ reasons
  misreads_eq : o.misreads = before.misreads + elsewhere + misreads

/-- Some frames have been read, and some bytes are going to be read after them. -/
structure Going (setup : Setup) (before : Outlook) (data : Bytes) (fs : List Frame)
    (elsewhere : UInt64) (o : Outlook) (rest : Bytes) : Prop where
  transcript_eq : setup.codec.transcript data
    = (fs ++ (setup.codec.transcript rest).1, (setup.codec.transcript rest).2)
  shows : Shows before elsewhere o (if fs = [] then .fresh else .active) [] 0

/-- Some frames have been read, and what has not been read yet is going to be read as the stream
says; or the reading has ended, and the session is closed for the right reason. -/
def Stands (setup : Setup) (before : Outlook) (data : Bytes) (fs : List Frame) (phase : Phase)
    (unsent : List Bytes) (elsewhere : UInt64) (o : Outlook) : Prop :=
  match phase with
  | .waiting a =>
    ∃ rest, a.Before setup.codec.config.maxFrameSize rest ∧
      takeFrame setup.codec.config.maxFrameSize rest = .ok none ∧
      Going setup before data fs elsewhere o (rest ++ unsent.flatten)
  | .framing a =>
    ∃ rest, a.Before setup.codec.config.maxFrameSize rest ∧
      Going setup before data fs elsewhere o (rest ++ unsent.flatten)
  | .ended =>
    ∃ fault, setup.codec.transcript data = (fs, fault) ∧
      Shows before elsewhere o .closed [closeReason fault] (if fault.isSome then 1 else 0)

/-- Some frames have been read and told. -/
structure Faithful (setup : Setup) (id : SessionId) (before : Outlook) (data : Bytes)
    (fs : List Frame) (c : Connection) : Prop where
  serving : (c.engine.outlook id).dispatcher.Serving
  told : Told id fs (c.handled ++ c.hand.toList) c.queued (c.engine.outlook id).dispatcher
    (c.engine.outlook id).clock
  stands : Stands setup before data fs c.phase c.unsent c.misreadElsewhere (c.engine.outlook id)

variable {before o o' : Outlook} {data rest : Bytes} {fs : List Frame} {a : Assembler}
  {phase : Phase} {unsent : List Bytes} {n n' : UInt64}

/-- A session whose frames are still being read is not over. -/
lemma Going.ne_closed (fs : List Frame) :
    (if fs = [] then Lifecycle.fresh else .active) ≠ .closed := by
  split_ifs <;> exact nofun

/-- What the stream says begins with the frames that have been read. -/
lemma Going.contents_prefix (h : Going setup before data fs n o rest) :
    contents fs <+: contents (setup.codec.transcript data).1 := by
  rw [h.transcript_eq]
  exact SessionServer.contents_prefix fs _

/-- Where the reader stands depends on what the engine shows of the session only. -/
lemma Stands.of_shows (h : Stands setup before data fs phase unsent n o)
    (hshows : ∀ l reasons misreads, Shows before n o l reasons misreads →
      Shows before n' o' l reasons misreads) :
    Stands setup before data fs phase unsent n' o' := by
  cases phase with
  | waiting a =>
    obtain ⟨rest, hb, ht, hgoing⟩ := h
    exact ⟨rest, hb, ht, hgoing.transcript_eq, hshows _ _ _ hgoing.shows⟩
  | framing a =>
    obtain ⟨rest, hb, hgoing⟩ := h
    exact ⟨rest, hb, hgoing.transcript_eq, hshows _ _ _ hgoing.shows⟩
  | ended =>
    obtain ⟨fault, htranscript, hclosed⟩ := h
    exact ⟨fault, htranscript, hshows _ _ _ hclosed⟩

/-! ### The moves of the reader -/

/-- A piece arrives behind what has not been read yet. -/
lemma Faithful.arrive {chunk : Bytes} (h : Faithful setup id before data fs c)
    (hphase : c.phase = .waiting a) (hunsent : c.unsent = chunk :: chunks) :
    Faithful setup id before data fs
      { c with
        engine := (c.engine.countRead id chunk.length).countBytes chunk.length
        phase := .framing (a.push chunk)
        unsent := chunks } := by
  have hstands := h.stands
  rw [hphase, hunsent] at hstands
  obtain ⟨rest, hb, -, hgoing⟩ := hstands
  have hcount := Engine.outlook_countRead c.engine id chunk.length
  refine ⟨hcount ▸ h.serving, hcount ▸ h.told, rest ++ chunk, Assembler.before_push hb chunk, ?_⟩
  rw [List.append_assoc, ← List.flatten_cons]
  dsimp only
  rw [hcount]
  exact hgoing

/-- A frame that can be restored is told, and the reader goes on behind it. -/
lemma Faithful.accept {f : Frame} {rest' : Bytes} (h : Faithful setup id before data fs c)
    (hgoing : Going setup before data fs c.misreadElsewhere (c.engine.outlook id) rest)
    (hroom : c.engine.dispatcher.length < c.engine.dispatcher.capacity)
    (hb : a.Before setup.codec.config.maxFrameSize rest')
    (hnext : setup.codec.transcript rest
      = (f :: (setup.codec.transcript (rest' ++ c.unsent.flatten)).1,
          (setup.codec.transcript (rest' ++ c.unsent.flatten)).2)) :
    Faithful setup id before data (fs ++ [f])
      { c with
        engine := c.engine.acceptFrame id .stream f
        phase := .framing a
        queued := c.queued
          + c.engine.dispatcher.since (c.engine.acceptFrame id .stream f).dispatcher } := by
  obtain ⟨hgreeting, haccept⟩ := Engine.outlook_acceptFrame .stream f hgoing.shows.lifecycle_eq
    (Going.ne_closed fs) h.serving.stopped_eq hroom
  have hqueued : c.engine.dispatcher.since (c.engine.acceptFrame id .stream f).dispatcher = 1 := by
    have hdispatcher := congrArg Outlook.dispatcher haccept
    exact (congrArg c.engine.dispatcher.since hdispatcher).trans (Dispatcher.since_receive ..)
  refine ⟨?_, ?_, rest', hb, ?_, ?_⟩
  · dsimp only
    rw [haccept]
    exact ⟨h.serving.stopped_eq, h.serving.workers_ne, h.serving.capacity_pos⟩
  · dsimp only
    rw [haccept, hqueued]
    refine h.told.receive hroom ?_ ?_
    · simp [Request.cameFrom, Engine.request]
    · rw [Request.content, Engine.request, hgreeting]
      cases fs <;> rfl
  · rw [hgoing.transcript_eq, hnext, List.append_assoc]
    rfl
  · dsimp only
    rw [haccept]
    refine ⟨?_, hgoing.shows.closings_eq, hgoing.shows.misreads_eq⟩
    rw [if_neg (List.append_ne_nil_of_right_ne_nil fs (List.cons_ne_nil f []))]

/-- A frame that is refused closes the session. -/
lemma Faithful.reject {err : FrameError} (h : Faithful setup id before data fs c)
    (hgoing : Going setup before data fs c.misreadElsewhere (c.engine.outlook id) rest)
    (hnext : setup.codec.transcript rest = ([], some err)) :
    Faithful setup id before data fs
      { c with
        engine := c.engine.rejectFrame id err
        phase := .ended
        queued := c.queued
          + c.engine.dispatcher.since (c.engine.rejectFrame id err).dispatcher } := by
  have hreject := Engine.outlook_rejectFrame hgoing.shows.lifecycle_eq (Going.ne_closed fs) err
  have hqueued : c.engine.dispatcher.since (c.engine.rejectFrame id err).dispatcher = 0 :=
    Dispatcher.since_of_eq rfl
  refine ⟨?_, ?_, some err, ?_, ?_⟩
  · dsimp only
    rw [hreject]
    exact h.serving
  · dsimp only
    rw [hreject, hqueued]
    exact h.told
  · rw [hgoing.transcript_eq, hnext, List.append_nil]
  · dsimp only
    rw [hreject]
    refine ⟨rfl, ?_, ?_⟩
    · rw [hgoing.shows.closings_eq, List.append_nil]
      rfl
    · rw [hgoing.shows.misreads_eq, UInt64.add_zero]
      rfl

/-- The reader looks for one frame: there is none yet, or it is told, or it is refused. -/
lemma Faithful.turn (h : Faithful setup id before data fs c) (hphase : c.phase = .framing a)
    (hroom : c.engine.dispatcher.length < c.engine.dispatcher.capacity) :
    ∃ fs', Faithful setup id before data fs'
      { c with
        engine := (c.engine.readNext setup id a).2
        phase := (c.engine.readNext setup id a).1
        queued := c.queued
          + c.engine.dispatcher.since (c.engine.readNext setup id a).2.dispatcher } := by
  have hstands := h.stands
  rw [hphase] at hstands
  obtain ⟨rest, hb, hgoing⟩ := hstands
  have hnext := Assembler.follows_next hb
  obtain ⟨out, a', hn⟩ : ∃ out a', a.next = (out, a') := ⟨_, _, rfl⟩
  rw [hn] at hnext
  rcases ht : takeFrame setup.codec.config.maxFrameSize rest with err | _ | ⟨⟨header, body⟩, rest'⟩
  · -- the assembler refuses what comes next
    rw [ht] at hnext
    obtain ⟨rfl, -⟩ := hnext
    refine ⟨fs, ?_⟩
    simp only [Engine.readNext, hn]
    exact h.reject hgoing (Codec.transcript_of_error (takeFrame_append_of_error ht))
  · -- there is no whole frame yet
    rw [ht] at hnext
    obtain ⟨rfl, hb'⟩ := hnext
    refine ⟨fs, ?_⟩
    simp only [Engine.readNext, hn]
    rw [Dispatcher.since_of_eq rfl, Nat.add_zero]
    exact ⟨h.serving, h.told, rest, hb', ht, hgoing⟩
  · rw [ht] at hnext
    obtain ⟨rfl, hb'⟩ := hnext
    have htake : takeFrame setup.codec.config.maxFrameSize (rest ++ c.unsent.flatten)
        = .ok (some ((header, body), rest' ++ c.unsent.flatten)) := takeFrame_append_of_some ht
    cases hf : setup.codec.decodeBody header body with
    | error err =>
      refine ⟨fs, ?_⟩
      simp only [Engine.readNext, hn, hf, Engine.settleFrame]
      exact h.reject hgoing (Codec.transcript_of_spoiled htake hf)
    | ok f =>
      refine ⟨fs ++ [f], ?_⟩
      simp only [Engine.readNext, hn, hf, Engine.settleFrame]
      exact h.accept hgoing hroom hb' (Codec.transcript_of_restored htake hf)

/-- The stream ends: what has arrived of the next frame is thrown away. -/
lemma Faithful.hangUp (h : Faithful setup id before data fs c) (hphase : c.phase = .waiting a)
    (hunsent : c.unsent = []) :
    Faithful setup id before data fs
      { c with engine := c.engine.close id .peerClosed, phase := .ended } := by
  have hstands := h.stands
  rw [hphase, hunsent] at hstands
  obtain ⟨rest, -, ht, hgoing⟩ := hstands
  rw [List.flatten_nil, List.append_nil] at hgoing
  have hclose := Engine.outlook_close hgoing.shows.lifecycle_eq (Going.ne_closed fs) .peerClosed
  refine ⟨?_, ?_, none, ?_, ?_⟩
  · dsimp only
    rw [hclose]
    exact h.serving
  · dsimp only
    rw [hclose]
    exact h.told
  · rw [hgoing.transcript_eq, Codec.transcript_of_none ht, List.append_nil]
  · dsimp only
    rw [hclose]
    refine ⟨rfl, ?_, hgoing.shows.misreads_eq⟩
    rw [hgoing.shows.closings_eq, List.append_nil]
    rfl

/-! ### The moves of the others -/

/-- The worker takes a request. -/
lemma Faithful.take {r : Request} {dispatcher : Dispatcher Request}
    (h : Faithful setup id before data fs c) (hfree : c.hand = none)
    (ht : c.engine.dispatcher.take? = some (r, dispatcher)) :
    Faithful setup id before data fs
      { c with engine := { c.engine with dispatcher }, hand := some r } := by
  obtain ⟨-, -, w, rest, -, -, hleft⟩ := Dispatcher.take?_eq_some_iff.1 ht
  have htold := h.told.take ht
  rw [hfree, Option.toList_none, List.append_nil] at htold
  refine ⟨?_, htold, h.stands.of_shows fun l reasons misreads hshows => ?_⟩
  · dsimp only [Engine.outlook]
    rw [hleft]
    exact ⟨h.serving.stopped_eq, h.serving.workers_ne, h.serving.capacity_pos⟩
  · exact ⟨hshows.lifecycle_eq, hshows.closings_eq, hshows.misreads_eq⟩

/-- The worker hands its request to the handler. -/
lemma Faithful.handle {r : Request} (h : Faithful setup id before data fs c)
    (hhand : c.hand = some r) :
    Faithful setup id before data fs { c with hand := none, handled := c.handled ++ [r] } := by
  refine ⟨h.serving, ?_, h.stands⟩
  have htold := h.told
  rw [hhand] at htold
  rwa [Option.toList_none, List.append_nil]

/-- Every move leaves a connection faithful. -/
lemma Faithful.move (h : Faithful setup id before data fs c) {m : Move}
    (hmove : c.move setup id m = some c') : ∃ fs', Faithful setup id before data fs' c' := by
  cases m with
  | arrive =>
    simp only [Connection.move] at hmove
    split at hmove
    · rename_i hphase hunsent
      obtain rfl := Option.some.inj hmove
      exact ⟨fs, h.arrive hphase hunsent⟩
    · cases hmove
  | turn =>
    simp only [Connection.move] at hmove
    split at hmove
    · rename_i hphase
      split_ifs at hmove with hroom
      obtain rfl := Option.some.inj hmove
      exact h.turn hphase hroom
    · cases hmove
  | hangUp =>
    simp only [Connection.move] at hmove
    split at hmove
    · rename_i hphase hunsent
      obtain rfl := Option.some.inj hmove
      exact ⟨fs, h.hangUp hphase hunsent⟩
    · cases hmove
  | take =>
    simp only [Connection.move] at hmove
    split at hmove
    · rename_i hfree ht
      obtain rfl := Option.some.inj hmove
      exact ⟨fs, h.take hfree ht⟩
    · cases hmove
  | handle =>
    obtain ⟨r, hhand, rfl⟩ := Option.map_eq_some_iff.1 hmove
    exact ⟨fs, h.handle hhand⟩

/-- What is done elsewhere leaves a connection faithful. -/
lemma Faithful.elsewhere (h : Faithful setup id before data fs c) {e : Engine}
    (he : Elsewhere id (c.engine.outlook id) (e.outlook id)) :
    Faithful setup id before data fs
      { c with
        engine := e
        queued := c.queued + c.engine.dispatcher.since e.dispatcher
        misreadElsewhere := c.misreadElsewhere
          + ((e.outlook id).misreads - (c.engine.outlook id).misreads) } := by
  refine ⟨?_, ?_, h.stands.of_shows fun l reasons misreads hshows => ⟨?_, ?_, ?_⟩⟩
  · rcases he.dispatcher with hsame | ⟨priority, timestamp, r, -, hqueued⟩
    · exact hsame ▸ h.serving
    · exact hqueued ▸ h.serving.enqueue priority timestamp r
  · have htold := h.told.of_clock_le he.clock_le
    rcases he.dispatcher with hsame | ⟨priority, timestamp, r, hr, hqueued⟩
    · have hnone : c.engine.dispatcher.since e.dispatcher = 0 :=
        Dispatcher.since_of_eq (congrArg Dispatcher.arrivals hsame)
      rw [hnone]
      exact hsame ▸ htold
    · have hmore := htold.enqueue_of_not_cameFrom hr priority timestamp
      rw [← hqueued] at hmore
      exact hmore
  · exact he.lifecycle_eq.trans hshows.lifecycle_eq
  · exact he.closings_eq.trans hshows.closings_eq
  · have hmisreads := hshows.misreads_eq
    generalize (c.engine.outlook id).misreads = counted at hmisreads ⊢
    subst hmisreads
    grind

/-- A stream connection that has just been accepted: its session is fresh, and the dispatcher, in
which nothing waits in its name, works with one worker. -/
structure Fresh (id : SessionId) (o : Outlook) : Prop where
  lifecycle_eq : o.lifecycle = some .fresh
  ordered : o.dispatcher.Ordered
  stopped_eq : o.dispatcher.stopped = false
  workers_eq : o.dispatcher.workers = 1
  capacity_pos : 0 < o.dispatcher.capacity
  not_cameFrom : ∀ w ∈ o.dispatcher.waiting, w.request.cameFrom id = false

lemma faithful_start (setup : Setup) (hfresh : Fresh id (e.outlook id)) (chunks : List Bytes) :
    Faithful setup id (e.outlook id) chunks.flatten [] (start setup e chunks) where
  serving := by
    refine ⟨hfresh.stopped_eq, ?_, hfresh.capacity_pos⟩
    show (e.outlook id).dispatcher.workers ≠ 0
    rw [hfresh.workers_eq]
    exact Nat.one_ne_zero
  told := by
    have hnone : ∀ w ∈ e.dispatcher.waiting, w.request.cameFrom id ≠ true :=
      fun w hw hown => absurd ((hfresh.not_cameFrom w hw).symm.trans hown) nofun
    refine ⟨hfresh.ordered, UInt64.ofNat_toNat.symm, fun w hw hown => absurd hown (hnone w hw),
      fun _ w hw hown => absurd hown (hnone w hw), fun _ => ?_⟩
    exact congrArg (List.map Request.content)
      (Dispatcher.filter_cameFrom_eq_nil hfresh.not_cameFrom)
  stands := by
    refine ⟨[], Assembler.before_start _, rfl, rfl, hfresh.lifecycle_eq, ?_, ?_⟩
    · rw [List.append_nil]
      rfl
    · rw [UInt64.add_zero, start, UInt64.add_zero]

lemma Faithful.run {c₀ : Connection} (h : Faithful setup id before data fs c₀)
    (hrun : Run setup id c₀ c) : ∃ fs', Faithful setup id before data fs' c := by
  induction hrun with
  | start => exact ⟨fs, h⟩
  | move _ m hmove ih =>
    obtain ⟨fs', hfaithful⟩ := ih
    exact hfaithful.move hmove
  | elsewhere _ e he ih =>
    obtain ⟨fs', hfaithful⟩ := ih
    exact ⟨fs', hfaithful.elsewhere he⟩

/-! ## Coming to the end -/

/-- The second connection comes of the first one by its own moves. -/
def Reaches (setup : Setup) (id : SessionId) (c c' : Connection) : Prop :=
  ∃ moves, c.play setup id moves = some c'

lemma play_append (setup : Setup) (id : SessionId) (c : Connection) (moves more : List Move) :
    c.play setup id (moves ++ more)
      = (c.play setup id moves).bind fun c => c.play setup id more := by
  induction moves generalizing c with
  | nil => rfl
  | cons m moves ih =>
    rw [List.cons_append, play, play, Option.bind_assoc]
    exact congrArg (Option.bind _) (funext ih)

lemma Reaches.refl (setup : Setup) (id : SessionId) (c : Connection) : Reaches setup id c c :=
  ⟨[], rfl⟩

lemma Reaches.trans {c₁ c₂ c₃ : Connection} (h₁ : Reaches setup id c₁ c₂)
    (h₂ : Reaches setup id c₂ c₃) : Reaches setup id c₁ c₃ := by
  obtain ⟨moves, h₁⟩ := h₁
  obtain ⟨more, h₂⟩ := h₂
  refine ⟨moves ++ more, ?_⟩
  rw [play_append, h₁]
  exact h₂

lemma reaches_of_move {m : Move} (h : c.move setup id m = some c') : Reaches setup id c c' :=
  ⟨[m], by rw [play, h]; rfl⟩

lemma Faithful.reaches (h : Faithful setup id before data fs c) (hreach : Reaches setup id c c') :
    ∃ fs', Faithful setup id before data fs' c' := by
  obtain ⟨moves, hplay⟩ := hreach
  induction moves generalizing c fs with
  | nil => exact ⟨fs, Option.some.inj hplay ▸ h⟩
  | cons m moves ih =>
    obtain ⟨c₁, hmove, hrest⟩ := Option.bind_eq_some_iff.1 hplay
    obtain ⟨fs₁, h₁⟩ := h.move hmove
    exact ih h₁ hrest

lemma Run.reaches {c₀ : Connection} (h : Run setup id c₀ c) (hreach : Reaches setup id c c') :
    Run setup id c₀ c' := by
  obtain ⟨moves, hplay⟩ := hreach
  induction moves generalizing c with
  | nil => exact Option.some.inj hplay ▸ h
  | cons m moves ih =>
    obtain ⟨c₁, hmove, hrest⟩ := Option.bind_eq_some_iff.1 hplay
    exact ih (h.move m hmove) hrest

/-- The worker can get its hand free. -/
lemma exists_free (setup : Setup) (id : SessionId) (c : Connection) :
    ∃ c', Reaches setup id c c' ∧ c'.phase = c.phase ∧ c'.unsent = c.unsent ∧ c'.hand = none ∧
      c'.engine = c.engine := by
  cases hhand : c.hand with
  | none => exact ⟨c, Reaches.refl setup id c, rfl, rfl, hhand, rfl⟩
  | some r =>
    have hmove : c.move setup id .handle
        = some { c with hand := none, handled := c.handled ++ [r] } := by
      rw [Connection.move, hhand, Option.map_some]
    exact ⟨_, reaches_of_move hmove, rfl, rfl, rfl, rfl⟩

/-- The worker can hand everything that waits to the handler, wherever the reader stands. -/
lemma exists_idle (setup : Setup) (id : SessionId) (hserving : c.engine.dispatcher.Serving) :
    ∃ c', Reaches setup id c c' ∧ c'.phase = c.phase ∧ c'.unsent = c.unsent ∧ c'.hand = none ∧
      c'.engine.dispatcher.waiting = [] := by
  generalize hw : c.engine.dispatcher.waiting = waiting
  induction waiting generalizing c with
  | nil =>
    obtain ⟨c', hreach, hphase, hunsent, hhand, hengine⟩ := exists_free setup id c
    exact ⟨c', hreach, hphase, hunsent, hhand, hengine ▸ hw⟩
  | cons w rest ih =>
    obtain ⟨c₁, hreach₁, hphase₁, hunsent₁, hhand₁, hengine₁⟩ := exists_free setup id c
    have htake : c₁.engine.dispatcher.take?
        = some (w.request, { c₁.engine.dispatcher with waiting := rest }) :=
      Dispatcher.take?_eq_some_iff.2 ⟨hengine₁ ▸ hserving.stopped_eq,
        hengine₁ ▸ hserving.workers_ne, w, rest, hengine₁ ▸ hw, rfl, rfl⟩
    have hmove : c₁.move setup id .take
        = some { c₁ with
            engine := { c₁.engine with
              dispatcher := { c₁.engine.dispatcher with waiting := rest } }
            hand := some w.request } := by
      rw [Connection.move, hhand₁, htake]
    have hserving₂ : Dispatcher.Serving { c₁.engine.dispatcher with waiting := rest } :=
      hengine₁ ▸ ⟨hserving.stopped_eq, hserving.workers_ne, hserving.capacity_pos⟩
    obtain ⟨c', hreach, hphase, hunsent, hhand, hnone⟩ := ih (c := { c₁ with
      engine := { c₁.engine with dispatcher := { c₁.engine.dispatcher with waiting := rest } }
      hand := some w.request }) hserving₂ rfl
    exact ⟨c', hreach₁.trans ((reaches_of_move hmove).trans hreach), hphase.trans hphase₁,
      hunsent.trans hunsent₁, hhand, hnone⟩

/-- The reader can look for one more frame if the dispatcher has room. -/
lemma exists_turn (setup : Setup) (id : SessionId) (hphase : c.phase = .framing a)
    (hroom : c.engine.dispatcher.length < c.engine.dispatcher.capacity) :
    ∃ c', c.move setup id .turn = some c' ∧ c'.unsent = c.unsent ∧
      ∀ a', c'.phase = .framing a' → a'.pending < a.pending := by
  refine ⟨{ c with
    engine := (c.engine.readNext setup id a).2
    phase := (c.engine.readNext setup id a).1
    queued := c.queued
      + c.engine.dispatcher.since (c.engine.readNext setup id a).2.dispatcher }, ?_, rfl,
    fun a' h => ?_⟩
  · rw [Connection.move, hphase]
    exact if_pos hroom
  · exact Engine.pending_lt_of_readNext h

/-- The reader can look for frames until it waits for bytes or has ended. -/
lemma Faithful.exists_pause (h : Faithful setup id before data fs c) :
    ∃ c', Reaches setup id c c' ∧ c'.unsent = c.unsent ∧
      (c'.phase = .ended ∨ ∃ a, c'.phase = .waiting a) := by
  cases hphase : c.phase with
  | ended => exact ⟨c, Reaches.refl setup id c, rfl, .inl hphase⟩
  | waiting a => exact ⟨c, Reaches.refl setup id c, rfl, .inr ⟨a, hphase⟩⟩
  | framing a =>
    induction hp : a.pending using Nat.strongRecOn generalizing a c fs with
    | _ n ih =>
      -- the worker makes room first
      obtain ⟨c₁, hreach₁, hphase₁, hunsent₁, -, hidle⟩ := exists_idle setup id h.serving
      obtain ⟨fs₁, h₁⟩ := h.reaches hreach₁
      have hroom : c₁.engine.dispatcher.length < c₁.engine.dispatcher.capacity := by
        rw [Dispatcher.length, hidle]
        exact h₁.serving.capacity_pos
      obtain ⟨c₂, hmove, hunsent₂, hless⟩ :=
        exists_turn setup id (hphase₁.trans hphase) hroom
      obtain ⟨fs₂, h₂⟩ := h₁.move hmove
      have hreach₂ := hreach₁.trans (reaches_of_move hmove)
      have hunsent := hunsent₂.trans hunsent₁
      cases hnext : c₂.phase with
      | ended => exact ⟨c₂, hreach₂, hunsent, .inl hnext⟩
      | waiting a' => exact ⟨c₂, hreach₂, hunsent, .inr ⟨a', hnext⟩⟩
      | framing a' =>
        obtain ⟨c', hreach, hunsent', hend⟩ := ih a'.pending (hp ▸ hless a' hnext) h₂ a' hnext rfl
        exact ⟨c', hreach₂.trans hreach, hunsent'.trans hunsent, hend⟩

/-- The reader can come to its end. -/
lemma Faithful.exists_ended (h : Faithful setup id before data fs c) :
    ∃ c', Reaches setup id c c' ∧ c'.phase = .ended := by
  generalize hpieces : c.unsent = pieces
  induction pieces generalizing c fs with
  | nil =>
    obtain ⟨c₁, hreach₁, hunsent₁, hended | ⟨a, hwaiting⟩⟩ := h.exists_pause
    · exact ⟨c₁, hreach₁, hended⟩
    · have hmove : c₁.move setup id .hangUp
          = some { c₁ with engine := c₁.engine.close id .peerClosed, phase := .ended } := by
        rw [Connection.move, hwaiting, hunsent₁, hpieces]
      exact ⟨_, hreach₁.trans (reaches_of_move hmove), rfl⟩
  | cons chunk pieces ih =>
    obtain ⟨c₁, hreach₁, hunsent₁, hended | ⟨a, hwaiting⟩⟩ := h.exists_pause
    · exact ⟨c₁, hreach₁, hended⟩
    · have hmove : c₁.move setup id .arrive
          = some { c₁ with
              engine := (c₁.engine.countRead id chunk.length).countBytes chunk.length
              phase := .framing (a.push chunk)
              unsent := pieces } := by
        rw [Connection.move, hwaiting, hunsent₁, hpieces]
      have hreach₂ := hreach₁.trans (reaches_of_move hmove)
      obtain ⟨fs₂, h₂⟩ := h.reaches hreach₂
      obtain ⟨c', hreach, hended⟩ := ih h₂ rfl
      exact ⟨c', hreach₂.trans hreach, hended⟩

/-- A connection can always come to rest. -/
lemma Faithful.exists_rests (h : Faithful setup id before data fs c) :
    ∃ c', Reaches setup id c c' ∧ c'.Rests id := by
  obtain ⟨c₁, hreach₁, hended⟩ := h.exists_ended
  obtain ⟨fs₁, h₁⟩ := h.reaches hreach₁
  obtain ⟨c', hreach, hphase, -, hhand, hidle⟩ := exists_idle setup id h₁.serving
  refine ⟨c', hreach₁.trans hreach, hphase.trans hended, fun r hr => ?_, fun w hw => ?_⟩
  · rw [hhand] at hr
    exact absurd hr nofun
  · rw [hidle] at hw
    exact absurd hw List.not_mem_nil

/-! ## The theorem -/

/-- What the handler has heard is told first of all that was told. -/
lemma Faithful.heard_prefix (h : Faithful setup id before data fs c)
    (hle : c.queued ≤ UInt64.size) : c.heard id <+: contents fs := by
  rw [← h.told.content_eq hle, heard, List.filter_append, List.filter_append, List.map_append,
    List.map_append]
  exact (List.prefix_append _ _).trans (List.prefix_append _ _)

/-- Once a connection rests, the handler has heard everything. -/
lemma Faithful.heard_eq (h : Faithful setup id before data fs c) (hle : c.queued ≤ UInt64.size)
    (hrests : c.Rests id) : c.heard id = contents fs := by
  have htold := h.told.content_eq hle
  have hhand : c.hand.toList.filter (·.cameFrom id) = [] :=
    List.filter_eq_nil_iff.2 fun r hr hown =>
      absurd ((hrests.hand_free r (Option.mem_toList.1 hr)).symm.trans hown) nofun
  have hwaiting : ((c.engine.outlook id).dispatcher.waiting.map (·.request)).filter (·.cameFrom id)
      = [] := Dispatcher.filter_cameFrom_eq_nil hrests.nothing_waits
  rwa [List.filter_append, List.filter_append, hhand, hwaiting, List.append_nil,
    List.append_nil] at htold

/-- What the stream says begins with the frames that have been read, wherever the reader stands. -/
lemma Stands.contents_prefix (h : Stands setup before data fs phase unsent n o) :
    contents fs <+: contents (setup.codec.transcript data).1 := by
  cases phase with
  | waiting a =>
    obtain ⟨rest, -, -, hgoing⟩ := h
    exact hgoing.contents_prefix
  | framing a =>
    obtain ⟨rest, -, hgoing⟩ := h
    exact hgoing.contents_prefix
  | ended =>
    obtain ⟨fault, htranscript, -⟩ := h
    exact htranscript ▸ List.prefix_rfl

/-- **What the handler hears of a stream connection is what its bytes say.**  The connection is
accepted on a server whose dispatcher has one worker; nobody else closes its session, and the
dispatcher has room whenever a frame comes.  However its bytes are cut, and whoever takes which
step when:

* what the handler has heard so far is one request for each of the first frames of the stream, in
  their order, the first of which opens the session, as long as numbers of arrival do not repeat;
* once the connection rests, the handler has heard all frames up to the first one that the
  assembler refuses or that cannot be restored, and nothing else; the session was closed once, for
  that frame, which was counted once, or else because the stream has ended, which is no error;
* the reader and the worker can always bring the connection to rest. -/
theorem heard_in_full (setup : Setup) (hfresh : Fresh id (e.outlook id)) (chunks : List Bytes)
    (hrun : Run setup id (start setup e chunks) c) :
    (c.queued ≤ UInt64.size →
      c.heard id <+: contents (setup.codec.transcript chunks.flatten).1) ∧
    (c.Rests id →
      (c.queued ≤ UInt64.size →
        c.heard id = contents (setup.codec.transcript chunks.flatten).1) ∧
      (c.engine.outlook id).lifecycle = some .closed ∧
      (c.engine.outlook id).closings
        = (e.outlook id).closings ++ [closeReason (setup.codec.transcript chunks.flatten).2] ∧
      (c.engine.outlook id).misreads
        = (e.outlook id).misreads + c.misreadElsewhere
          + (if (setup.codec.transcript chunks.flatten).2.isSome then 1 else 0)) ∧
    ∃ c', Reaches setup id c c' ∧ c'.Rests id := by
  obtain ⟨fs, h⟩ := (faithful_start setup hfresh chunks).run hrun
  refine ⟨fun hle => (h.heard_prefix hle).trans h.stands.contents_prefix, fun hrests => ?_,
    h.exists_rests⟩
  have hstands := h.stands
  rw [hrests.phase_eq] at hstands
  obtain ⟨fault, htranscript, hshows⟩ := hstands
  rw [htranscript]
  exact ⟨fun hle => h.heard_eq hle hrests, hshows.lifecycle_eq, hshows.closings_eq,
    hshows.misreads_eq⟩

/-- Two frames and one that is too large, cut inside a header and inside a length field.  Between
the first frame and the second one, another connection brings a byte that is no header. -/
theorem heard_in_full_before_oversized :
    let setup : Setup := { codec := ⟨{ maxFrameSize := 4 }, none, none⟩ }
    let registry := ((({} : Registry).create ⟨0⟩).2.create ⟨1⟩).2
    let dispatcher : Dispatcher Request :=
      { config := { workers := 1, maxQueueSize := 2 }, workers := 1 }
    let e : Engine := { registry, tickets := .ofCount 1, dispatcher }
    let chunks : List Bytes :=
      [[0x11], [0, 1, 7, 0x21, 0], [2, 8, 9, 0x15, 0, 0, 0, 9, 1], [0x11, 0, 0]]
    ∃ c, Run setup ⟨1⟩ (start setup e chunks) c ∧ c.Rests ⟨1⟩ ∧ c.misreadElsewhere = 1 ∧
      c.heard ⟨1⟩ = [(.connected, .zero, [7]), (.message, .msgPack, [8, 9])] ∧
      (c.engine.outlook ⟨1⟩).closings = [.decodeError "frame too large: 9 bytes (limit 4)"] ∧
      (c.engine.outlook ⟨1⟩).misreads = 2 := by
  intro setup registry dispatcher e chunks
  let other (c : Connection) : Connection :=
    let engine := (c.engine.readNext setup ⟨2⟩ ((Assembler.start 4).push [0xff])).2
    { c with
      engine
      queued := c.queued + c.engine.dispatcher.since engine.dispatcher
      misreadElsewhere := c.misreadElsewhere
        + ((engine.outlook ⟨1⟩).misreads - (c.engine.outlook ⟨1⟩).misreads) }
  have hplay : (((start setup e chunks).play setup ⟨1⟩ [.arrive, .turn, .arrive, .turn, .turn]).bind
      fun c => (other c).play setup ⟨1⟩
        [.take, .arrive, .turn, .turn, .handle, .take, .handle]).map
      (fun c => (c.phase, c.hand, c.engine.dispatcher.length, c.misreadElsewhere, c.queued))
      = some (.ended, none, 0, 1, 2) := by
    decide +kernel
  obtain ⟨c, hplayed, hout⟩ := Option.map_eq_some_iff.1 hplay
  obtain ⟨c₁, hfirst, hsecond⟩ := Option.bind_eq_some_iff.1 hplayed
  simp only [Prod.mk.injEq] at hout
  obtain ⟨hphase, hhand, hlength, helsewhere, hqueued⟩ := hout
  have hfresh : Fresh ⟨1⟩ (e.outlook ⟨1⟩) :=
    ⟨rfl, ⟨List.Pairwise.nil, Nat.zero_le _⟩, rfl, rfl, Nat.two_pos, nofun⟩
  have hother : Run setup ⟨1⟩ (start setup e chunks) (other c₁) :=
    (Run.start.reaches ⟨_, hfirst⟩).elsewhere _ (elsewhere_readNext (by decide) setup c₁.engine _)
  have hrun := hother.reaches ⟨_, hsecond⟩
  have hrests : c.Rests ⟨1⟩ := by
    refine ⟨hphase, fun r hr => absurd (hhand ▸ hr) nofun, fun w hw => ?_⟩
    rw [List.eq_nil_of_length_eq_zero hlength] at hw
    exact absurd hw List.not_mem_nil
  have hsaid : setup.codec.transcript chunks.flatten
      = ([⟨⟨true, false, false, false, .zero⟩, [7]⟩, ⟨⟨true, false, false, false, .msgPack⟩, [8, 9]⟩],
          some (.frameTooLarge 9 4)) := by
    have hfirst : takeFrame 4 chunks.flatten = .ok (some
        ((⟨true, false, false, false, .zero⟩, [7]),
          [0x21, 0, 2, 8, 9, 0x15, 0, 0, 0, 9, 1, 0x11, 0, 0])) := rfl
    have hsecond : takeFrame 4 [0x21, 0, 2, 8, 9, 0x15, 0, 0, 0, 9, 1, 0x11, 0, 0] = .ok (some
        ((⟨true, false, false, false, .msgPack⟩, [8, 9]),
          [0x15, 0, 0, 0, 9, 1, 0x11, 0, 0])) := rfl
    have hthird : takeFrame 4 [0x15, 0, 0, 0, 9, 1, 0x11, 0, 0]
        = .error (.frameTooLarge 9 4) := rfl
    rw [Codec.transcript_of_restored hfirst rfl, Codec.transcript_of_restored hsecond rfl,
      Codec.transcript_of_error hthird]
  obtain ⟨-, hend, -⟩ := heard_in_full setup hfresh chunks hrun
  obtain ⟨hheard, -, hclosings, hmisreads⟩ := hend hrests
  rw [hsaid] at hheard hclosings hmisreads
  have hle : c.queued ≤ UInt64.size := hqueued ▸ by decide
  refine ⟨c, hrun, hrests, helsewhere, hheard hle, ?_, ?_⟩
  · rw [hclosings]
    decide +kernel
  · rw [hmisreads, helsewhere]
    rfl

end Connection

end SessionServer
