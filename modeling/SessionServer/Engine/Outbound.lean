/-
# Writing packets

A packet that is submitted is framed once and offered to each of its recipients in turn.  A
session that took it gets a ticket.  Whoever takes a ticket makes one attempt to write the packet
at the front of that session's queue; what happens next depends on how much of it the channel
took.
-/
import SessionServer.Engine.Basic

namespace SessionServer

/-- What became of a packet that was submitted. -/
structure SubmitReport where
  /-- The number it was submitted under. -/
  id : UInt64
  /-- How many recipients took it. -/
  queued : Nat
  /-- How many packets were lost: this one where it was not taken, and others thrown out for it. -/
  dropped : Nat
deriving DecidableEq, Repr

/-- What one attempt to write did. -/
inductive WriteOutcome where
  | idle
  /-- A packet was written to its end. -/
  | complete (bytes : Nat)
  /-- A part of a packet was written. -/
  | incomplete (written remaining : Nat)
  | blocked
  /-- The session has no channel for the packet, which was thrown away. -/
  | dropped
  /-- The last packet was written to its end, and the session closed. -/
  | finished
  | failed
  | sessionClosed
deriving DecidableEq, Repr

/-- The printed form of an outcome, without its numbers. -/
def WriteOutcome.text : WriteOutcome → String
  | idle => "Idle"
  | complete _ => "Complete"
  | incomplete .. => "Partial"
  | blocked => "Blocked"
  | dropped => "Dropped"
  | finished => "Finished"
  | failed => "Failed"
  | sessionClosed => "SessionClosed"

/-- The numbers of an outcome. -/
def WriteOutcome.counts : WriteOutcome → List Nat
  | complete bytes => [bytes]
  | incomplete written remaining => [written, remaining]
  | _ => []

namespace Engine

/-! ### Submitting -/

/-- Offers a finished packet to one recipient.  Returns how many packets were queued and how many
were lost by that. -/
def offer (e : Engine) (p : Packet) (id : SessionId) : (Nat × Nat) × Engine :=
  match e.registry.enqueue id p with
  | (.ok .queued, registry) => ((1, 0), ({ e with registry }.schedule id).2)
  | (.ok .droppedOldest, registry) => ((1, 1), ({ e with registry }.schedule id).2)
  | (.ok _, registry) => ((0, 1), { e with registry })
  | (.error (.queueFull _), registry) => ((0, 1), { e with registry }.close id .queueOverflow)
  | (.error _, registry) => ((0, 1), { e with registry })

/-- Offers a finished packet to some recipients, one after the other. -/
def offerAll (p : Packet) : (ids : List SessionId) → Engine → (Nat × Nat) × Engine
  | [], e => ((0, 0), e)
  | id :: ids, e =>
    let ((queued, dropped), e) := e.offer p id
    let ((moreQueued, moreDropped), e) := offerAll p ids e
    ((queued + moreQueued, dropped + moreDropped), e)

/-- Frames the payload of a packet. -/
def frame (setup : Setup) (e : Engine) (p : Packet) : Except FrameError Bytes :=
  setup.codec.encode e.nextPacketId p.data
    { dataType := p.dataType, counting := p.counting, encrypted := p.encrypted }

/-- Frames a packet and queues it for its recipients.  If it cannot be framed, nothing happens. -/
def submit (setup : Setup) (e : Engine) (p : Packet) : Except FrameError SubmitReport × Engine :=
  match e.frame setup p with
  | .error err => (.error err, e)
  | .ok frame =>
    let id := e.nextPacketId
    -- what waits in a queue does not say who else it went to
    let finished := { p with recipients := [] }.encoded id frame
    let ((queued, dropped), e) := offerAll finished p.recipients { e with nextPacketId := id + 1 }
    let writer :=
      { e.writer with droppedPackets := e.writer.droppedPackets + UInt64.ofNat dropped }
    (.ok ⟨id, queued, dropped⟩, { e with writer })

/-! ### Writing -/

/-- Takes the first packet of a session away. -/
def popHead (e : Engine) (id : SessionId) : Engine :=
  e.modifySession id fun s => { s with queue := s.queue.pop }

/-- Gives a session a ticket if packets wait for it. -/
def scheduleRest (e : Engine) (id : SessionId) (rest : List Packet) : Engine :=
  if rest.isEmpty then e else (e.schedule id).2

/-- The first packet has no channel: it is thrown away. -/
def dropHead (e : Engine) (id : SessionId) (rest : List Packet) : Engine :=
  let e := (e.popHead id).modifySession id (·.recordDropped 1)
  let writer := { e.writer with droppedPackets := e.writer.droppedPackets + 1 }
  { e with writer }.scheduleRest id rest

/-- The channel took the first packet to its end. -/
def finishHead (e : Engine) (id : SessionId) (head : Packet) (rest : List Packet) (n : Nat) :
    WriteOutcome × Engine :=
  let e := (e.popHead id).modifySession id fun s =>
    (s.recordWrite e.registry.clock n).recordWrittenPacket
  let writer :=
    { e.writer with bytes := e.writer.bytes + UInt64.ofNat n, packets := e.writer.packets + 1 }
  let e := { e with writer }
  if head.last then (.finished, e.close id .lastPacket)
  else (.complete n, e.scheduleRest id rest)

/-- The channel took a part of the first packet. -/
def splitHead (e : Engine) (id : SessionId) (head : Packet) (n : Nat) : WriteOutcome × Engine :=
  let left := head.pending.drop n
  let e := e.modifySession id fun s =>
    { s.recordWrite e.registry.clock n with queue := s.queue.setFragment (some left) }
  let writer :=
    { e.writer with
      bytes := e.writer.bytes + UInt64.ofNat n
      partialWrites := e.writer.partialWrites + 1 }
  (.incomplete n left.length, ({ e with writer }.schedule id).2)

/-- The channel took nothing: the session tries again, at once or when the channel is ready. -/
def park (setup : Setup) (e : Engine) (id : SessionId) (channel : ChannelRef) : Engine :=
  match setup.blocked with
  | .retry => (e.schedule id).2
  | .wait =>
    -- a session that has a ticket will try again anyway
    if (e.registry.session? id).any (!·.ticket) then
      { e.modifySession id (fun s => { s with ticket := true }) with
        waiters := e.waiters ++ [⟨id, channel⟩] }
    else e

/-- The write failed. -/
def failHead (e : Engine) (id : SessionId) (f : Fault) : Engine :=
  let writer := { e.writer with writeErrors := e.writer.writeErrors + 1 }
  { e with writer }.close id (.writeError f.message)

/-- Offers the first packet of a session to its channel. -/
def writeHead (setup : Setup) (e : Engine) (id : SessionId) (head : Packet) (rest : List Packet)
    (ref : ChannelRef) (channel : Channel) : WriteOutcome × Engine :=
  let (result, channel) := channel.tryWrite head.pending
  let e := { e with registry := e.registry.modifyChannel ref fun _ => channel }
  match result with
  | .ok n =>
    if head.pending.length ≤ n then e.finishHead id head rest n
    else if n = 0 then (.blocked, e.park setup id ref)
    else e.splitHead id head n
  | .error f =>
    if f.kind = .wouldBlock then (.blocked, e.park setup id ref)
    else (.failed, e.failHead id f)

/-- Makes one attempt to write the first packet of a session. -/
def writeOnce (setup : Setup) (e : Engine) (id : SessionId) : WriteOutcome × Engine :=
  match e.registry.session? id with
  | none => (.sessionClosed, e)
  | some s =>
    if s.isClosed then (.sessionClosed, e)
    else
      match s.queue.packets with
      | [] => (.idle, e)
      | head :: rest =>
        match e.registry.channelFor s head.transport with
        | none => (.dropped, e.dropHead id rest)
        | some ref =>
          match e.registry.channel? ref with
          | none => (.dropped, e.dropHead id rest)
          | some channel => e.writeHead setup id head rest ref channel

/-! ### Waiting for channels -/

/-- Gives a session whose channel is ready its ticket. -/
def wake (e : Engine) (w : Waiter) : Engine := ((e.clearTicket w.session).schedule w.session).2

/-- A wait is over when the channel can be written to or never will be. -/
def isOver (e : Engine) (w : Waiter) : Bool :=
  match e.registry.channel? w.channel with
  | some c => c.readiness ≠ .pending
  | none => true

/-- Ends all waits that are over. -/
def wakeReady (e : Engine) : Engine :=
  let ready := e.waiters.filter e.isOver
  ready.foldl wake { e with waiters := e.waiters.filter fun w => !e.isOver w }

/-! ### Workers -/

/-- One attempt to write for the next ticket of a shard. -/
def work (setup : Setup) (e : Engine) (shard : Nat) : Option (SessionId × WriteOutcome × Engine) :=
  match e.tryPop shard with
  | none => none
  | some (id, e) =>
    let (outcome, e) := e.writeOnce setup id
    some (id, outcome, e)

/-- One round over some shards, each of which is worked on once, with at most `budget` attempts in
all. -/
def workRound (setup : Setup) :
    (budget : Nat) → (shards : List Nat) → Engine → List (SessionId × WriteOutcome) × Engine
  | 0, _, e => ([], e)
  | _, [], e => ([], e)
  | budget + 1, shard :: shards, e =>
    match e.work setup shard with
    -- a shard without tickets costs no attempt
    | none => workRound setup (budget + 1) shards e
    | some (id, outcome, e) =>
      let (more, e) := workRound setup budget shards e
      ((id, outcome) :: more, e)

/-- Rounds over all shards while there are tickets, with at most `budget` attempts in all. -/
def pump (setup : Setup) : (rounds budget : Nat) → Engine →
    List (SessionId × WriteOutcome) × Engine
  | 0, _, e => ([], e)
  | rounds + 1, budget, e =>
    if budget = 0 || e.tickets.total = 0 then ([], e)
    else
      let (done, e) := workRound setup budget (List.range e.tickets.count) e
      let (more, e) := pump setup rounds (budget - done.length) e
      (done ++ more, e)

end Engine

end SessionServer
