/-
# Sending to many sessions

One payload goes to any number of sessions.  Unless a transport is asked for, each recipient gets
it on the transport it was opened on: recipients with the same transport form a group, and each
group is sent one packet.

Main result: no two groups have the same transport (`transports_addToGroup`).
-/
import SessionServer.Engine.Outbound

namespace SessionServer

/-- How a payload is sent. -/
structure SendOptions where
  /-- The transport to send it on, if not each recipient's own. -/
  transport : Option Transport := none
  dataType : DataType := .zero
  /-- How much it cares about being delivered. -/
  guarantee : Guarantee := .reliable
  encrypted : Bool := false
  /-- Whether the recipients are closed once it is written. -/
  last : Bool := false
deriving DecidableEq, Repr

/-- The packet that carries a payload to some sessions. -/
def SendOptions.packet (o : SendOptions) (payload : Bytes) (transport : Transport)
    (recipients : List SessionId) : Packet where
  data := payload
  dataType := o.dataType
  transport := transport
  guarantee := o.guarantee
  encrypted := o.encrypted
  last := o.last
  recipients := recipients

/-- Recipients that are sent the same packet. -/
abbrev RecipientGroup := Transport × List SessionId

/-- Puts a recipient into the group of its transport, or into a new one at the end. -/
def addToGroup (transport : Transport) (id : SessionId) : List RecipientGroup → List RecipientGroup
  | [] => [(transport, [id])]
  | (t, ids) :: groups =>
    if t = transport then (t, ids ++ [id]) :: groups
    else (t, ids) :: addToGroup transport id groups

theorem transports_addToGroup (transport : Transport) (id : SessionId)
    (groups : List RecipientGroup) :
    (addToGroup transport id groups).map (·.1)
      = if transport ∈ groups.map (·.1) then groups.map (·.1)
        else groups.map (·.1) ++ [transport] := by
  induction groups with
  | nil => simp [addToGroup]
  | cons group groups ih =>
    obtain ⟨t, ids⟩ := group
    by_cases h : t = transport
    · simp [addToGroup, h]
    · have h' : ¬ transport = t := fun e => h e.symm
      simp only [addToGroup, h, if_false, List.map_cons, ih, List.mem_cons, h', false_or]
      split <;> simp

namespace Engine

/-- The transport that a session was opened on. -/
def primaryTransport (e : Engine) (id : SessionId) : Option Transport :=
  ((e.registry.session? id).bind fun s => e.registry.channel? s.primary).map (·.transport)

/-- The recipients by the transports they were opened on, in order of first appearance. -/
def groupByPrimary (e : Engine) (recipients : List SessionId) : List RecipientGroup :=
  recipients.foldl
    (fun groups id =>
      match e.primaryTransport id with
      | some transport => addToGroup transport id groups
      | none => groups)
    []

/-- A report on several packets: the number is that of the first one. -/
def addReport (total report : SubmitReport) : SubmitReport where
  id := if total.id = 0 then report.id else total.id
  queued := total.queued + report.queued
  dropped := total.dropped + report.dropped

/-- Submits one packet for each group, until one of them cannot be framed. -/
def sendGroups (setup : Setup) (options : SendOptions) (payload : Bytes) :
    List RecipientGroup → SubmitReport → Engine → Except FrameError SubmitReport × Engine
  | [], total, e => (.ok total, e)
  | (transport, ids) :: groups, total, e =>
    if ids.isEmpty then sendGroups setup options payload groups total e
    else
      match e.submit setup (options.packet payload transport ids) with
      | (.ok report, e) => sendGroups setup options payload groups (addReport total report) e
      | (.error err, e) => (.error err, e)

/-- The groups that a payload is sent to. -/
def recipientGroups (e : Engine) (recipients : List SessionId) (options : SendOptions) :
    List RecipientGroup :=
  match options.transport with
  | some transport => [(transport, recipients)]
  | none => e.groupByPrimary recipients

/-- Sends a payload to some sessions.  Without recipients nothing is sent, and the report says
zero. -/
def send (setup : Setup) (e : Engine) (recipients : List SessionId) (payload : Bytes)
    (options : SendOptions) : Except FrameError SubmitReport × Engine :=
  sendGroups setup options payload (e.recipientGroups recipients options) ⟨0, 0, 0⟩ e

end Engine

end SessionServer
