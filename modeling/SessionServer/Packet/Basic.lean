/-
# Outbound packets

A packet is a message on its way to some sessions.  It starts out with the payload of the
application; once it is submitted it holds the finished frame, and when a channel has taken only
a part of that, the rest is kept as a fragment.
-/
import SessionServer.Bytes
import SessionServer.DataType
import SessionServer.Ids
import SessionServer.Transport

namespace SessionServer

/-- What to do with a packet when the queue of its recipient is full. -/
inductive OverflowPolicy where
  /-- Throw the oldest packet out. -/
  | dropOldest
  /-- Refuse the packet, which closes the session. -/
  | closeSession
  /-- Let the queue grow. -/
  | unbounded
deriving DecidableEq, Repr

/-- The printed form of a policy. -/
def OverflowPolicy.text : OverflowPolicy → String
  | dropOldest => "DropOldest"
  | closeSession => "CloseSession"
  | unbounded => "Unbounded"

/-- How much a packet cares about being delivered. -/
inductive Guarantee where
  /-- A later packet makes it worthless. -/
  | unreliable
  /-- Losing it would confuse the peer. -/
  | reliable
  /-- It must not be lost even if the queue is full. -/
  | critical
deriving DecidableEq, Repr, Inhabited

namespace Guarantee

/-- What a full queue does with a packet. -/
def overflowPolicy : Guarantee → OverflowPolicy
  | unreliable => .dropOldest
  | reliable => .closeSession
  | critical => .unbounded

/-- The name of a guarantee in descriptions of packets. -/
def label : Guarantee → String
  | unreliable => "Unreliable"
  | reliable => "Reliable"
  | critical => "Critical"

/-- The tag that names a guarantee in settings. -/
def tag : Guarantee → String
  | unreliable => "unreliable"
  | reliable => "reliable"
  | critical => "critical"

/-- The guarantees, in the order they are documented. -/
def all : List Guarantee := [unreliable, reliable, critical]

end Guarantee

/-- One outbound message. -/
structure Packet where
  /-- The number the packet was submitted under, zero before. -/
  id : UInt64 := 0
  /-- The payload before submission, the frame after it. -/
  data : Bytes
  dataType : DataType := .zero
  transport : Transport
  /-- How much it cares about being delivered. -/
  guarantee : Guarantee := .reliable
  encrypted : Bool := false
  /-- Whether its frame has a length field. -/
  counting : Bool := transport.needsCounting
  /-- Whether its session closes once it is written. -/
  last : Bool := false
  /-- The sessions it goes to. -/
  recipients : List SessionId := []
  /-- What is left of the frame when a part of it has been written. -/
  fragment : Option Bytes := none
deriving DecidableEq, Repr

namespace Packet

/-- A part of the packet has been written. -/
def isFragmented (p : Packet) : Bool := p.fragment.isSome

/-- The bytes that the next write has to send. -/
def pending (p : Packet) : Bytes := p.fragment.getD p.data

/-- The packet with its finished frame, under the number it was submitted as. -/
def encoded (p : Packet) (id : UInt64) (frame : Bytes) : Packet := { p with id, data := frame }

/-- The packet with the bytes that are left to send. -/
def withFragment (p : Packet) (fragment : Option Bytes) : Packet := { p with fragment }

/-- A one-line description that gives lengths in place of contents. -/
def describe (p : Packet) : String :=
  let fragment := match p.fragment with
    | some rest => s!"Some({rest.length})"
    | none => "None"
  s!"Packet \x7b id: {p.id.toNat}, len: {p.data.length}, transport: {p.transport.label}, " ++
    s!"guarantee: {p.guarantee.label}, recipients: {p.recipients.length}, " ++
    s!"fragment: {fragment}, last: {p.last} \x7d"

@[simp] theorem pending_withFragment_some (p : Packet) (rest : Bytes) :
    (p.withFragment (some rest)).pending = rest := rfl

theorem pending_of_not_isFragmented {p : Packet} (h : p.isFragmented = false) :
    p.pending = p.data := by
  unfold isFragmented at h
  unfold pending
  cases hf : p.fragment with
  | none => rfl
  | some _ => simp [hf] at h

end Packet

end SessionServer
