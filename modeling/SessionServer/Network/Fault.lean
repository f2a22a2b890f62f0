/-
# Faults of the operating system

What can go wrong when a channel is written to.  Each kind of fault has a standard wording, which
a fault may replace by its own.
-/
namespace SessionServer

/-- The kind of a fault. -/
inductive FaultKind where
  | brokenPipe
  | connectionReset
  | connectionAborted
  | wouldBlock
  | timedOut
  | interrupted
  | permissionDenied
  | notConnected
  | writeZero
  | networkUnreachable
  | other
  | uncategorized
deriving DecidableEq, Repr

namespace FaultKind

/-- The name of a kind of fault. -/
def label : FaultKind → String
  | brokenPipe => "BrokenPipe"
  | connectionReset => "ConnectionReset"
  | connectionAborted => "ConnectionAborted"
  | wouldBlock => "WouldBlock"
  | timedOut => "TimedOut"
  | interrupted => "Interrupted"
  | permissionDenied => "PermissionDenied"
  | notConnected => "NotConnected"
  | writeZero => "WriteZero"
  | networkUnreachable => "NetworkUnreachable"
  | other => "Other"
  | uncategorized => "Uncategorized"

/-- The standard wording of a kind of fault. -/
def text : FaultKind → String
  | brokenPipe => "broken pipe"
  | connectionReset => "connection reset"
  | connectionAborted => "connection aborted"
  | wouldBlock => "operation would block"
  | timedOut => "timed out"
  | interrupted => "operation interrupted"
  | permissionDenied => "permission denied"
  | notConnected => "not connected"
  | writeZero => "write zero"
  | networkUnreachable => "network unreachable"
  | other => "other error"
  | uncategorized => "uncategorized error"

/-- The kinds of faults. -/
def all : List FaultKind :=
  [brokenPipe, connectionReset, connectionAborted, wouldBlock, timedOut, interrupted,
    permissionDenied, notConnected, writeZero, networkUnreachable, other, uncategorized]

end FaultKind

/-- A fault of the operating system. -/
structure Fault where
  kind : FaultKind
  /-- Its wording, if it is not the standard one. -/
  detail : Option String := none
deriving DecidableEq, Repr

namespace Fault

/-- The wording of a fault. -/
def message (f : Fault) : String := f.detail.getD f.kind.text

/-- A channel can take nothing right now. -/
def wouldBlock : Fault := { kind := .wouldBlock }

/-- A datagram is longer than datagrams can be. -/
def tooLong : Fault :=
  { kind := .uncategorized, detail := some "Message too long (os error 90)" }

/-- A channel has been closed. -/
def closed (channel : String) : Fault :=
  { kind := .notConnected, detail := some (channel ++ " channel closed") }

end Fault

end SessionServer
