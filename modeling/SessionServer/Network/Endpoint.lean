/-
# Endpoints

Datagrams come from endpoints and go to endpoints.
-/
import SessionServer.Network.Fault

namespace SessionServer

/-- A place in the network that datagrams come from and go to. -/
structure Endpoint where
  port : Nat
deriving DecidableEq, Repr

/-- Whether what is sent reaches anybody. -/
inductive Link where
  /-- Everything arrives, once and in order. -/
  | up
  /-- Nothing can be sent and nobody can connect. -/
  | down
deriving DecidableEq, Repr

/-- The fault of sending or connecting while the link is down. -/
def Link.fault : Fault :=
  { kind := .networkUnreachable, detail := some "Network is unreachable (os error 101)" }

end SessionServer
