/-
# Writing until everything rests

While a server runs, its writers work whenever there are tickets.  `flush` is what has come of
that once nothing more can happen: every packet has been written, or waits for a channel that
takes nothing.
-/
import SessionServer.Engine.Outbound

namespace SessionServer

namespace Engine

/-- Lets whatever works behind the channels go on until it rests. -/
def restChannels (e : Engine) : Engine :=
  { e with registry := { e.registry with channels := e.registry.channels.map Channel.rest } }

/-- Lets the channels come to rest and ends the waits that are over then. -/
def refresh (e : Engine) : Engine := e.restChannels.wakeReady

/-- How much there is to do for a session: a write for each byte that waits, and one more for each
packet. -/
def sessionWork (s : Session) : Nat :=
  s.queue.packets.foldl (fun n p => n + p.pending.length + 1) 0

/-- How many rounds of the writers are enough, if every attempt on a channel that is ready takes
something: each write may be preceded by an attempt that has to wait. -/
def workload (e : Engine) : Nat :=
  let work := e.registry.sessions.values.foldl (fun n s => n + sessionWork s) 0
  2 * work + e.tickets.total + e.registry.live.length

/-- Rounds of the writers, while there are tickets. -/
def rounds (setup : Setup) : (n : Nat) → Engine → Engine
  | 0, e => e
  | n + 1, e =>
    if e.tickets.total = 0 then e
    else
      let shards := List.range e.tickets.count
      rounds setup n (workRound setup shards.length shards e).2.refresh

/-- Lets the writers work until everything rests. -/
def flush (setup : Setup) (e : Engine) : Engine :=
  let e := e.refresh
  e.rounds setup e.workload

end Engine

end SessionServer
