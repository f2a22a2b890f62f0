/-
# The echo server as a program

The arguments are the addresses for stream connections, datagrams and text connections.  The
program takes its standard input for one stream connection, writes what is sent on it to its
standard output, and ends when the input does.
-/
import SessionServer.EchoServer

namespace SessionServer

namespace EchoServer

/-- What has been written to the channel that a session was opened on. -/
def sentTo (s : Server) (id : SessionId) : Bytes :=
  ((s.engine.registry.session? id).bind fun session =>
    (s.engine.registry.channel? session.primary).map (·.written)).getD []

/-- Feeds the connection of a session from the standard input until that ends.  `shown` is the
number of bytes that were written to the standard output already. -/
partial def serve (id : SessionId) (shown : Nat) (s : Server) : IO Server := do
  let data ← (← IO.getStdin).read (USize.ofNat s.config.readBufferSize)
  let ended := data.isEmpty
  let s := if ended then s.hangUp id .peerClosed else s.receive id data.toList
  let (_, s) := s.settle handler
  let sent := sentTo s id
  let out ← IO.getStdout
  out.write ⟨(sent.drop shown).toArray⟩
  out.flush
  if ended || (s.readings.find? id).isNone then return s else serve id sent.length s

/-- Runs the echo server on the standard streams. -/
def program (arguments : List String) : IO UInt32 := do
  match ofArguments arguments with
  | .error e =>
    IO.eprintln s!"error: {e.message}"
    return 1
  | .ok s =>
    match s.run with
    | (.error e, _) =>
      IO.eprintln s!"error: {e.message}"
      return 1
    | (.ok (), s) =>
      let (id, s) := s.acceptStream
      let _ ← serve id 0 s
      return 0

end EchoServer

end SessionServer

/-- Runs the echo server on the standard streams. -/
def main (arguments : List String) : IO UInt32 := SessionServer.EchoServer.program arguments
