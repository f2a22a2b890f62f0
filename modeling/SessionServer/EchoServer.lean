/-
# An echo server

Sends every message back the way it came.  A session whose first message is a decimal number
belongs to the player of that number, so that a datagram with the same number joins it.  A session
that says `bye` gets that back and is closed.
-/
import SessionServer.Decimal
import SessionServer.Server.Run
import SessionServer.Text.Blank

namespace SessionServer

namespace EchoServer

/-- The player that a token names: a decimal number of at most 64 bits, with blank characters
around it if one likes. -/
def player? (token : Bytes) : Option PlayerId := do
  let text ← String.fromUTF8? ⟨token.toArray⟩
  let n ← Decimal.numberBelow? UInt64.size (Text.trimBlanks text.toList)
  return ⟨UInt64.ofNat n⟩

/-- The message after which a session is closed. -/
def farewell : Bytes := Bytes.ofText "bye"

/-- How a message is sent back. -/
def replyOptions (request : Request) : SendOptions where
  transport := some request.transport
  dataType := request.dataType
  last := request.payload = farewell

/-- Gives a session to the player that its first message names. -/
def welcome (request : Request) (s : Server) : Server :=
  if request.event = .connected then
    match player? request.payload with
    | some player => (s.bindPlayer request.session player).2
    | none => s
  else s

/-- Sends a message back. -/
def reply (request : Request) (s : Server) : Except ServerError SubmitReport × Server :=
  s.send [request.session] request.payload (replyOptions request)

/-- What is done with a request. -/
def handler : Handler (Except ServerError SubmitReport) := fun request s =>
  reply request (welcome request s)

/-- The configuration that a command line asks for: where to accept stream connections, datagrams
and text connections. -/
def configOf (arguments : List String) : ServerConfig :=
  let base : ServerConfig := {}
  { base with
    streamAddress := arguments[0]? <|> base.streamAddress
    datagramAddress := arguments[1]?
    textSocketAddress := arguments[2]? }

/-- The echo server that a command line asks for. -/
def ofArguments (arguments : List String) (link : Link := .up) : Except ServerError Server :=
  Server.ofConfig (configOf arguments) { resolve := player? } link

end EchoServer

end SessionServer
