/-
# Transports

The kinds of wire that a channel can be.  A session is opened on a *primary* transport, which
keeps bytes or messages in order; a stream session may add a *secondary* one for traffic that
may be lost or that brings its own ordering.
-/
namespace SessionServer

/-- The kind of wire that a channel writes to. -/
inductive Transport where
  | stream
  /-- Single datagrams, which may be lost. -/
  | datagram
  /-- A reliable, ordered byte stream built from datagrams. -/
  | reliableUdp
  /-- Whole messages over an upgraded text connection. -/
  | textSocket
deriving DecidableEq, Repr, Inhabited

namespace Transport

/-- The printed form of a transport. -/
def text : Transport → String
  | stream => "stream"
  | datagram => "datagram"
  | reliableUdp => "reliable-udp"
  | textSocket => "text-socket"

/-- The transports, in the order they are documented. -/
def all : List Transport := [stream, datagram, reliableUdp, textSocket]

/-- The name of a transport in descriptions of packets. -/
def label : Transport → String
  | stream => "Stream"
  | datagram => "Datagram"
  | reliableUdp => "ReliableUdp"
  | textSocket => "TextSocket"

/-- Byte streams do not keep message boundaries, so their frames carry a length field. -/
def needsCounting : Transport → Bool
  | stream | reliableUdp => true
  | datagram | textSocket => false

/-- Whether a session may be opened on the transport. -/
def isPrimaryCapable : Transport → Bool
  | stream | textSocket => true
  | datagram | reliableUdp => false

/-- Whether the transport may be added to a session that is already open. -/
def isSecondaryCapable : Transport → Bool
  | datagram | reliableUdp => true
  | stream | textSocket => false

end Transport

end SessionServer
