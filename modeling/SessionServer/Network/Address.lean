/-
# Addresses to listen on

An address is a host and a port.  Listening on it fails if it cannot be read, if its host is not
found, or if the machine does not let go of it: low ports are kept for the system, the host must
be the machine itself, and what connections arrive at one place cannot be shared out.
-/
import SessionServer.Network.Endpoint
import SessionServer.Network.Host
import SessionServer.Transport

namespace SessionServer

/-- An address to listen on. -/
structure Address where
  host : Host
  /-- The port, zero for any. -/
  port : Nat
deriving DecidableEq, Repr

/-- Why an address cannot be listened on. -/
inductive AddressError where
  /-- There is no colon in it. -/
  | invalidAddress
  /-- What follows the last colon is not a port. -/
  | invalidPort
  /-- There is a NUL character in its host. -/
  | nulInHost
  /-- Its host is neither a number nor a name. -/
  | unknownHost
  /-- Its host is a name, and nobody can be asked about it. -/
  | unresolved
  /-- Its port is kept for the system. -/
  | reservedPort
  /-- Its host cannot be used in this way. -/
  | invalidHost
  /-- The zone of its host is not there. -/
  | unknownZone
  /-- Its host is another machine. -/
  | notLocal
  /-- Connections to it go to somebody else. -/
  | inUse
deriving DecidableEq, Repr

/-- The wording of an address error. -/
def AddressError.message : AddressError → String
  | invalidAddress => "invalid socket address"
  | invalidPort => "invalid port value"
  | nulInHost => "file name contained an unexpected NUL byte"
  | unknownHost => "failed to lookup address information: Name or service not known"
  | unresolved => "failed to lookup address information: Temporary failure in name resolution"
  | reservedPort => "Permission denied (os error 13)"
  | invalidHost => "Invalid argument (os error 22)"
  | unknownZone => "No such device (os error 19)"
  | notLocal => "Cannot assign requested address (os error 99)"
  | inUse => "Address already in use (os error 98)"

namespace Address

/-! ### Reading -/

/-- The number of ports. -/
def portCount : Nat := 65536

/-- The port that a text spells. -/
def port? (cs : List Char) : Option Nat := Decimal.numberBelow? portCount cs

/-- The host that a text means. -/
def findHost (cs : List Char) : Except AddressError Host :=
  if cs.any (·.toNat = 0) then .error .nulInHost
  else
    match (Host.ipv4? cs).map Host.ipv4 <|> Host.ipv6? cs with
    | some host => .ok host
    | none =>
      if cs.map Char.toLower = Host.loopbackName.toList then .ok Host.loopback
      else if Host.isName cs then .error .unresolved
      else .error .unknownHost

/-- A long number in brackets.  It is read only in front of a port without a sign. -/
def bracketed? (host port : List Char) : Option Host :=
  match host with
  | '[' :: inner =>
    if inner.getLast? = some ']' && (Decimal.digits? port).isSome then Host.ipv6? inner.dropLast
    else none
  | _ => none

/-- Reads an address.  The port is what follows the last colon. -/
def parse (text : String) : Except AddressError Address :=
  let backwards := text.toList.reverse
  let port := (backwards.takeWhile (· ≠ ':')).reverse
  match backwards.dropWhile (· ≠ ':') with
  | [] => .error .invalidAddress
  | _ :: host =>
    match port? port with
    | none => .error .invalidPort
    | some n =>
      match bracketed? host.reverse port with
      | some host => .ok ⟨host, n⟩
      | none => (findHost host.reverse).map (⟨·, n⟩)

/-! ### Listening -/

/-- The first port that is not kept for the system. -/
def firstOpenPort : Nat := 1024

/-- Makes sure that a port is not kept for the system. -/
def checkPort (port : Nat) : Except AddressError Unit :=
  if 0 < port && port < firstOpenPort then .error .reservedPort else .ok ()

/-- The zone of the wire that every machine has to itself. -/
def loopbackZone : Nat := 1

/-- Makes sure that a host has a zone if it needs one. -/
def checkZone (host : Host) : Except AddressError Unit :=
  if !host.needsZone || host.zone = loopbackZone then .ok ()
  else if host.zone = 0 then .error .invalidHost
  else .error .unknownZone

/-- Whether a machine takes a host for itself.  As long as it is not on any network, it has
nothing to tell its own short numbers from others by. -/
def isOwn (link : Link) (host : Host) : Bool :=
  match host.shortValue? with
  | some value =>
    match link with
    | .up => value = 0 || value / 16777216 = 127
    | .down => true
  | none => host.isAny || (link = .up && host = .ipv6 [0, 0, 0, 0, 0, 0, 0, 1] 0)

/-- Makes sure that a host is the machine itself or a group it may be in. -/
def checkHost (link : Link) (host : Host) : Except AddressError Unit :=
  if host.isGroup || isOwn link host then .ok () else .error .notLocal

/-- Makes sure that the machine lets an address be listened on.  Groups cannot be connected to. -/
def check (link : Link) (transport : Transport) (a : Address) : Except AddressError Unit := do
  match a.host with
  | .ipv4 _ =>
    checkHost link a.host
    checkPort a.port
  | .ipv6 _ _ =>
    if transport.isPrimaryCapable && a.host.isGroup then .error .invalidHost
    else do
      checkPort a.port
      checkZone a.host
      checkHost link a.host

/-- Whether two listeners for connections are in each other's way. -/
def collides (a b : Address) : Bool :=
  a.port ≠ 0 && a.port = b.port && (a.host.covers b.host || b.host.covers a.host)

/-- The address that a text names, if it can be listened on.  `taken` are the addresses where
connections are accepted already. -/
def bind (link : Link) (transport : Transport) (taken : List Address) (text : String) :
    Except AddressError Address := do
  let address ← parse text
  check link transport address
  if transport.isPrimaryCapable && taken.any address.collides then .error .inUse
  else .ok address

end Address

end SessionServer
