/-
# Hosts

A host is a number of 32 or of 128 bits.  The short form is written as one to four numbers with
dots between them, of which the last one fills all the bytes that are left, and each of which may
be decimal, octal or hexadecimal.  The long form is written as groups of hexadecimal digits with
colons between them; two colons in a row stand for groups of zeros.

A host may also be written as a name.  Nobody is asked about names here: the only one that is
known is that of the machine itself.
-/
import SessionServer.Decimal

namespace SessionServer

/-- The number of a host. -/
inductive Host where
  /-- A number of 32 bits. -/
  | ipv4 (value : Nat)
  /-- A number of 128 bits in groups of 16, the highest ones first.  Some numbers mean different
  hosts on each wire that a machine has; the zone, if it is not zero, tells the wires apart. -/
  | ipv6 (groups : List Nat) (zone : Nat)
deriving DecidableEq, Repr

namespace Host

/-! ### Digits and fields -/

/-- The value of a digit in bases up to sixteen. -/
def digitValue? (c : Char) : Option Nat :=
  if c.isDigit then some (c.toNat - 48)
  else if 'a' ≤ c && c ≤ 'f' then some (c.toNat - 87)
  else if 'A' ≤ c && c ≤ 'F' then some (c.toNat - 55)
  else none

/-- The number that digits of the given base spell; nothing if there are none or other
characters. -/
def digits? (base : Nat) (cs : List Char) : Option Nat :=
  if cs.isEmpty then none
  else
    cs.foldlM
      (fun n c => (digitValue? c).bind fun d => if d < base then some (n * base + d) else none) 0

/-- The parts of a text between separators. -/
def fields (separator : Char) (cs : List Char) : List (List Char) :=
  cs.foldr
    (fun c parts =>
      match parts with
      | part :: rest => if c = separator then [] :: part :: rest else (c :: part) :: rest
      | [] => [[c]])
    [[]]

/-- The number whose bytes are given, most significant byte first. -/
def ofOctets (octets : List Nat) : Nat := octets.foldl (fun n octet => n * 256 + octet) 0

/-! ### Short numbers -/

/-- One of the numbers with dots between them: octal after a zero, hexadecimal after a zero and
an `x`, and decimal otherwise. -/
def part? : List Char → Option Nat
  | '0' :: 'x' :: cs | '0' :: 'X' :: cs => digits? 16 cs
  | '0' :: cs => digits? 8 ('0' :: cs)
  | cs => digits? 10 cs

/-- One more than the greatest number that fits in so many bytes. -/
def octetsBound : (count : Nat) → Nat
  | 0 => 1
  | count + 1 => 256 * octetsBound count

/-- A number of 32 bits in any of its forms. -/
def ipv4? (cs : List Char) : Option Nat := do
  let numbers ← (fields '.' cs).mapM part?
  let front := numbers.dropLast
  let last ← numbers.getLast?
  let bound := octetsBound (4 - front.length)
  if front.length < 4 && front.all (· < 256) && last < bound then
    some (ofOctets front * bound + last)
  else none

/-! ### Long numbers -/

/-- One of four decimal numbers: at most three digits, below 256, and no zero in front. -/
def octet? (cs : List Char) : Option Nat :=
  (Decimal.digits? cs).bind fun n =>
    if n < 256 && cs.length ≤ 3 && (cs.length = 1 || cs.head? ≠ some '0') then some n else none

/-- A number of 32 bits that is written as four decimal numbers. -/
def dotted? (cs : List Char) : Option Nat :=
  let parts := fields '.' cs
  if parts.length = 4 then (parts.mapM octet?).map ofOctets else none

/-- One group of a long number. -/
def group? (cs : List Char) : Option Nat := if cs.length ≤ 4 then digits? 16 cs else none

/-- The groups in front of the gap. -/
def front? (cs : List Char) : Option (List Nat) :=
  if cs.isEmpty then some [] else (fields ':' cs).mapM group?

/-- The groups at the end, of which the last two may be written as four decimal numbers. -/
def back? (cs : List Char) : Option (List Nat) :=
  let parts := fields ':' cs
  match dotted? (parts.getLastD []) with
  | some value => (parts.dropLast.mapM group?).map (· ++ [value / 65536, value % 65536])
  | none => front? cs

/-- What is in front of the first two colons in a row, and what is after them. -/
def cutGap : List Char → List Char × Option (List Char)
  | ':' :: ':' :: rest => ([], some rest)
  | c :: rest =>
    let (front, back) := cutGap rest
    (c :: front, back)
  | [] => ([], none)

/-- The number of groups in a long number. -/
def groupCount : Nat := 8

/-- The groups of a long number.  A gap stands for at least one group. -/
def groups? (cs : List Char) : Option (List Nat) :=
  match cutGap cs with
  | (whole, none) => (back? whole).filter (·.length = groupCount)
  | (front, some back) => do
    let front ← front? front
    let back ← back? back
    if front.length + back.length < groupCount then
      some (front ++ List.replicate (groupCount - (front.length + back.length)) 0 ++ back)
    else none

/-- A long number, with its zone after a percent sign if it has one. -/
def ipv6? (cs : List Char) : Option Host :=
  match cs.dropWhile (· ≠ '%') with
  | [] => (groups? cs).map (.ipv6 · 0)
  | _ :: zone => do
    let groups ← groups? (cs.takeWhile (· ≠ '%'))
    let zone ← Decimal.digits? zone
    if zone < UInt32.size then some (.ipv6 groups zone) else none

/-! ### Names -/

/-- The machine itself, by its number. -/
def loopback : Host := ipv4 2130706433

/-- The machine itself, by its name. -/
def loopbackName : String := "localhost"

/-- The longest part of a name. -/
def maxLabelLength : Nat := 63

/-- The longest name. -/
def maxNameLength : Nat := 253

/-- The characters of names. -/
def isNameChar (c : Char) : Bool := c.isAlphanum || c = '-' || c = '_' || c = '.'

/-- Whether a text can be the name of a host.  One dot may stand at its end. -/
def isName (cs : List Char) : Bool :=
  let name := if cs.getLast? = some '.' then cs.dropLast else cs
  cs.all isNameChar && cs.head? ≠ some '-' && name.length ≤ maxNameLength
    && (cs = ['.']
      || (fields '.' name).all fun label => !label.isEmpty && label.length ≤ maxLabelLength)

/-! ### Kinds of hosts -/

/-- The 32 bits of a host that has only those, in either form. -/
def shortValue? : Host → Option Nat
  | ipv4 value => some value
  | ipv6 [0, 0, 0, 0, 0, 65535, high, low] _ => some (high * 65536 + low)
  | ipv6 _ _ => none

/-- Whether a host is the long form of "any host". -/
def isAny : Host → Bool
  | ipv4 _ => false
  | ipv6 groups _ => groups.all (· = 0)

/-- Whether a number means a group of hosts. -/
def isGroup : Host → Bool
  | ipv4 value => value / 268435456 = 14
  | ipv6 groups _ => groups.headD 0 / 256 = 255

/-- Whether a number means a different host on each wire: it is one of those that are only valid
there, or a group that does not reach beyond it. -/
def needsZone : Host → Bool
  | ipv4 _ => false
  | ipv6 groups _ =>
    let first := groups.headD 0
    first / 64 = 1018 || (first / 256 = 255 && (first % 16 = 1 || first % 16 = 2))

/-- The zone of a host. -/
def zone : Host → Nat
  | ipv4 _ => 0
  | ipv6 _ zone => zone

/-- Whether one who listens at the first host hears what is sent to the second one. -/
def covers (h other : Host) : Bool :=
  h.isAny || (h.shortValue? = some 0 && other.shortValue?.isSome)
    || (h.shortValue?.isSome && h.shortValue? = other.shortValue?)

end Host

end SessionServer
