/-
# Reading and writing single bits

Compressed data is a string of bits.  Bytes are filled from their least significant bit on, and
numbers of several bits are written least significant bit first.
-/
import SessionServer.Bytes

namespace SessionServer.Zlib

/-- A place in a bit string. -/
structure BitCursor where
  /-- The bytes that are not completely read yet. -/
  bytes : Bytes
  /-- How many bits of the first of them have been read. -/
  used : Fin 8 := 0
deriving DecidableEq, Repr

namespace BitCursor

/-- The start of a byte string. -/
def ofBytes (bytes : Bytes) : BitCursor := { bytes }

/-- The next bit. -/
def next (c : BitCursor) : Option (Bool × BitCursor) :=
  match c.bytes with
  | [] => none
  | b :: rest =>
    some (b.toNat.testBit c.used, if c.used = 7 then ⟨rest, 0⟩ else ⟨b :: rest, c.used + 1⟩)

/-- The number that the next `n` bits spell, least significant bit first. -/
def take : (n : Nat) → BitCursor → Option (Nat × BitCursor)
  | 0, c => some (0, c)
  | n + 1, c => do
    let (bit, c) ← c.next
    let (high, c) ← take n c
    some (bit.toNat + 2 * high, c)

/-- Skips to the start of a byte. -/
def align (c : BitCursor) : BitCursor :=
  if c.used = 0 then c else ofBytes c.bytes.tail

end BitCursor

/-- Bits that are being written. -/
structure BitSink where
  /-- The bytes that are full. -/
  bytes : Array UInt8 := #[]
  /-- The bits of the byte that is being filled. -/
  held : Nat := 0
  /-- How many bits that are. -/
  count : Nat := 0

namespace BitSink

/-- Writes one bit. -/
def putBit (s : BitSink) (bit : Bool) : BitSink :=
  let held := s.held + bit.toNat <<< s.count
  if s.count = 7 then ⟨s.bytes.push (UInt8.ofNat held), 0, 0⟩
  else ⟨s.bytes, held, s.count + 1⟩

/-- Writes the low `n` bits of a number, least significant bit first. -/
def put (s : BitSink) : (n : Nat) → (value : Nat) → BitSink
  | 0, _ => s
  | n + 1, value => (s.putBit (value % 2 = 1)).put n (value / 2)

/-- Writes the low `n` bits of a number, most significant bit first. -/
def putReversed (s : BitSink) : (n : Nat) → (value : Nat) → BitSink
  | 0, _ => s
  | n + 1, value => (s.putBit (value.testBit n)).putReversed n value

/-- Fills the byte that is being written with zeros. -/
def align (s : BitSink) : BitSink :=
  if s.count = 0 then s else ⟨s.bytes.push (UInt8.ofNat s.held), 0, 0⟩

/-- Writes whole bytes; the sink must be at the start of a byte. -/
def putBytes (s : BitSink) (bytes : Bytes) : BitSink :=
  { s with bytes := s.bytes ++ bytes }

end BitSink

end SessionServer.Zlib
