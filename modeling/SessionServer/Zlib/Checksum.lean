/-
# The checksum of a zlib stream

Two sums modulo 65521, the largest prime below `2 ^ 16`: the first adds up the bytes, the second
adds up the values the first one takes.
-/
import SessionServer.Bytes

namespace SessionServer.Zlib

/-- The modulus of both sums. -/
def checksumModulus : Nat := 65521

/-- Takes one byte into the two sums. -/
def checksumStep (sums : Nat × Nat) (b : UInt8) : Nat × Nat :=
  let low := (sums.1 + b.toNat) % checksumModulus
  (low, (sums.2 + low) % checksumModulus)

/-- The number that the two sums make. -/
def checksumOf (sums : Nat × Nat) : Nat := sums.2 * 65536 + sums.1

/-- The checksum of a byte string. -/
def checksum (data : Array UInt8) : Nat := checksumOf (data.foldl checksumStep (1, 0))

end SessionServer.Zlib
