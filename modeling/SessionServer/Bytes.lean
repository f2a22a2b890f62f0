/-
# Byte strings and the fields written in them

Everything on a wire is a byte string.  This file fixes the type, the big-endian fields that
length and counter values are written in, and the two-digit hexadecimal text of a byte.

Main results: a field of `w` bytes has length `w` (`length_bigEndian`), and reading back a
field gives the number that was written whenever it fits (`ofBigEndian_bigEndian_of_lt`).
-/
namespace SessionServer

/-- A byte string, first byte first. -/
abbrev Bytes := List UInt8

namespace Bytes

/-- The number that a field spells, most significant byte first. -/
def ofBigEndian (field : Bytes) : Nat :=
  field.foldl (fun n b => n * 256 + b.toNat) 0

/-- How many numbers a field of `width` bytes can hold: 256 for each byte. -/
def capacity : (width : Nat) → Nat
  | 0 => 1
  | width + 1 => 256 * capacity width

/-- The number `n` in `width` bytes, most significant byte first.  Digits that do not fit are
cut off at the front. -/
def bigEndian : (width : Nat) → (n : Nat) → Bytes
  | 0, _ => []
  | width + 1, n => UInt8.ofNat (n / capacity width) :: bigEndian width n

@[simp] theorem length_bigEndian (width n : Nat) : (bigEndian width n).length = width := by
  induction width with
  | zero => rfl
  | succ w ih => simp [bigEndian, ih]

private theorem foldl_bigEndian (width n start : Nat) :
    (bigEndian width n).foldl (fun n b => n * 256 + b.toNat) start
      = start * capacity width + n % capacity width := by
  induction width generalizing start with
  | zero => simp [bigEndian, capacity, Nat.mod_one]
  | succ w ih =>
    have hdigit : n % capacity (w + 1)
        = n % capacity w + capacity w * (n / capacity w % 256) := by
      rw [capacity, Nat.mul_comm, Nat.mod_mul]
    have hbyte : (UInt8.ofNat (n / capacity w)).toNat = n / capacity w % 256 := by simp
    rw [bigEndian, List.foldl_cons, ih, hbyte, hdigit, capacity, Nat.add_mul, Nat.mul_assoc,
      Nat.mul_comm (n / capacity w % 256), Nat.add_assoc, Nat.add_comm (n % capacity w)]

/-- Reading a field gives the number back, up to the digits that the field has no room for. -/
@[simp] theorem ofBigEndian_bigEndian (width n : Nat) :
    ofBigEndian (bigEndian width n) = n % capacity width := by
  simp [ofBigEndian, foldl_bigEndian]

/-- A number that fits its field comes back unchanged. -/
theorem ofBigEndian_bigEndian_of_lt {width n : Nat} (h : n < capacity width) :
    ofBigEndian (bigEndian width n) = n := by
  rw [ofBigEndian_bigEndian, Nat.mod_eq_of_lt h]

/-- The lowercase hexadecimal digit of a number below sixteen. -/
def hexDigit (n : Nat) : Char :=
  Char.ofNat (if n < 10 then 48 + n else 87 + n)

/-- A byte as two lowercase hexadecimal digits. -/
def hexByte (b : UInt8) : String :=
  String.ofList [hexDigit (b.toNat / 16), hexDigit (b.toNat % 16)]

/-- A byte string as lowercase hexadecimal digits, two for each byte. -/
def toHex (bytes : Bytes) : String :=
  String.ofList (bytes.flatMap fun b => [hexDigit (b.toNat / 16), hexDigit (b.toNat % 16)])

/-- The value of a hexadecimal digit of either case. -/
def digitValue (c : Char) : Nat :=
  if c.isDigit then c.toNat - 48 else c.toLower.toNat - 87

/-- The byte string that hexadecimal digits spell, two for each byte. -/
def ofHex (text : String) : Bytes :=
  let rec pairs : List Char → Bytes
    | high :: low :: rest => UInt8.ofNat (digitValue high * 16 + digitValue low) :: pairs rest
    | _ => []
  pairs text.toList

/-- The UTF-8 bytes of a text. -/
def ofText (text : String) : Bytes :=
  text.toUTF8.toList

end Bytes

end SessionServer
