/-
# The AES block cipher with 256-bit keys

AES works on blocks of sixteen bytes, read as a square of four columns.  Bytes are elements of
the field with 256 elements: sums are exclusive ors and products are taken modulo
`x^8 + x^4 + x^3 + x + 1`.  Counter mode only ever encrypts blocks, so there is no inverse here.
-/
import SessionServer.Bytes

namespace SessionServer.Cipher

/-! ### The field of bytes -/

/-- Twice an element of the field. -/
def double (b : UInt8) : UInt8 :=
  if b &&& 0x80 = 0 then b <<< 1 else (b <<< 1) ^^^ 0x1B

/-- The product of two elements of the field, from the low `bits` bits of the second. -/
def product (a : UInt8) : (bits : Nat) → (b : UInt8) → UInt8
  | 0, _ => 0
  | bits + 1, b => (if b &&& 1 = 0 then 0 else a) ^^^ product (double a) bits (b >>> 1)

/-- The `n`th power of an element of the field. -/
def power (a : UInt8) : (n : Nat) → UInt8
  | 0 => 1
  | n + 1 => product a 8 (power a n)

/-- A byte with its bits moved `n` places up, and those that fall out put in below. -/
def rotate (b : UInt8) (n : UInt8) : UInt8 := (b <<< n) ||| (b >>> (8 - n))

/-- The substitute of a byte: its inverse in the field (zero for zero) under an affine map. -/
def substitute (b : UInt8) : UInt8 :=
  let inverse := power b 254
  inverse ^^^ rotate inverse 1 ^^^ rotate inverse 2 ^^^ rotate inverse 3 ^^^ rotate inverse 4
    ^^^ 0x63

/-- The substitutes of all bytes. -/
def substitutes : Array UInt8 := (Array.range 256).map fun n => substitute (UInt8.ofNat n)

/-- The substitute of a byte, from the table. -/
def substituteByte (b : UInt8) : UInt8 := substitutes.getD b.toNat 0

/-! ### Keys -/

/-- The number of rounds with a 256-bit key. -/
def rounds : Nat := 14

/-- A column of a block. -/
abbrev Column := List UInt8

/-- The sum of two byte strings, byte by byte. -/
def add (a b : Bytes) : Bytes := List.zipWith (· ^^^ ·) a b

/-- A byte string cut into pieces of `n` bytes, the last of which may be shorter. -/
def pieces (n : Nat) : (fuel : Nat) → Bytes → List Bytes
  | 0, _ => []
  | _, [] => []
  | fuel + 1, bytes => bytes.take n :: pieces n fuel (bytes.drop n)

/-- The key columns that follow those in `done` (latest first): each is the sum of the one eight
places back and a changed form of the one before it. -/
def keyColumns : (count : Nat) → (constant : UInt8) → (done : List Column) → List Column
  | 0, _, done => done
  | count + 1, constant, done =>
    let last := done.headD []
    let back := done.getD 7 []
    if done.length % 8 = 0 then
      let turned := (last.tail ++ last.take 1).map substituteByte
      keyColumns count (double constant) (add back (add turned [constant, 0, 0, 0]) :: done)
    else if done.length % 8 = 4 then
      keyColumns count constant (add back (last.map substituteByte) :: done)
    else keyColumns count constant (add back last :: done)

/-- The round keys of a 32-byte key, one block for each round and one to start with. -/
def roundKeys (key : Bytes) : List Bytes :=
  let start := (pieces 4 8 key).reverse
  let columns := (keyColumns (4 * (rounds + 1) - 8) 1 start).reverse
  pieces 16 (rounds + 1) columns.flatten

/-! ### Blocks -/

/-- Where each byte of a block comes from when row number `r` is moved `r` columns to the left. -/
def shiftedPlaces : List Nat := [0, 5, 10, 15, 4, 9, 14, 3, 8, 13, 2, 7, 12, 1, 6, 11]

/-- Moves the rows of a block. -/
def shiftRows (block : Bytes) : Bytes :=
  let places := block.toArray
  shiftedPlaces.map fun i => places.getD i 0

/-- Mixes the bytes of a column. -/
def mixColumn : Column → Column
  | [a, b, c, d] =>
    let all := a ^^^ b ^^^ c ^^^ d
    [a ^^^ all ^^^ double (a ^^^ b), b ^^^ all ^^^ double (b ^^^ c),
      c ^^^ all ^^^ double (c ^^^ d), d ^^^ all ^^^ double (d ^^^ a)]
  | column => column

/-- Mixes each column of a block. -/
def mixColumns (block : Bytes) : Bytes := (pieces 4 4 block).flatMap mixColumn

/-- The rounds of a block: all but the last mix the columns. -/
def encryptRounds : (keys : List Bytes) → Bytes → Bytes
  | [], block => block
  | [key], block => add (shiftRows (block.map substituteByte)) key
  | key :: keys, block =>
    encryptRounds keys (add (mixColumns (shiftRows (block.map substituteByte))) key)

/-- Encrypts one block of sixteen bytes. -/
def encryptBlock (keys : List Bytes) (block : Bytes) : Bytes :=
  match keys with
  | [] => block
  | key :: keys => encryptRounds keys (add block key)

end SessionServer.Cipher
