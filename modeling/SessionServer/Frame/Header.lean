/-
# The header byte of a frame

A frame starts with one byte.  Its low four bits say how the frame was made, the next two name
the payload format (exactly one of them is set), and the top two are reserved and must be clear.

Main results: reading back a header byte gives the header (`ofByte_toByte`), and a byte that is
accepted is the byte of the header it is read as (`eq_toByte_of_ofByte`).
-/
import SessionServer.Bytes
import SessionServer.DataType
import SessionServer.Frame.Error

namespace SessionServer

/-- How the rest of a frame is to be read. -/
structure Header where
  /-- A length field follows the header byte. -/
  counting : Bool := false
  compressed : Bool := false
  /-- The length field has four bytes and not two. -/
  bigSized : Bool := false
  encrypted : Bool := false
  dataType : DataType
deriving DecidableEq, Repr

namespace Header

/-- The header with the given bits, the last two of which name the payload format. -/
def ofFlags (counting compressed bigSized encrypted zero msgPack : Bool) :
    Except FrameError Header :=
  match zero, msgPack with
  | true, false => .ok ⟨counting, compressed, bigSized, encrypted, .zero⟩
  | false, true => .ok ⟨counting, compressed, bigSized, encrypted, .msgPack⟩
  | true, true => .error (.invalidHeader "both zero and msgpack flags set")
  | false, false => .error (.invalidHeader "neither zero nor msgpack flag set")

/-- The bits that no header sets. -/
def reserved : UInt8 := 0xC0

/-- Reads a header byte.  The reserved bits are looked at first. -/
def ofByte (b : UInt8) : Except FrameError Header :=
  if b &&& reserved ≠ 0 then
    .error (.invalidHeader ("reserved bits set in 0x" ++ Bytes.hexByte b))
  else
    ofFlags (b &&& 0x01 != 0) (b &&& 0x02 != 0) (b &&& 0x04 != 0) (b &&& 0x08 != 0)
      (b &&& 0x10 != 0) (b &&& 0x20 != 0)

/-- The byte that carries one flag at the given place. -/
private def bit (flag : Bool) (place : UInt8) : UInt8 :=
  if flag then place else 0

/-- The header as it is written in front of a frame. -/
def toByte (h : Header) : UInt8 :=
  bit h.counting 0x01 ||| bit h.compressed 0x02 ||| bit h.bigSized 0x04 ||| bit h.encrypted 0x08
    ||| (match h.dataType with | .zero => 0x10 | .msgPack => 0x20)

/-- The number of bytes of the length field that follows the header byte. -/
def lengthWidth (h : Header) : Nat :=
  if h.counting then (if h.bigSized then 4 else 2) else 0

@[simp] theorem ofByte_toByte (h : Header) : ofByte h.toByte = .ok h := by
  rcases h with ⟨_ | _, _ | _, _ | _, _ | _, _ | _⟩ <;> rfl

private theorem toByte_of_accepted :
    ∀ n : Fin 256, (ofByte (UInt8.ofNat n)).toOption.all (·.toByte == UInt8.ofNat n) = true := by
  decide +kernel

theorem eq_toByte_of_ofByte {b : UInt8} {h : Header} (hb : ofByte b = .ok h) : b = h.toByte := by
  have key := toByte_of_accepted ⟨b.toNat, b.toNat_lt⟩
  rw [UInt8.ofNat_toNat, hb] at key
  exact (eq_of_beq key).symm

end Header

end SessionServer
