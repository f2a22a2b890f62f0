/-
# Fields and numbers

A field of a wire format spells a number, most significant byte first.  Writing a number and
reading it back is settled where fields are defined; here is the other direction: a field is the
only one of its width that spells its number, and the number fits.
-/
import Mathlib.Data.List.Induction
import SessionServer.Bytes

namespace SessionServer

namespace Bytes

lemma ofBigEndian_append_singleton (field : Bytes) (b : UInt8) :
    ofBigEndian (field ++ [b]) = ofBigEndian field * 256 + b.toNat := by
  simp [ofBigEndian]

/-- A field spells a number that fits a field of its width. -/
lemma ofBigEndian_lt_capacity (field : Bytes) : ofBigEndian field < capacity field.length := by
  induction field using List.reverseRecOn with
  | nil => exact Nat.one_pos
  | append_singleton field b ih =>
    have hb := b.toNat_lt
    rw [ofBigEndian_append_singleton, List.length_append, List.length_singleton, capacity]
    omega

/-- The last byte of a field is the lowest digit of the number. -/
lemma bigEndian_succ_append (width n : ℕ) :
    bigEndian (width + 1) n = bigEndian width (n / 256) ++ [UInt8.ofNat n] := by
  induction width with
  | zero => simp [bigEndian, capacity]
  | succ w ih =>
    have hdigit : n / capacity (w + 1) = n / 256 / capacity w := by
      rw [capacity, Nat.div_div_eq_div_mul]
    rw [bigEndian, ih, bigEndian, hdigit, List.cons_append]

/-- Writing the number that a field spells gives the field back. -/
lemma bigEndian_ofBigEndian (field : Bytes) :
    bigEndian field.length (ofBigEndian field) = field := by
  induction field using List.reverseRecOn with
  | nil => rfl
  | append_singleton field b ih =>
    have hb := b.toNat_lt
    have hrest : (ofBigEndian field * 256 + b.toNat) / 256 = ofBigEndian field := by omega
    have hlast : UInt8.ofNat (ofBigEndian field * 256 + b.toNat) = b := by
      rw [← UInt8.toNat_inj, UInt8.toNat_ofNat']
      omega
    rw [ofBigEndian_append_singleton, List.length_append, List.length_singleton,
      bigEndian_succ_append, hrest, hlast, ih]

end Bytes

end SessionServer
