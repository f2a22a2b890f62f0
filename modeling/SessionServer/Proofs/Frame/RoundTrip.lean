/-
# Frames that are read as they were made

The plug-ins of a codec are given from outside, and all that is asked of them is that what was
encrypted can be decrypted, and that what was compressed can be restored within a limit that has
room for it.  A frame that was made with such plug-ins, of a body that is within the limit before
compression and after it, is read back as its payload; and frames that are put one after the other
on a byte stream are cut apart again.

Main results: what goes into a frame (`encode_eq_ok_iff`), its body is read as its payload
(`decodeBody_of_encode`), and the frames of a stream are found where they were put
(`parse_flatMap_wire`).
-/
import SessionServer.Frame.Codec
import SessionServer.Proofs.Frame.Parse

namespace SessionServer

namespace Codec

/-- The plug-ins undo what they do. -/
structure Lawful (c : Codec) : Prop where
  decrypt_encrypt : ∀ plugIn ∈ c.encryptor, ∀ serial payload secret,
    plugIn.encrypt serial payload = .ok secret → plugIn.decrypt secret = .ok payload
  uncompress_compress : ∀ plugIn ∈ c.compressor, ∀ data small limit,
    plugIn.compress data = .ok small → data.length ≤ limit →
      plugIn.uncompress small limit = .ok data

/-- A payload is framed as a body that is within the limit before compression and after it. -/
def Fits (c : Codec) (serial : UInt64) (payload : Bytes) (wanted : Bool) : Prop :=
  ∀ data encrypted body compressed, c.protect serial payload wanted = .ok (data, encrypted) →
    c.shrink data = .ok (body, compressed) →
      data.length ≤ c.config.maxFrameSize ∧ body.length ≤ c.config.maxFrameSize

variable {c : Codec} {serial : UInt64} {payload data body frame : Bytes} {options : EncodeOptions}
  {wanted encrypted compressed : Bool} {policy : FailurePolicy} {changed : Bool}

/-- A payload is framed exactly when both transformations succeed and the length of the body can
be written. -/
lemma encode_eq_ok_iff :
    c.encode serial payload options = .ok frame ↔
      ∃ data encrypted body compressed,
        c.protect serial payload options.encrypted = .ok (data, encrypted) ∧
        c.shrink data = .ok (body, compressed) ∧ body.length ≤ maxLength ∧
        frame = assemble (headerFor options compressed encrypted body.length) body := by
  constructor
  · intro h
    unfold encode at h
    rcases hp : c.protect serial payload options.encrypted with e | ⟨data, encrypted⟩
    · simp [hp, bind, Except.bind] at h
    · rcases hs : c.shrink data with e | ⟨body, compressed⟩
      · simp [hp, hs, bind, Except.bind] at h
      · simp only [hp, hs, bind, Except.bind] at h
        split_ifs at h with hlen
        exact ⟨data, encrypted, body, compressed, rfl, hs, Nat.le_of_not_lt hlen,
          (Except.ok.inj h).symm⟩
  · rintro ⟨data, encrypted, body, compressed, hp, hs, hlen, rfl⟩
    simp [encode, hp, hs, bind, Except.bind, Nat.not_lt_of_le hlen]

/-- A transformation whose failure is settled is made or leaves the bytes as they are. -/
lemma settle_eq_ok {outcome : Except FrameError Bytes}
    (h : settle policy data outcome = .ok (body, changed)) :
    (changed = true ∧ outcome = .ok body) ∨ (changed = false ∧ body = data) := by
  unfold settle at h
  cases outcome with
  | ok made => simp_all
  | error e => cases policy <;> simp_all

lemma reveal_of_protect (hlaw : c.Lawful)
    (hp : c.protect serial payload wanted = .ok (data, encrypted)) :
    (if encrypted then (c.reveal data).run c.answer else .ok data) = .ok payload := by
  unfold protect at hp
  cases hw : wanted with
  | false => simp_all
  | true =>
    cases hc : c.encryptor with
    | none => simp [hw, hc] at hp
    | some plugIn =>
      simp only [hw, hc, if_true] at hp
      rcases settle_eq_ok hp with ⟨rfl, hmade⟩ | ⟨rfl, rfl⟩
      · rw [if_pos rfl, run_reveal hc]
        exact hlaw.decrypt_encrypt plugIn hc serial payload data hmade
      · rfl

lemma inflate_of_shrink (hlaw : c.Lawful) (hs : c.shrink data = .ok (body, compressed))
    (hle : data.length ≤ c.config.maxFrameSize) :
    (if compressed then (c.inflate body).run c.answer else .ok body) = .ok data := by
  unfold shrink at hs
  split_ifs at hs with hlong
  · cases hc : c.compressor with
    | none => simp [hc] at hs
    | some plugIn =>
      simp only [hc] at hs
      rcases settle_eq_ok hs with ⟨rfl, hmade⟩ | ⟨rfl, rfl⟩
      · have hback := hlaw.uncompress_compress plugIn hc data body _ hmade hle
        rw [if_pos rfl, run_inflate hc, hback, Except.bind, if_neg (Nat.not_lt_of_le hle)]
      · rfl
  · simp_all

/-- The body of a frame is read as the payload that the frame was made of. -/
lemma decodeBody_of_encode (hlaw : c.Lawful)
    (hp : c.protect serial payload wanted = .ok (data, encrypted))
    (hs : c.shrink data = .ok (body, compressed)) (hdata : data.length ≤ c.config.maxFrameSize)
    (hbody : body.length ≤ c.config.maxFrameSize) {h : Header} (hc : h.compressed = compressed)
    (he : h.encrypted = encrypted) : c.decodeBody h body = .ok ⟨h, payload⟩ := by
  subst hc he
  rw [decodeBody_of_length_le hbody, inflate_of_shrink hlaw hs hdata, Except.bind,
    reveal_of_protect hlaw hp, Except.bind]

/-- A length field that is chosen for a length has room for it. -/
lemma length_lt_capacity_headerFor (hcount : options.counting = true)
    (hlen : body.length ≤ maxLength) :
    body.length
      < Bytes.capacity (headerFor options compressed encrypted body.length).lengthWidth := by
  have hsmall : Bytes.capacity 2 = 65536 := rfl
  have hbig : Bytes.capacity 4 = 4294967296 := rfl
  unfold maxLength at hlen
  by_cases hb : maxShortLength < body.length
  · simp only [headerFor, Header.lengthWidth, hcount, hb, decide_true, Bool.and_true, if_true]
    omega
  · unfold maxShortLength at hb
    simp only [headerFor, Header.lengthWidth, hcount, maxShortLength, hb, decide_false,
      Bool.and_false, if_true, Bool.false_eq_true, if_false]
    omega

end Codec

/-! ## Frames on a stream -/

open Assembler (Piece)

/-- The bytes that a header and its body are on the wire. -/
def Assembler.Piece.wire (p : Piece) : Bytes := Codec.assemble p.1 p.2

/-- The header and its body can be a frame on a stream with the given limit. -/
structure Assembler.Piece.Fits (limit : ℕ) (p : Piece) : Prop where
  counting : p.1.counting = true
  lt_capacity : p.2.length < Bytes.capacity p.1.lengthWidth
  le_limit : p.2.length ≤ limit

/-- A frame at the front of a byte string is found there. -/
lemma takeFrame_wire {limit : ℕ} {p : Piece} (hp : p.Fits limit) (rest : Bytes) :
    takeFrame limit (p.wire ++ rest) = .ok (some (p, rest)) := by
  obtain ⟨hc, hcap, hle⟩ := hp
  obtain ⟨h, body⟩ := p
  have hwire : Assembler.Piece.wire (h, body) ++ rest
      = h.toByte :: (Bytes.bigEndian h.lengthWidth body.length ++ (body ++ rest)) := by
    simp [Assembler.Piece.wire, Codec.assemble]
  rw [hwire, Assembler.takeFrame_toByte hc, Assembler.takeSized_bigEndian hcap hle, takeBody,
    if_neg (by rw [List.length_append]; exact Nat.not_lt_of_le (Nat.le_add_right _ _)),
    List.take_left, List.drop_left]

/-- Frames that are put one after the other are cut apart again, and nothing is left. -/
lemma parse_flatMap_wire {limit : ℕ} {pieces : List Piece} (hp : ∀ p ∈ pieces, p.Fits limit) :
    parse limit (pieces.flatMap Assembler.Piece.wire) = { pieces, rest := [] } := by
  induction pieces with
  | nil => exact parse_of_none rfl
  | cons p pieces ih =>
    rw [List.flatMap_cons, parse_of_some (takeFrame_wire (hp p List.mem_cons_self) _),
      ih fun q hq => hp q (List.mem_cons_of_mem p hq)]
    rfl

end SessionServer
