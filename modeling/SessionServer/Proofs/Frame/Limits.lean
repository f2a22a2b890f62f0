/-
# Which frames a codec can read back

A codec may frame a payload that it will not read: only the reader has a limit.  What is limited is
the body as it arrives, and the bytes that it stands for once it is decompressed; what comes out of
decryption is not.  With plug-ins that undo what they do, and a compressor that says so when the
limit has no room for the bytes, nothing else can go wrong with a frame that the codec has made.

Main result: a frame is read as its payload if it is within the limits, and otherwise it is refused
as too large (`decode_encode_iff`).
-/
import SessionServer.Proofs.Frame.RoundTrip

namespace SessionServer

namespace Codec

/-- The plug-ins undo what they do, and the compressor refuses what the limit has no room for. -/
structure Strict (c : Codec) : Prop extends c.Lawful where
  uncompress_of_lt : ∀ plugIn ∈ c.compressor, ∀ data small limit,
    plugIn.compress data = .ok small → limit < data.length →
      ∃ size most, plugIn.uncompress small limit = .error (.frameTooLarge size most)

variable {c : Codec} {serial : UInt64} {payload data body frame : Bytes} {options : EncodeOptions}
  {wanted encrypted compressed : Bool} {h : Header}

/-- A whole frame with the header that was chosen for its body is read as that body. -/
lemma decode_assemble_headerFor (hlen : body.length ≤ maxLength) :
    c.decode (assemble (headerFor options compressed encrypted body.length) body)
      = c.decodeBody (headerFor options compressed encrypted body.length) body := by
  cases hcount : options.counting with
  | true =>
    exact decode_counted c _ body hcount (length_lt_capacity_headerFor hcount hlen)
  | false => exact decode_uncounted c _ body hcount

/-- The frame is within the limits of the codec, as it arrives and once it is decompressed. -/
def Readable (c : Codec) (data body : Bytes) (compressed : Bool) : Prop :=
  body.length ≤ c.config.maxFrameSize ∧
    (compressed = true → data.length ≤ c.config.maxFrameSize)

/-- Bytes that were not compressed are the body. -/
lemma eq_of_shrink (hs : c.shrink data = .ok (body, false)) : body = data := by
  unfold shrink at hs
  split_ifs at hs with hlong
  · cases hc : c.compressor with
    | none => simp [hc] at hs
    | some plugIn =>
      rw [hc] at hs
      exact ((settle_eq_ok hs).resolve_left (by simp)).2
  · simpa using hs.symm

/-- Where a frame is within the limits, so are the bytes before compression. -/
lemma Readable.length_le (hfits : c.Readable data body compressed)
    (hs : c.shrink data = .ok (body, compressed)) : data.length ≤ c.config.maxFrameSize := by
  cases compressed with
  | true => exact hfits.2 rfl
  | false => exact eq_of_shrink hs ▸ hfits.1

/-- Only bytes that were compressed can be refused by the compressor. -/
lemma inflate_of_lt (hlaw : c.Strict) (hs : c.shrink data = .ok (body, true))
    (hlt : c.config.maxFrameSize < data.length) :
    ∃ size limit, (c.inflate body).run c.answer = .error (.frameTooLarge size limit) := by
  unfold shrink at hs
  split_ifs at hs with hlong
  · cases hc : c.compressor with
    | none => simp [hc] at hs
    | some plugIn =>
      rw [hc] at hs
      obtain ⟨-, hmade⟩ := (settle_eq_ok hs).resolve_right (by simp)
      obtain ⟨size, limit, hrefused⟩ := hlaw.uncompress_of_lt plugIn hc data body _ hmade hlt
      exact ⟨size, limit, by rw [run_inflate hc, hrefused, Except.bind]⟩
  · simp at hs

/-- A frame over one of the limits is refused as too large. -/
lemma decodeBody_of_not_readable (hlaw : c.Strict) (hs : c.shrink data = .ok (body, compressed))
    (hover : ¬ c.Readable data body compressed) (hc : h.compressed = compressed) :
    ∃ size limit, c.decodeBody h body = .error (.frameTooLarge size limit) := by
  by_cases hbody : body.length ≤ c.config.maxFrameSize
  · -- the body is within the limit, so it was compressed, and what it stands for is not
    have hdata : compressed = true ∧ c.config.maxFrameSize < data.length := by
      simpa [Readable, hbody] using hover
    obtain ⟨rfl, hlt⟩ := hdata
    obtain ⟨size, limit, hinflate⟩ := inflate_of_lt hlaw hs hlt
    refine ⟨size, limit, ?_⟩
    rw [decodeBody_of_length_le hbody, hc, if_pos rfl, hinflate, Except.bind]
  · exact ⟨body.length, c.config.maxFrameSize, decodeBody_of_lt h (Nat.lt_of_not_le hbody)⟩

/-- **Which frames can be read back.**  Whatever a payload is framed as, with or without encryption
and compression and with a length field of either width or none, the frame is read as the payload,
in the format and with the length field that were asked for, exactly if its body is within the
limit and, where it was compressed, the bytes before compression are too.  If not, the frame is
refused as too large and for no other reason. -/
theorem decode_encode_iff (hlaw : c.Strict)
    (hframe : c.encode serial payload options = .ok frame) :
    ∃ data encrypted body compressed header,
      c.protect serial payload options.encrypted = .ok (data, encrypted) ∧
      c.shrink data = .ok (body, compressed) ∧ frame = assemble header body ∧
      header.compressed = compressed ∧ header.encrypted = encrypted ∧
      (c.decode frame = .ok ⟨header, payload⟩ ∧ header.dataType = options.dataType ∧
          header.counting = options.counting ↔ c.Readable data body compressed) ∧
      (¬ c.Readable data body compressed →
        ∃ size limit, c.decode frame = .error (.frameTooLarge size limit)) := by
  obtain ⟨data, encrypted, body, compressed, hprotect, hshrink, hlen, rfl⟩ :=
    encode_eq_ok_iff.1 hframe
  have hread : c.Readable data body compressed →
      c.decode (assemble (headerFor options compressed encrypted body.length) body)
        = .ok ⟨headerFor options compressed encrypted body.length, payload⟩ := by
    intro hfits
    rw [decode_assemble_headerFor hlen]
    exact decodeBody_of_encode hlaw.toLawful hprotect hshrink (hfits.length_le hshrink) hfits.1
      rfl rfl
  have hrefused : ¬ c.Readable data body compressed → ∃ size limit,
      c.decode (assemble (headerFor options compressed encrypted body.length) body)
        = .error (.frameTooLarge size limit) := by
    intro hover
    rw [decode_assemble_headerFor hlen]
    exact decodeBody_of_not_readable hlaw hshrink hover rfl
  refine ⟨data, encrypted, body, compressed, _, hprotect, hshrink, rfl, rfl, rfl, ⟨?_, ?_⟩,
    hrefused⟩
  · rintro ⟨hok, -⟩
    by_contra hover
    obtain ⟨size, limit, herror⟩ := hrefused hover
    cases hok.symm.trans herror
  · intro hfits
    exact ⟨hread hfits, rfl, rfl⟩

/-- A codec that compresses nothing but sevens and encrypts nothing long, and goes on without.  A
short payload is turned around and sent uncompressed, and comes back.  A long one is sent
unencrypted as the number of its sevens, and although that is one byte, it does not. -/
theorem decode_encode_of_sevens :
    let codec : Codec :=
      { config := { compressionThreshold := 2, encryptFailure := .downgrade, maxFrameSize := 4 }
        compressor := some
          { compress := fun data =>
              if data = List.replicate data.length 7 ∧ data.length < 256 then
                .ok [UInt8.ofNat data.length]
              else .error (.compression "mixed")
            uncompress := fun small limit =>
              if limit < Bytes.ofBigEndian small then
                .error (.frameTooLarge (Bytes.ofBigEndian small) limit)
              else .ok (List.replicate (Bytes.ofBigEndian small) 7) }
        encryptor := some
          { encrypt := fun _ payload =>
              if payload.length < 8 then .ok payload.reverse else .error (.encryption "long")
            decrypt := fun data => .ok data.reverse } }
    let options : EncodeOptions := { counting := true, encrypted := true }
    codec.encode 0 [1, 2, 3] options = .ok [25, 0, 3, 3, 2, 1] ∧
      (codec.decode [25, 0, 3, 3, 2, 1]).map (·.payload) = .ok [1, 2, 3] ∧
      codec.encode 0 (List.replicate 10 7) options = .ok [19, 0, 1, 10] ∧
      ∃ size limit, codec.decode [19, 0, 1, 10] = .error (.frameTooLarge size limit) := by
  intro codec options
  have hlaw : codec.Strict := by
    have hnumber : ∀ data : Bytes, data.length < 256 →
        Bytes.ofBigEndian [UInt8.ofNat data.length] = data.length := by
      intro data hlt
      simp [Bytes.ofBigEndian, Nat.mod_eq_of_lt hlt]
    refine ⟨⟨?_, ?_⟩, ?_⟩
    · rintro plugIn hplugIn serial payload secret hsecret
      obtain rfl := Option.some.inj hplugIn
      dsimp only at hsecret ⊢
      split_ifs at hsecret
      obtain rfl := Except.ok.inj hsecret
      exact congrArg Except.ok payload.reverse_reverse
    · rintro plugIn hplugIn data small limit hsmall hle
      obtain rfl := Option.some.inj hplugIn
      dsimp only at hsmall ⊢
      split_ifs at hsmall with hsevens
      obtain rfl := Except.ok.inj hsmall
      rw [hnumber data hsevens.2, if_neg (Nat.not_lt_of_le hle), ← hsevens.1]
    · rintro plugIn hplugIn data small limit hsmall hlt
      obtain rfl := Option.some.inj hplugIn
      dsimp only at hsmall ⊢
      split_ifs at hsmall with hsevens
      obtain rfl := Except.ok.inj hsmall
      exact ⟨_, _, by rw [hnumber data hsevens.2, if_pos hlt]⟩
  have hshort : codec.encode 0 [1, 2, 3] options = .ok [25, 0, 3, 3, 2, 1] := by decide +kernel
  have hlong : codec.encode 0 (List.replicate 10 7) options = .ok [19, 0, 1, 10] := by
    decide +kernel
  refine ⟨hshort, ?_, hlong, ?_⟩
  · obtain ⟨data, encrypted, body, compressed, header, hprotect, hshrink, -, -, -, hiff, -⟩ :=
      decode_encode_iff hlaw hshort
    obtain rfl : [3, 2, 1] = data := congrArg Prod.fst (Except.ok.inj hprotect)
    obtain ⟨rfl, rfl⟩ := Prod.mk.inj (Except.ok.inj hshrink)
    obtain ⟨hread, -⟩ := hiff.2 ⟨by decide, by decide⟩
    rw [hread]
    rfl
  · obtain ⟨data, encrypted, body, compressed, header, hprotect, hshrink, -, -, -, -, hover⟩ :=
      decode_encode_iff hlaw hlong
    obtain rfl : List.replicate 10 7 = data := congrArg Prod.fst (Except.ok.inj hprotect)
    obtain ⟨rfl, rfl⟩ := Prod.mk.inj (Except.ok.inj hshrink)
    exact hover fun hfits => absurd (hfits.2 rfl) (by decide)

end Codec

end SessionServer
