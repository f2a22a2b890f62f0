/-
# The frames that are accepted

A codec without plug-ins takes a byte string for a frame if it is one: a header that asks for no
transformation, the length of the payload if the header announces it, and the payload, which is
within the limit.  Nothing else is accepted, and what is read says which bytes it was read from.

The format has slack in one place.  The bit for the wide length field is accepted where the narrow
field has room for the length, and where there is no field at all; a frame that is made anew from
what was read does not have it there.

Main results: a frame is accepted if its length field is true and its body is accepted
(`decode_eq_ok_iff`), and what that is without plug-ins (`decode_eq_ok_iff_spells`).
-/
import SessionServer.Proofs.Frame.RoundTrip

namespace SessionServer

namespace Codec

variable {c : Codec} {config : CodecConfig} {serial : UInt64} {h h' : Header}
  {payload body bytes bytes' : Bytes} {f : Frame} {options : EncodeOptions}

/-! ## Any plug-ins -/

/-- The length field of the header, if there is one, has room for the length. -/
def HasRoom (h : Header) (length : ℕ) : Prop :=
  h.counting = true → length < Bytes.capacity h.lengthWidth

lemma checkLength_eq_ok_iff {field : Bytes} :
    checkLength h field body = .ok () ↔
      (h.counting = true → Bytes.ofBigEndian field = body.length) := by
  by_cases hc : h.counting = true
  · simp only [checkLength, hc, if_true, true_imp_iff]
    split_ifs with hshort hlong
    · simp [Nat.ne_of_gt hshort]
    · simp [Nat.ne_of_lt hlong]
    · simp [Nat.le_antisymm (Nat.le_of_not_lt hshort) (Nat.le_of_not_lt hlong)]
  · simp [checkLength, hc]

/-- What follows the header is a length field and a body, if the field is true. -/
lemma decodeRest_eq_ok_iff {rest : Bytes} :
    c.decodeRest h rest = .ok f ↔
      ∃ field body, rest = field ++ body ∧ field.length = h.lengthWidth ∧
        (h.counting = true → Bytes.ofBigEndian field = body.length) ∧
        c.decodeBody h body = .ok f := by
  rw [decodeRest_eq]
  split_ifs with hlt
  · refine ⟨nofun, ?_⟩
    rintro ⟨field, body, rfl, hwidth, -⟩
    rw [List.length_append] at hlt
    omega
  · constructor
    · intro hread
      rcases hcheck : checkLength h (rest.take h.lengthWidth) (rest.drop h.lengthWidth) with e | ⟨⟩
      · simp [hcheck, Except.bind] at hread
      · rw [hcheck] at hread
        exact ⟨_, _, (List.take_append_drop h.lengthWidth rest).symm,
          List.length_take_of_le (Nat.le_of_not_lt hlt), checkLength_eq_ok_iff.1 hcheck, hread⟩
    · rintro ⟨field, body, rfl, hwidth, htrue, hread⟩
      rw [List.take_left' hwidth, List.drop_left' hwidth, checkLength_eq_ok_iff.2 htrue]
      exact hread

/-- A byte string is read as a frame exactly if it is a header, the length of a body, in a field
that has room for it, and a body that is accepted. -/
lemma decode_eq_ok_iff :
    c.decode bytes = .ok f ↔
      ∃ h body, bytes = assemble h body ∧ HasRoom h body.length ∧ c.decodeBody h body = .ok f := by
  constructor
  · intro hread
    cases bytes with
    | nil => cases hread
    | cons first rest =>
      rw [decode_cons] at hread
      cases hb : Header.ofByte first with
      | error e => simp [hb, Except.bind] at hread
      | ok h =>
        rw [hb] at hread
        obtain ⟨field, body, rfl, hwidth, htrue, hbody⟩ := decodeRest_eq_ok_iff.1 hread
        refine ⟨h, body, ?_, fun hc => ?_, hbody⟩
        · -- the field is the one that spells the length, or empty
          have hfield : Bytes.bigEndian h.lengthWidth body.length = field := by
            by_cases hc : h.counting = true
            · rw [← htrue hc, ← hwidth, Bytes.bigEndian_ofBigEndian]
            · have hzero : h.lengthWidth = 0 := by simp [Header.lengthWidth, hc]
              rw [hzero] at hwidth ⊢
              exact (List.length_eq_zero_iff.1 hwidth).symm
          rw [assemble, hfield, Header.eq_toByte_of_ofByte hb]
        · rw [← htrue hc, ← hwidth]
          exact Bytes.ofBigEndian_lt_capacity field
  · rintro ⟨h, body, rfl, hroom, hbody⟩
    by_cases hc : h.counting = true
    · rwa [decode_counted c h body hc (hroom hc)]
    · rwa [decode_uncounted c h body (eq_false_of_ne_true hc)]

/-! ## No plug-ins -/

/-- The byte string is a header that asks for no transformation, the length of the payload, in a
field that has room for it, and the payload, which is within the limit. -/
structure Spells (limit : ℕ) (h : Header) (payload bytes : Bytes) : Prop where
  eq_append : bytes = h.toByte :: (Bytes.bigEndian h.lengthWidth payload.length ++ payload)
  hasRoom : HasRoom h payload.length
  compressed : h.compressed = false
  encrypted : h.encrypted = false
  le_limit : payload.length ≤ limit

lemma eq_of_build (hbuild : build config none none = .ok c) :
    c = ⟨config, none, none⟩ ∧ config.compressionThreshold = 0 := by
  unfold build at hbuild
  split_ifs at hbuild with hthreshold
  · exact ⟨(Except.ok.inj hbuild).symm, by simpa using hthreshold⟩

lemma decodeBody_eq_ok_iff (hcompressor : c.compressor = none) (hencryptor : c.encryptor = none) :
    c.decodeBody h body = .ok f ↔
      h.compressed = false ∧ h.encrypted = false ∧ body.length ≤ c.config.maxFrameSize ∧
        f = ⟨h, body⟩ := by
  by_cases hle : body.length ≤ c.config.maxFrameSize
  · rw [decodeBody_of_length_le hle]
    cases hc : h.compressed with
    | true => simp [inflate, hcompressor, Except.bind]
    | false =>
      cases he : h.encrypted with
      | true => simp [reveal, hencryptor, Except.bind]
      | false => simp [Except.bind, hle, eq_comm]
  · simp [decodeBody_of_lt h (Nat.lt_of_not_le hle), hle]

lemma decode_eq_ok_iff_of_build (hbuild : build config none none = .ok c) :
    c.decode bytes = .ok ⟨h, payload⟩ ↔ Spells c.config.maxFrameSize h payload bytes := by
  obtain ⟨rfl, -⟩ := eq_of_build hbuild
  rw [decode_eq_ok_iff]
  simp only [decodeBody_eq_ok_iff (c := ⟨config, none, none⟩) rfl rfl, Frame.mk.injEq]
  constructor
  · rintro ⟨h, payload, hbytes, hroom, hcompressed, hencrypted, hle, rfl, rfl⟩
    exact ⟨hbytes, hroom, hcompressed, hencrypted, hle⟩
  · rintro ⟨hbytes, hroom, hcompressed, hencrypted, hle⟩
    exact ⟨h, payload, hbytes, hroom, hcompressed, hencrypted, hle, rfl, rfl⟩

/-! ## Frames made anew -/

/-- Without plug-ins, a payload is framed as it is. -/
lemma encode_of_build (hbuild : build config none none = .ok c) (hclear : options.encrypted = false)
    (hle : payload.length ≤ maxLength) :
    c.encode serial payload options
      = .ok (assemble (headerFor options false false payload.length) payload) := by
  obtain ⟨rfl, hthreshold⟩ := eq_of_build hbuild
  refine encode_eq_ok_iff.2 ⟨payload, false, payload, false, ?_, ?_, hle, rfl⟩
  · simp [protect, hclear]
  · simp [shrink, hthreshold]

lemma assemble_inj : assemble h body = assemble h' body ↔ h = h' := by
  refine ⟨fun heq => ?_, congrArg (assemble · body)⟩
  have hread := Header.ofByte_toByte h
  rw [(List.cons.inj heq).1, Header.ofByte_toByte] at hread
  exact (Except.ok.inj hread).symm

/-- The length field of the header is wide, although there is none or a narrow one would do. -/
def Slack (h : Header) (length : ℕ) : Prop :=
  h.bigSized = true ∧ (h.counting = false ∨ length ≤ maxShortLength)

/-- The header that is chosen for a payload is the one it was read with, unless that one has
slack. -/
lemma headerFor_eq_iff (hspells : Spells config.maxFrameSize h payload bytes) :
    headerFor { dataType := h.dataType, counting := h.counting, encrypted := h.encrypted }
        false false payload.length = h
      ↔ ¬ Slack h payload.length := by
  obtain ⟨-, hroom, hcompressed, hencrypted, -⟩ := hspells
  obtain ⟨counting, compressed, bigSized, encrypted, dataType⟩ := h
  obtain rfl : compressed = false := hcompressed
  obtain rfl : encrypted = false := hencrypted
  have hnarrow : Bytes.capacity 2 = maxShortLength + 1 := rfl
  cases counting with
  | false => cases bigSized <;> simp [headerFor, Slack]
  | true =>
    cases bigSized with
    | true => simp [headerFor, Slack]
    | false =>
      have hlt : payload.length < Bytes.capacity 2 := hroom rfl
      have hle : payload.length ≤ maxShortLength := by omega
      simp [headerFor, Slack, Nat.not_lt_of_le hle]

/-- **Frames and nothing else.**  A codec without plug-ins reads a byte string as a header and a
payload exactly if it is that header, the length of that payload and that payload, where the header
asks for no transformation and the payload is within the limit.  Two byte strings that are read as
the same are the same.  And if what was read is framed again, as its header says, the frame is the
byte string that was read, unless the header has the bit for the wide length field where there is no
field or where the length is at most 65535. -/
theorem decode_eq_ok_iff_spells (hbuild : build config none none = .ok c) :
    (∀ bytes h payload,
        c.decode bytes = .ok ⟨h, payload⟩ ↔ Spells c.config.maxFrameSize h payload bytes) ∧
      (∀ bytes bytes' f, c.decode bytes = .ok f → c.decode bytes' = .ok f → bytes = bytes') ∧
      ∀ serial bytes h payload, c.decode bytes = .ok ⟨h, payload⟩ → payload.length ≤ maxLength →
        (c.encode serial payload
            { dataType := h.dataType, counting := h.counting, encrypted := h.encrypted }
          = .ok bytes ↔ ¬ Slack h payload.length) := by
  have hspells : ∀ bytes h payload,
      c.decode bytes = .ok ⟨h, payload⟩ ↔ Spells c.config.maxFrameSize h payload bytes :=
    fun _ _ _ => decode_eq_ok_iff_of_build hbuild
  refine ⟨hspells, fun bytes bytes' f hread hread' => ?_,
    fun serial bytes h payload hread hle => ?_⟩
  · exact ((hspells bytes f.header f.payload).1 hread).eq_append.trans
      ((hspells bytes' f.header f.payload).1 hread').eq_append.symm
  · have hframe := (hspells bytes h payload).1 hread
    rw [encode_of_build hbuild hframe.encrypted hle, ← headerFor_eq_iff hframe, Except.ok.injEq,
      hframe.eq_append]
    exact assemble_inj

/-- A codec that accepts three bytes reads the wide length of two bytes, and frames them with a
narrow one. -/
theorem decode_of_wide_length :
    let config : CodecConfig := { compressionThreshold := 0, maxFrameSize := 3 }
    let c : Codec := ⟨config, none, none⟩
    let h : Header := { counting := true, bigSized := true, dataType := .msgPack }
    build config none none = .ok c ∧ c.decode [0x25, 0, 0, 0, 2, 7, 8] = .ok ⟨h, [7, 8]⟩ ∧
      ([7, 8] : Bytes).length ≤ maxLength ∧
      c.encode 0 [7, 8] { dataType := .msgPack, counting := true } = .ok [0x21, 0, 2, 7, 8] ∧
      c.encode 0 [7, 8] { dataType := .msgPack, counting := true }
        ≠ .ok [0x25, 0, 0, 0, 2, 7, 8] := by
  intro config c h
  have hbuild : build config none none = .ok c := rfl
  obtain ⟨hspells, -, hagain⟩ := decode_eq_ok_iff_spells hbuild
  have hread : c.decode [0x25, 0, 0, 0, 2, 7, 8] = .ok ⟨h, [7, 8]⟩ :=
    (hspells _ _ _).2 ⟨by decide, fun _ => by decide, rfl, rfl, by decide⟩
  have hslack : Slack h ([7, 8] : Bytes).length := ⟨rfl, .inr (by decide)⟩
  have hle : ([7, 8] : Bytes).length ≤ maxLength := by decide
  exact ⟨hbuild, hread, hle, rfl, fun hsame => (hagain 0 _ h _ hread hle).1 hsame hslack⟩

end Codec

end SessionServer
