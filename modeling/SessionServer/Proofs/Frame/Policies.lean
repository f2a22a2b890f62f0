/-
# What happens when a plug-in fails

A payload is encrypted and then compressed on its way into a frame.  Either step may be unasked for,
may have no plug-in, and may have one that fails; the codec then reports the failure or goes on
without the step, as its settings say.  The two steps differ in who asks for them, in their plug-ins
and their policies, and are otherwise the same: a *step* has all of this as data, and what becomes
of bytes in a step is told once.

Nothing is asked of the plug-ins here.  They are any functions that may fail.

Main results: what a step gives out (`transform_eq_ok_iff`), and that the codec fails exactly where
its settings say, and otherwise marks a frame with what was really done to its payload
(`encode_follows_policy`).
-/
import SessionServer.Proofs.Frame.RoundTrip

namespace SessionServer

/-! ## One step -/

/-- One transformation on the way from a payload to the body of a frame. -/
structure Codec.Step where
  /-- The transformation is asked for. -/
  wanted : Bytes → Bool
  plugIn : Option (Bytes → Except FrameError Bytes)
  /-- What to do if the plug-in fails. -/
  policy : FailurePolicy
  /-- What is reported if there is no plug-in. -/
  missing : FrameError

namespace Codec.Step

variable {t : Step} {data made : Bytes} {changed : Bool} {e : FrameError}

/-- Transforms the bytes if that is wanted.  Returns the bytes to go on with and whether they are
transformed. -/
def transform (t : Step) (data : Bytes) : Except FrameError (Bytes × Bool) :=
  if t.wanted data then
    match t.plugIn with
    | none => .error t.missing
    | some f => settle t.policy data (f data)
  else .ok (data, false)

/-- There is no plug-in for what is asked for. -/
def Lacks (t : Step) (data : Bytes) : Prop := t.wanted data = true ∧ t.plugIn = none

/-- The plug-in is asked to transform the bytes, and this comes of it. -/
def Answers (t : Step) (data : Bytes) (answer : Except FrameError Bytes) : Prop :=
  t.wanted data = true ∧ ∃ f, t.plugIn = some f ∧ f data = answer

/-- What the bytes become, and whether they are transformed. -/
inductive Yields (t : Step) (data : Bytes) : Bytes → Bool → Prop
  | unasked (hunasked : t.wanted data = false) : Yields t data data false
  | made {made : Bytes} (hmade : t.Answers data (.ok made)) : Yields t data made true
  /-- The plug-in fails, and the bytes stay as they are. -/
  | passedOver {e : FrameError} (hpolicy : t.policy = .downgrade)
      (hfails : t.Answers data (.error e)) : Yields t data data false

/-- Why the bytes go nowhere. -/
inductive Fails (t : Step) (data : Bytes) : FrameError → Prop
  | lacking (hlacks : t.Lacks data) : Fails t data t.missing
  | refused {e : FrameError} (hpolicy : t.policy = .reject)
      (hfails : t.Answers data (.error e)) : Fails t data e

lemma Answers.unique {answer answer' : Except FrameError Bytes} (h : t.Answers data answer)
    (h' : t.Answers data answer') : answer = answer' := by
  obtain ⟨-, f, hf, rfl⟩ := h
  obtain ⟨-, f', hf', rfl⟩ := h'
  rw [Option.some.inj (hf.symm.trans hf')]

lemma transform_of_unasked (h : t.wanted data = false) : t.transform data = .ok (data, false) := by
  rw [transform, if_neg (ne_true_of_eq_false h)]

lemma transform_of_lacks (h : t.Lacks data) : t.transform data = .error t.missing := by
  rw [transform, if_pos h.1, h.2]

lemma transform_of_answers {answer : Except FrameError Bytes} (h : t.Answers data answer) :
    t.transform data = settle t.policy data answer := by
  obtain ⟨hwanted, f, hf, rfl⟩ := h
  rw [transform, if_pos hwanted, hf]

/-- The transformation is unasked for, or has no plug-in, or is made by one that may fail. -/
lemma unasked_or_lacks_or_answers (t : Step) (data : Bytes) :
    t.wanted data = false ∨ t.Lacks data ∨ ∃ answer, t.Answers data answer := by
  cases hwanted : t.wanted data with
  | false => exact .inl rfl
  | true =>
    cases hf : t.plugIn with
    | none => exact .inr (.inl ⟨hwanted, hf⟩)
    | some f => exact .inr (.inr ⟨f data, hwanted, f, hf, rfl⟩)

lemma Yields.transform_eq (h : t.Yields data made changed) :
    t.transform data = .ok (made, changed) := by
  cases h with
  | unasked hunasked => exact transform_of_unasked hunasked
  | made hmade => exact transform_of_answers hmade
  | passedOver hpolicy hfails => rw [transform_of_answers hfails, hpolicy]; rfl

lemma Fails.transform_eq (h : t.Fails data e) : t.transform data = .error e := by
  cases h with
  | lacking hlacks => exact transform_of_lacks hlacks
  | refused hpolicy hfails => rw [transform_of_answers hfails, hpolicy]; rfl

/-- Bytes come out of a step, or the step fails. -/
lemma yields_or_fails (t : Step) (data : Bytes) :
    (∃ made changed, t.Yields data made changed) ∨ ∃ e, t.Fails data e := by
  rcases t.unasked_or_lacks_or_answers data with hunasked | hlacks | ⟨made | e, h⟩
  · exact .inl ⟨data, false, .unasked hunasked⟩
  · exact .inr ⟨t.missing, .lacking hlacks⟩
  · cases hpolicy : t.policy with
    | downgrade => exact .inl ⟨data, false, .passedOver hpolicy h⟩
    | reject => exact .inr ⟨_, .refused hpolicy h⟩
  · exact .inl ⟨_, true, .made h⟩

lemma transform_eq_ok_iff : t.transform data = .ok (made, changed) ↔ t.Yields data made changed := by
  refine ⟨fun h => ?_, Yields.transform_eq⟩
  rcases t.yields_or_fails data with ⟨made', changed', hyields⟩ | ⟨e, hfails⟩
  · obtain ⟨rfl, rfl⟩ := Prod.mk.inj (Except.ok.inj (hyields.transform_eq.symm.trans h))
    exact hyields
  · exact absurd (hfails.transform_eq.symm.trans h) nofun

namespace Yields

/-- Bytes count as transformed exactly if the plug-in has made them. -/
lemma changed_iff (h : t.Yields data made changed) :
    changed = true ↔ t.Answers data (.ok made) := by
  cases h with
  | made hmade => exact ⟨fun _ => hmade, fun _ => rfl⟩
  | unasked hunasked =>
    refine ⟨nofun, fun hmade => ?_⟩
    exact absurd (hunasked.symm.trans hmade.1) Bool.false_ne_true
  | passedOver hpolicy hfails => exact ⟨nofun, fun hmade => absurd (hmade.unique hfails) nofun⟩

/-- Bytes that do not count as transformed are left as they were. -/
lemma eq_self (h : t.Yields data made changed) (hchanged : changed = false) : made = data := by
  cases h with
  | made hmade => cases hchanged
  | unasked | passedOver => rfl

/-- A step that is asked for and may not be passed over is made. -/
lemma changed_of_reject (h : t.Yields data made changed) (hwanted : t.wanted data = true)
    (hpolicy : t.policy = .reject) : changed = true := by
  cases h with
  | made hmade => rfl
  | unasked hunasked => exact absurd (hunasked.symm.trans hwanted) Bool.false_ne_true
  | passedOver hdowngrade => exact absurd (hpolicy.symm.trans hdowngrade) nofun

end Yields

end Codec.Step

/-! ## Both steps -/

namespace Codec

variable {c : Codec} {serial : UInt64} {payload : Bytes} {options : EncodeOptions}
  {e : FrameError} {frame : Bytes}

/-- The encryption of a payload, if its sender asks for it. -/
def encryption (c : Codec) (serial : UInt64) (options : EncodeOptions) : Step where
  wanted _ := options.encrypted
  plugIn := c.encryptor.map (·.encrypt serial)
  policy := c.config.encryptFailure
  missing := .missingEncryptor

/-- The compression of what is then at hand, if there is a threshold and it is reached. -/
def compression (c : Codec) : Step where
  wanted data := 0 < c.config.compressionThreshold ∧ c.config.compressionThreshold ≤ data.length
  plugIn := c.compressor.map (·.compress)
  policy := c.config.compressFailure
  missing := .missingCompressor

lemma protect_eq_transform (c : Codec) (serial : UInt64) (payload : Bytes)
    (options : EncodeOptions) :
    c.protect serial payload options.encrypted
      = (c.encryption serial options).transform payload := by
  unfold protect Step.transform encryption
  cases c.encryptor <;> rfl

lemma shrink_eq_transform (c : Codec) (data : Bytes) :
    c.shrink data = c.compression.transform data := by
  unfold shrink Step.transform compression
  cases c.compressor <;> simp

/-- Why a payload is not framed: one of the steps fails, the second one on what the first one gives
out, or what the second one gives out is too long for a length field. -/
inductive EncodeFails (c : Codec) (serial : UInt64) (payload : Bytes) (options : EncodeOptions) :
    FrameError → Prop
  | encrypting {e : FrameError} (hfails : (c.encryption serial options).Fails payload e) :
      EncodeFails c serial payload options e
  | compressing {e : FrameError} {data : Bytes} {encrypted : Bool}
      (hdata : (c.encryption serial options).Yields payload data encrypted)
      (hfails : c.compression.Fails data e) : EncodeFails c serial payload options e
  | tooLong {data body : Bytes} {encrypted compressed : Bool}
      (hdata : (c.encryption serial options).Yields payload data encrypted)
      (hbody : c.compression.Yields data body compressed) (hlong : maxLength < body.length) :
      EncodeFails c serial payload options (.frameTooLarge body.length maxLength)

lemma EncodeFails.encode_eq (h : c.EncodeFails serial payload options e) :
    c.encode serial payload options = .error e := by
  unfold encode
  rw [protect_eq_transform]
  cases h with
  | encrypting hfails => rw [hfails.transform_eq]; rfl
  | compressing hdata hfails =>
    simp only [hdata.transform_eq, bind, Except.bind, shrink_eq_transform, hfails.transform_eq]
  | tooLong hdata hbody hlong =>
    simp only [hdata.transform_eq, bind, Except.bind, shrink_eq_transform, hbody.transform_eq,
      if_pos hlong]

/-- What a payload is framed as: both steps give something out, and it is not too long. -/
lemma encode_eq_ok_iff_yields :
    c.encode serial payload options = .ok frame ↔
      ∃ data encrypted body compressed,
        (c.encryption serial options).Yields payload data encrypted ∧
        c.compression.Yields data body compressed ∧ body.length ≤ maxLength ∧
        frame = assemble (headerFor options compressed encrypted body.length) body := by
  rw [encode_eq_ok_iff]
  simp only [protect_eq_transform, shrink_eq_transform, Step.transform_eq_ok_iff]

lemma encode_eq_error_iff :
    c.encode serial payload options = .error e ↔ c.EncodeFails serial payload options e := by
  refine ⟨fun h => ?_, EncodeFails.encode_eq⟩
  have hunique : ∀ e', c.EncodeFails serial payload options e' → e' = e :=
    fun e' hfails => Except.error.inj (hfails.encode_eq.symm.trans h)
  -- whatever both steps give out, it is framed unless it is too long
  have hsome : ∃ e', c.EncodeFails serial payload options e' := by
    rcases (c.encryption serial options).yields_or_fails payload with
      ⟨data, encrypted, hdata⟩ | ⟨e', hfails⟩
    · rcases c.compression.yields_or_fails data with ⟨body, compressed, hbody⟩ | ⟨e', hfails⟩
      · refine ⟨_, .tooLong hdata hbody (Nat.lt_of_not_le fun hle => ?_)⟩
        have hok := encode_eq_ok_iff_yields.2
          ⟨data, encrypted, body, compressed, hdata, hbody, hle, rfl⟩
        exact absurd (h.symm.trans hok) nofun
      · exact ⟨e', .compressing hdata hfails⟩
    · exact ⟨e', .encrypting hfails⟩
  obtain ⟨e', hfails⟩ := hsome
  exact hunique e' hfails ▸ hfails

/-- A codec that can be had: the plain one, and whatever is built. -/
def Built (c : Codec) : Prop :=
  c = plain ∨ ∃ config compressor encryptor, build config compressor encryptor = .ok c

/-- A codec has the plug-ins that its settings call for. -/
lemma Built.not_lacks (h : c.Built) :
    (∀ data, ¬ c.compression.Lacks data) ∧
      (c.config.encryption = true → ∀ data, ¬ (c.encryption serial options).Lacks data) := by
  have hequipped : (0 < c.config.compressionThreshold → c.compressor ≠ none) ∧
      (c.config.encryption = true → c.encryptor ≠ none) := by
    rcases h with rfl | ⟨config, compressor, encryptor, hbuild⟩
    · exact ⟨nofun, nofun⟩
    · unfold build at hbuild
      split_ifs at hbuild with hcompressor hencryptor
      obtain rfl := Except.ok.inj hbuild
      constructor
      · rintro hthreshold rfl
        exact hcompressor (by simpa using hthreshold)
      · rintro hencryption rfl
        exact hencryptor (by simpa using hencryption)
  refine ⟨fun data hlacks => ?_, fun hencryption data hlacks => ?_⟩
  · obtain ⟨hwanted, hnone⟩ := hlacks
    exact hequipped.1 (of_decide_eq_true hwanted).1 (Option.map_eq_none_iff.1 hnone)
  · exact hequipped.2 hencryption (Option.map_eq_none_iff.1 hlacks.2)

/-- Whatever the plug-ins do: a payload is not framed exactly for the reasons of `EncodeFails`.
A frame starts with a header that says of encryption and of compression that they were made if and
only if the plug-ins were asked and have made the bytes, of the payload first and then of what came
of it; what was not made has left the bytes alone.  So nothing that is to be encrypted leaves
without it, if failures are not passed over.  A codec that was built lacks no plug-in that its
settings call for. -/
theorem encode_follows_policy (c : Codec) (serial : UInt64) (payload : Bytes)
    (options : EncodeOptions) :
    (∀ e, c.encode serial payload options = .error e ↔ c.EncodeFails serial payload options e) ∧
    (∀ frame, c.encode serial payload options = .ok frame →
      ∃ h data body, frame = assemble h body ∧ frame.head?.map Header.ofByte = some (.ok h) ∧
        h = headerFor options h.compressed h.encrypted body.length ∧
        (h.encrypted = true ↔ (c.encryption serial options).Answers payload (.ok data)) ∧
        (h.encrypted = false → data = payload) ∧
        (h.compressed = true ↔ c.compression.Answers data (.ok body)) ∧
        (h.compressed = false → body = data) ∧
        (options.encrypted = true → c.config.encryptFailure = .reject → h.encrypted = true)) ∧
    (c.Built → (∀ data, ¬ c.compression.Lacks data) ∧
      (c.config.encryption = true → ¬ (c.encryption serial options).Lacks payload)) := by
  refine ⟨fun e => encode_eq_error_iff, fun frame hframe => ?_, fun hbuilt => ?_⟩
  · obtain ⟨data, encrypted, body, compressed, hdata, hbody, -, rfl⟩ :=
      encode_eq_ok_iff_yields.1 hframe
    refine ⟨headerFor options compressed encrypted body.length, data, body, rfl, ?_, rfl,
      hdata.changed_iff, hdata.eq_self, hbody.changed_iff, hbody.eq_self,
      hdata.changed_of_reject⟩
    exact congrArg some (Header.ofByte_toByte _)
  · obtain ⟨hcompression, hencryption⟩ := hbuilt.not_lacks
    exact ⟨hcompression, fun hwanted => hencryption hwanted payload⟩

/-- Encryption fails and is passed over, compression is made: the frame says so. -/
example :
    let encryptor : Encryptor := ⟨fun _ _ => .error (.encryption "no key"), .ok⟩
    let compressor : Compressor := ⟨fun data => .ok (data.take 1), fun data _ => .ok data⟩
    let c : Codec :=
      ⟨{ compressionThreshold := 2, encryptFailure := .downgrade }, some compressor, some encryptor⟩
    let header : Header := { headerFor {} true false 1 with encrypted := false }
    c.encode 0 [1, 2] { encrypted := true } = .ok [header.toByte, 1] := by
  decide

end Codec

end SessionServer
