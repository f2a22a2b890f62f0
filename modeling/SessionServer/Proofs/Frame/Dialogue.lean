/-
# What plug-ins are asked while a frame is read

A peer chooses the bytes that arrive, and the plug-ins of a codec are given from outside.  A small
body may stand for a very large payload, and a compressor need not look at the limit that it is
given.  The codec therefore looks at the length of everything itself: before it asks the
compressor, again when it has the answer, and so before it asks the encryptor.

Reading is a dialogue with the plug-ins, so that one can speak of what they are asked, and not only
of what comes of it.  A property of a dialogue is shown along its course (`Dialogue.Keeps`), part by
part where it has parts (`Dialogue.Keeps.bind`).

Main result: whatever plug-ins answer, they are asked about nothing that is longer than the limit,
and no payload is longer unless decryption has made it so (`within_limit_of_decode`).
-/
import SessionServer.Proofs.Frame.RoundTrip

namespace SessionServer

/-! ## Along a dialogue -/

namespace Dialogue

variable {α β : Type} {answer : Question → Except FrameError Bytes} {allowed : Question → Prop}
  {P : α → Prop} {Q : β → Prop}

/-- What is asked in the course of the dialogue, first question first. -/
def questions (answer : Question → Except FrameError Bytes) : Dialogue α → List Question
  | done _ => []
  | ask question next =>
    question :: match answer question with
      | .error _ => []
      | .ok data => (next data).questions answer

/-- With the given answers, nothing is asked that is not allowed, and if there is a result then it
has the property. -/
def Keeps (answer : Question → Except FrameError Bytes) (allowed : Question → Prop)
    (P : α → Prop) : Dialogue α → Prop
  | done result => ∀ a, result = .ok a → P a
  | ask question next =>
    allowed question ∧
      ∀ data, answer question = .ok data → (next data).Keeps answer allowed P

lemma keeps_fail (err : FrameError) : (fail err : Dialogue α).Keeps answer allowed P := by
  intro a ha
  cases ha

lemma keeps_pure {a : α} (ha : P a) : (pure a : Dialogue α).Keeps answer allowed P := by
  intro a' ha'
  obtain rfl := Except.ok.inj ha'
  exact ha

/-- What the first of two dialogues yields is what the second may count on. -/
lemma Keeps.bind {d : Dialogue α} {f : α → Dialogue β} (hd : d.Keeps answer allowed P)
    (hf : ∀ a, P a → (f a).Keeps answer allowed Q) : (d >>= f).Keeps answer allowed Q := by
  induction d with
  | done result =>
    cases result with
    | error err => exact keeps_fail err
    | ok a => exact hf a (hd a rfl)
  | ask question next ih =>
    obtain ⟨hquestion, hnext⟩ := hd
    exact ⟨hquestion, fun data hdata => ih data (hnext data hdata)⟩

lemma Keeps.of_mem {d : Dialogue α} (hd : d.Keeps answer allowed P) :
    ∀ question ∈ d.questions answer, allowed question := by
  induction d with
  | done result => exact nofun
  | ask first next ih =>
    obtain ⟨hfirst, hnext⟩ := hd
    intro question hmem
    unfold questions at hmem
    rcases List.mem_cons.1 hmem with rfl | hmem
    · exact hfirst
    · cases ha : answer first with
      | error err => simp [ha] at hmem
      | ok data =>
        rw [ha] at hmem
        exact ih data (hnext data ha) question hmem

lemma Keeps.of_run {d : Dialogue α} (hd : d.Keeps answer allowed P) {a : α}
    (hrun : d.run answer = .ok a) : P a := by
  induction d with
  | done result => exact hd a hrun
  | ask question next ih =>
    rw [run_ask] at hrun
    cases ha : answer question with
    | error err => simp [ha, Except.bind] at hrun
    | ok data =>
      rw [ha] at hrun
      exact ih data (hd.2 data ha) hrun

end Dialogue

/-! ## Limits -/

namespace Codec

open Dialogue (keeps_fail keeps_pure)

variable {c : Codec} {answer : Question → Except FrameError Bytes} {data body : Bytes}

/-- The question is about no more bytes than the limit allows. -/
def Allows (c : Codec) (question : Question) : Prop :=
  question.data.length ≤ c.config.maxFrameSize

/-- The payload is within the limit, or it is what bytes within the limit are decrypted to. -/
def Restores (c : Codec) (answer : Question → Except FrameError Bytes) (f : Frame) : Prop :=
  ∃ data : Bytes, data.length ≤ c.config.maxFrameSize ∧
    (f.payload = data ∨ answer (.decrypt data) = .ok f.payload)

lemma keeps_inflate (hbody : body.length ≤ c.config.maxFrameSize) :
    (c.inflate body).Keeps answer c.Allows fun data => data.length ≤ c.config.maxFrameSize := by
  unfold inflate
  split_ifs
  · -- the compressor has answered with any number of bytes, which are counted before they are used
    refine ⟨hbody, fun data _ => ?_⟩
    dsimp only
    split_ifs with hdata
    · exact keeps_fail _
    · exact keeps_pure (Nat.le_of_not_lt hdata)
  · exact keeps_fail _

lemma keeps_reveal {P : Bytes → Prop} (hdata : data.length ≤ c.config.maxFrameSize)
    (hP : ∀ payload, answer (.decrypt data) = .ok payload → P payload) :
    (c.reveal data).Keeps answer c.Allows P := by
  unfold reveal
  split_ifs
  · exact ⟨hdata, fun payload hpayload => keeps_pure (hP payload hpayload)⟩
  · exact keeps_fail _

lemma keeps_bodyDialogue (c : Codec) (h : Header) (body : Bytes) :
    (c.bodyDialogue h body).Keeps answer c.Allows (c.Restores answer) := by
  unfold bodyDialogue
  by_cases hbody : c.config.maxFrameSize < body.length
  · rw [if_pos hbody]
    exact keeps_fail _
  · rw [if_neg hbody]
    have hle : body.length ≤ c.config.maxFrameSize := Nat.le_of_not_lt hbody
    have hinflate : (if h.compressed then c.inflate body else pure body).Keeps answer c.Allows
        fun data => data.length ≤ c.config.maxFrameSize := by
      split_ifs
      · exact keeps_inflate hle
      · exact keeps_pure hle
    refine hinflate.bind fun data hdata => ?_
    have hreveal : (if h.encrypted then c.reveal data else pure data).Keeps answer c.Allows
        fun payload => payload = data ∨ answer (.decrypt data) = .ok payload := by
      split_ifs
      · exact keeps_reveal hdata fun _ => Or.inr
      · exact keeps_pure (Or.inl rfl)
    exact hreveal.bind fun payload hpayload => keeps_pure ⟨data, hdata, hpayload⟩

lemma keeps_dialogue (c : Codec) (bytes : Bytes) :
    (c.dialogue bytes).Keeps answer c.Allows (c.Restores answer) := by
  cases bytes with
  | nil => exact keeps_fail _
  | cons first rest =>
    have hheader : (Dialogue.done (Header.ofByte first)).Keeps answer c.Allows
        fun _ => True := fun _ _ => trivial
    refine hheader.bind fun h _ => ?_
    unfold restDialogue
    split_ifs
    · exact keeps_fail _
    · have hlength : (Dialogue.done (checkLength h (rest.take h.lengthWidth)
          (rest.drop h.lengthWidth))).Keeps answer c.Allows fun _ => True := fun _ _ => trivial
      exact hlength.bind fun _ _ => keeps_bodyDialogue c h _

/-- If decryption does not make anything longer, what is restored is within the limit. -/
lemma Restores.length_le {f : Frame} (hf : c.Restores c.answer f)
    (hshort : ∀ plugIn ∈ c.encryptor, ∀ secret data,
      plugIn.decrypt secret = .ok data → data.length ≤ secret.length) :
    f.payload.length ≤ c.config.maxFrameSize := by
  obtain ⟨data, hdata, heq | hdecrypt⟩ := hf
  · rwa [heq]
  · unfold answer at hdecrypt
    cases hc : c.encryptor with
    | none => simp [hc] at hdecrypt
    | some plugIn =>
      rw [hc] at hdecrypt
      exact Nat.le_trans (hshort plugIn hc data f.payload hdecrypt) hdata

/-- **What is read is limited.**  Reading is a dialogue with the plug-ins, for whole frames and for
bodies.  In the course of it they are asked about nothing that is longer than the limit, whatever
they answer.  If decryption does not make anything longer, no payload that is read is longer than
the limit either, even if the compressor does not care about it. -/
theorem within_limit_of_decode (c : Codec)
    (hshort : ∀ plugIn ∈ c.encryptor, ∀ secret data,
      plugIn.decrypt secret = .ok data → data.length ≤ secret.length) :
    (∀ bytes, (c.dialogue bytes).run c.answer = c.decode bytes ∧
      (∀ f, c.decode bytes = .ok f → f.payload.length ≤ c.config.maxFrameSize) ∧
      ∀ answer, ∀ question ∈ (c.dialogue bytes).questions answer,
        question.data.length ≤ c.config.maxFrameSize) ∧
    ∀ h body, (c.bodyDialogue h body).run c.answer = c.decodeBody h body ∧
      (∀ f, c.decodeBody h body = .ok f → f.payload.length ≤ c.config.maxFrameSize) ∧
      ∀ answer, ∀ question ∈ (c.bodyDialogue h body).questions answer,
        question.data.length ≤ c.config.maxFrameSize := by
  refine ⟨fun bytes => ⟨rfl, fun f hf => ?_, fun answer => ?_⟩,
    fun h body => ⟨rfl, fun f hf => ?_, fun answer => ?_⟩⟩
  · exact ((keeps_dialogue c bytes).of_run hf).length_le hshort
  · exact (keeps_dialogue c bytes).of_mem
  · exact ((keeps_bodyDialogue c h body).of_run hf).length_le hshort
  · exact (keeps_bodyDialogue c h body).of_mem

/-- A compressor that makes sixteen bytes of every byte and does not look at the limit, which has
room for forty.  Two bytes are restored, and then turned around by the encryptor; of three the
encryptor never hears. -/
theorem within_limit_of_bomb :
    let codec : Codec :=
      { config := { maxFrameSize := 40 }
        compressor := some
          { compress := .ok
            uncompress := fun small _ => .ok (small.flatMap fun b => List.replicate 16 b) }
        encryptor := some
          { encrypt := fun _ payload => .ok payload.reverse
            decrypt := fun data => .ok data.reverse } }
    let restored : Bytes := List.replicate 16 5 ++ List.replicate 16 6
    codec.decode [27, 0, 2, 5, 6] = .ok ⟨⟨true, true, false, true, .zero⟩, restored.reverse⟩ ∧
      (codec.dialogue [27, 0, 2, 5, 6]).questions codec.answer
        = [.uncompress [5, 6] 40, .decrypt restored] ∧
      codec.decode [27, 0, 3, 5, 6, 7] = .error (.frameTooLarge 48 40) ∧
      (codec.dialogue [27, 0, 3, 5, 6, 7]).questions codec.answer = [.uncompress [5, 6, 7] 40] ∧
      restored.reverse.length ≤ 40 ∧ restored.length ≤ 40 := by
  intro codec restored
  have hread : codec.decode [27, 0, 2, 5, 6]
      = .ok ⟨⟨true, true, false, true, .zero⟩, restored.reverse⟩ := by decide +kernel
  have hasked : (codec.dialogue [27, 0, 2, 5, 6]).questions codec.answer
      = [.uncompress [5, 6] 40, .decrypt restored] := by decide +kernel
  obtain ⟨hframe, -⟩ := within_limit_of_decode codec (by
    rintro plugIn hplugIn secret data hdata
    obtain rfl := Option.some.inj hplugIn
    obtain rfl := Except.ok.inj hdata
    exact Nat.le_of_eq List.length_reverse)
  obtain ⟨-, hpayload, hquestions⟩ := hframe [27, 0, 2, 5, 6]
  refine ⟨hread, hasked, by decide +kernel, by decide +kernel, hpayload _ hread,
    hquestions codec.answer (.decrypt restored) ?_⟩
  rw [hasked]
  simp

end Codec

end SessionServer
