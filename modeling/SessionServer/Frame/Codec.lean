/-
# Framing payloads and reading frames back

A payload is encrypted, then compressed, then given a header byte and, on byte streams, a length
field.  Reading undoes these steps in the opposite order.  Encryption and compression are
plug-ins: the codec only fixes when each of them runs, what happens when one of them fails, and
how large a frame may be.

Main results: what follows the header byte of a frame is a length field, which must be true, and
a body (`decode_cons`, `decodeRest_eq`), so that a frame whose length field agrees with its body is
read as that body (`decode_counted`, `decode_uncounted`).  A body within the size limit is
decompressed and then decrypted (`decodeBody_of_length_le`).
-/
import SessionServer.Frame.Dialogue
import SessionServer.Frame.Header

namespace SessionServer

/-- A way to make payloads smaller. -/
structure Compressor where
  /-- The compressed form of a byte string. -/
  compress : Bytes → Except FrameError Bytes
  /-- The byte string that a compressed form stands for, when it has at most as many bytes as the
  second argument allows. -/
  uncompress : Bytes → Nat → Except FrameError Bytes

/-- A way to make payloads unreadable for others. -/
structure Encryptor where
  /-- The encrypted form of a byte string.  The first argument is a number that the user of the
  plug-in never gives twice, for schemes that must not repeat themselves. -/
  encrypt : UInt64 → Bytes → Except FrameError Bytes
  /-- The byte string that an encrypted form stands for. -/
  decrypt : Bytes → Except FrameError Bytes

/-- What is done with a payload when a plug-in fails on it. -/
inductive FailurePolicy where
  /-- It is sent without that transformation. -/
  | downgrade
  /-- It is not sent, and the failure is reported. -/
  | reject
deriving DecidableEq, Repr

/-- The tag that names a failure policy in settings. -/
def FailurePolicy.tag : FailurePolicy → String
  | downgrade => "downgrade"
  | reject => "reject"

/-- The name of a failure policy in descriptions of codecs. -/
def FailurePolicy.label : FailurePolicy → String
  | downgrade => "Downgrade"
  | reject => "Reject"

/-- The failure policies, in the order they are documented. -/
def FailurePolicy.all : List FailurePolicy := [downgrade, reject]

/-- The settings of a codec. -/
structure CodecConfig where
  /-- Payloads of at least this many bytes are compressed; zero switches compression off. -/
  compressionThreshold : Nat := 3000
  /-- What to do when encryption fails. -/
  encryptFailure : FailurePolicy := .reject
  /-- What to do when compression fails. -/
  compressFailure : FailurePolicy := .downgrade
  /-- The most bytes that a body may have, as received and again when decompressed. -/
  maxFrameSize : Nat := 4194304
  /-- Packets may ask to be encrypted. -/
  encryption : Bool := false
deriving DecidableEq, Repr

/-- How one payload is to be framed. -/
structure EncodeOptions where
  dataType : DataType := .zero
  /-- Whether to write a length field. -/
  counting : Bool := false
  encrypted : Bool := false
deriving DecidableEq, Repr

/-- A frame that has been read: its header as it arrived, and the payload as it was sent. -/
structure Frame where
  /-- The header as it arrived. -/
  header : Header
  /-- The payload, decompressed and decrypted. -/
  payload : Bytes
deriving DecidableEq, Repr

/-- The format of the payload of a frame. -/
def Frame.dataType (f : Frame) : DataType := f.header.dataType

/-- Turns payloads into frames and frames into payloads. -/
structure Codec where
  config : CodecConfig
  compressor : Option Compressor
  encryptor : Option Encryptor

namespace Codec

/-- The longest body that a length field can announce. -/
def maxLength : Nat := 4294967295

/-- The longest body that the short length field can announce. -/
def maxShortLength : Nat := 65535

/-- The codec without plug-ins, which never compresses. -/
def plain : Codec := ⟨{ compressionThreshold := 0 }, none, none⟩

/-- The codec with the given settings and plug-ins.  Settings that need a plug-in which is not
there are refused, compression first. -/
def build (config : CodecConfig) (compressor : Option Compressor) (encryptor : Option Encryptor) :
    Except FrameError Codec :=
  if config.compressionThreshold > 0 && compressor.isNone then .error .missingCompressor
  else if config.encryption && encryptor.isNone then .error .missingEncryptor
  else .ok ⟨config, compressor, encryptor⟩

/-- A one-line description that tells whether there are plug-ins. -/
def describe (c : Codec) : String :=
  let threshold := c.config.compressionThreshold
  s!"PacketCodec \x7b config: CodecConfig \x7b compression_threshold: {threshold}, " ++
    s!"encrypt_failure: {c.config.encryptFailure.label}, " ++
    s!"compress_failure: {c.config.compressFailure.label}, " ++
    s!"max_frame_size: {c.config.maxFrameSize}, encryption: {c.config.encryption} \x7d, " ++
    s!"compressor: {c.compressor.isSome}, encryptor: {c.encryptor.isSome} \x7d"

/-! ### Encoding -/

/-- The outcome of one transformation: the bytes to go on with and whether the transformation
was made.  A failure is reported or passed over, as the policy says. -/
def settle (policy : FailurePolicy) (data : Bytes) :
    Except FrameError Bytes → Except FrameError (Bytes × Bool)
  | .ok changed => .ok (changed, true)
  | .error e =>
    match policy with
    | .reject => .error e
    | .downgrade => .ok (data, false)

/-- Encrypts a payload if that is wanted.  Returns the bytes to go on with and whether they are
encrypted. -/
def protect (c : Codec) (serial : UInt64) (payload : Bytes) (wanted : Bool) :
    Except FrameError (Bytes × Bool) :=
  if wanted then
    match c.encryptor with
    | none => .error .missingEncryptor
    | some plugIn => settle c.config.encryptFailure payload (plugIn.encrypt serial payload)
  else .ok (payload, false)

/-- Compresses the bytes if there are enough of them.  Returns the bytes to go on with and whether
they are compressed. -/
def shrink (c : Codec) (data : Bytes) : Except FrameError (Bytes × Bool) :=
  if c.config.compressionThreshold > 0 && c.config.compressionThreshold ≤ data.length then
    match c.compressor with
    | none => .error .missingCompressor
    | some plugIn => settle c.config.compressFailure data (plugIn.compress data)
  else .ok (data, false)

/-- The header of a frame whose body has the given length. -/
def headerFor (options : EncodeOptions) (compressed encrypted : Bool) (length : Nat) : Header where
  counting := options.counting
  compressed := compressed
  bigSized := options.counting && decide (maxShortLength < length)
  encrypted := encrypted
  dataType := options.dataType

/-- The frame that consists of the given header and body. -/
def assemble (h : Header) (body : Bytes) : Bytes :=
  h.toByte :: (Bytes.bigEndian h.lengthWidth body.length ++ body)

/-- Frames a payload.  `serial` is handed to the encryption plug-in and must not repeat. -/
def encode (c : Codec) (serial : UInt64) (payload : Bytes) (options : EncodeOptions) :
    Except FrameError Bytes := do
  let (data, encrypted) ← c.protect serial payload options.encrypted
  let (body, compressed) ← c.shrink data
  if maxLength < body.length then .error (.frameTooLarge body.length maxLength)
  else .ok (assemble (headerFor options compressed encrypted body.length) body)

/-! ### Decoding

Reading a frame is a dialogue with the plug-ins of the codec, so that the order of its checks and
of what it asks stands in one place.  The codec's own reading is that dialogue with the answers
that its plug-ins give. -/

/-- What the plug-ins of a codec answer. -/
def answer (c : Codec) : Question → Except FrameError Bytes
  | .uncompress data limit =>
    match c.compressor with
    | none => .error .missingCompressor
    | some plugIn => plugIn.uncompress data limit
  | .decrypt data =>
    match c.encryptor with
    | none => .error .missingEncryptor
    | some plugIn => plugIn.decrypt data

/-- Undoes compression.  The restored bytes must be within the limit even if the plug-in does
not look at it. -/
def inflate (c : Codec) (body : Bytes) : Dialogue Bytes :=
  if c.compressor.isSome then
    .ask (.uncompress body c.config.maxFrameSize) fun data =>
      if c.config.maxFrameSize < data.length then
        .fail (.frameTooLarge data.length c.config.maxFrameSize)
      else pure data
  else .fail .missingCompressor

/-- Undoes encryption. -/
def reveal (c : Codec) (data : Bytes) : Dialogue Bytes :=
  if c.encryptor.isSome then .ask (.decrypt data) pure else .fail .missingEncryptor

/-- The dialogue that restores the payload of a frame whose header and length field have been
read. -/
def bodyDialogue (c : Codec) (h : Header) (body : Bytes) : Dialogue Frame :=
  if c.config.maxFrameSize < body.length then
    .fail (.frameTooLarge body.length c.config.maxFrameSize)
  else do
    let data ← (if h.compressed then c.inflate body else pure body)
    let payload ← (if h.encrypted then c.reveal data else pure data)
    pure ⟨h, payload⟩

/-- Checks the announced length of a body against the bytes that are there. -/
def checkLength (h : Header) (field body : Bytes) : Except FrameError Unit :=
  if h.counting then
    let announced := Bytes.ofBigEndian field
    if body.length < announced then .error (.truncated announced body.length)
    else if announced < body.length then .error (.trailingBytes announced body.length)
    else .ok ()
  else .ok ()

/-- The dialogue about what follows the header byte of a frame. -/
def restDialogue (c : Codec) (h : Header) (rest : Bytes) : Dialogue Frame :=
  if rest.length < h.lengthWidth then
    .fail (.truncated (1 + h.lengthWidth) (1 + rest.length))
  else do
    .done (checkLength h (rest.take h.lengthWidth) (rest.drop h.lengthWidth))
    c.bodyDialogue h (rest.drop h.lengthWidth)

/-- The dialogue about a byte string that is one whole frame. -/
def dialogue (c : Codec) : Bytes → Dialogue Frame
  | [] => .fail (.truncated 1 0)
  | first :: rest => do
    let h ← .done (Header.ofByte first)
    c.restDialogue h rest

/-- Restores the payload of a frame whose header and length field have been read. -/
def decodeBody (c : Codec) (h : Header) (body : Bytes) : Except FrameError Frame :=
  (c.bodyDialogue h body).run c.answer

/-- Reads what follows the header byte of a frame. -/
def decodeRest (c : Codec) (h : Header) (rest : Bytes) : Except FrameError Frame :=
  (c.restDialogue h rest).run c.answer

/-- Reads a byte string that is one whole frame. -/
def decode (c : Codec) (bytes : Bytes) : Except FrameError Frame :=
  (c.dialogue bytes).run c.answer

/-! ### First laws -/

/-- With a compressor, what it restores is used if it is within the limit. -/
theorem run_inflate {c : Codec} {plugIn : Compressor} (hc : c.compressor = some plugIn)
    (body : Bytes) :
    (c.inflate body).run c.answer
      = (plugIn.uncompress body c.config.maxFrameSize).bind fun data =>
          if c.config.maxFrameSize < data.length then
            .error (.frameTooLarge data.length c.config.maxFrameSize)
          else .ok data := by
  simp only [inflate, hc, Option.isSome_some, if_true, Dialogue.run_ask, answer,
    apply_ite (Dialogue.run c.answer), Dialogue.run_fail, Dialogue.run_pure]

/-- With an encryptor, what it decrypts is used. -/
theorem run_reveal {c : Codec} {plugIn : Encryptor} (hc : c.encryptor = some plugIn)
    (data : Bytes) : (c.reveal data).run c.answer = plugIn.decrypt data := by
  simp only [reveal, hc, Option.isSome_some, if_true, Dialogue.run_ask, answer, Dialogue.run_pure]
  cases plugIn.decrypt data <;> rfl

/-- Nothing is read from a body that is over the limit. -/
theorem decodeBody_of_lt {c : Codec} {body : Bytes} (h : Header)
    (hlt : c.config.maxFrameSize < body.length) :
    c.decodeBody h body = .error (.frameTooLarge body.length c.config.maxFrameSize) := by
  rw [decodeBody, bodyDialogue, if_pos hlt, Dialogue.run_fail]

/-- A body within the limit is decompressed and then decrypted, as its header says. -/
theorem decodeBody_of_length_le {c : Codec} {h : Header} {body : Bytes}
    (hle : body.length ≤ c.config.maxFrameSize) :
    c.decodeBody h body
      = (if h.compressed then (c.inflate body).run c.answer else .ok body).bind fun data =>
          (if h.encrypted then (c.reveal data).run c.answer else .ok data).bind fun payload =>
            .ok ⟨h, payload⟩ := by
  rw [decodeBody, bodyDialogue, if_neg (Nat.not_lt_of_le hle)]
  simp only [Dialogue.run_bind, Dialogue.run_pure, apply_ite (Dialogue.run c.answer)]

/-- What follows the header byte is the length field, which must be true, and the body. -/
theorem decodeRest_eq (c : Codec) (h : Header) (rest : Bytes) :
    c.decodeRest h rest
      = if rest.length < h.lengthWidth then
          .error (.truncated (1 + h.lengthWidth) (1 + rest.length))
        else (checkLength h (rest.take h.lengthWidth) (rest.drop h.lengthWidth)).bind fun _ =>
          c.decodeBody h (rest.drop h.lengthWidth) := by
  rw [decodeRest, restDialogue, apply_ite (Dialogue.run c.answer), Dialogue.run_fail,
    Dialogue.run_bind, Dialogue.run_done]
  rfl

/-- A frame starts with its header byte. -/
theorem decode_cons (c : Codec) (first : UInt8) (rest : Bytes) :
    c.decode (first :: rest) = (Header.ofByte first).bind fun h => c.decodeRest h rest := by
  rw [decode, dialogue, Dialogue.run_bind, Dialogue.run_done]
  rfl

/-- A frame with a true length field is read as its body. -/
theorem decode_counted (c : Codec) (h : Header) (body : Bytes) (hc : h.counting = true)
    (hl : body.length < Bytes.capacity h.lengthWidth) :
    c.decode (assemble h body) = c.decodeBody h body := by
  have hw : ¬ h.lengthWidth + body.length < h.lengthWidth := by omega
  simp [decode_cons, decodeRest_eq, assemble, checkLength, hc, hw,
    Bytes.ofBigEndian_bigEndian_of_lt hl, Except.bind]

/-- A frame without a length field is read as its body. -/
theorem decode_uncounted (c : Codec) (h : Header) (body : Bytes) (hc : h.counting = false) :
    c.decode (assemble h body) = c.decodeBody h body := by
  simp [decode_cons, decodeRest_eq, assemble, checkLength, hc, Header.lengthWidth,
    Bytes.bigEndian, Except.bind]

end Codec

end SessionServer
