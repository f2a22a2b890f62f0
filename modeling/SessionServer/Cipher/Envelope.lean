/-
# Encrypted messages that carry their nonce

A sealed message is sent behind the nonce it was sealed with, so that the receiver needs nothing
but the key.  A nonce is a four-byte label, fixed for each sender, followed by an eight-byte count
of the messages that the sender was given before.

None of this depends on the cipher (`Aead`).  A cipher may refuse to seal a message, and the count
has moved on by then.  The plug-in uses AES in Galois counter mode (`aesGcm`), which refuses none.

Main results: `unwrap` gives back what `wrap` was given (`unwrap_of_wrap`), and nonces of different
counts differ (`nonce_injective`).
-/
import SessionServer.Cipher.Gcm
import SessionServer.Frame.Codec

namespace SessionServer.Cipher

/-- A cipher that seals messages under a key and a nonce. -/
structure Aead (Key : Type) where
  /-- The sealed form of a message, unless the message is refused. -/
  lock : (key : Key) → (nonce message : Bytes) → Option Bytes
  /-- The message with the given sealed form, if that is genuine. -/
  unlock : (key : Key) → (nonce data : Bytes) → Option Bytes
  /-- What has been sealed is opened under the same key and the same nonce. -/
  unlock_of_lock {key : Key} {nonce message data : Bytes} :
    lock key nonce message = some data → unlock key nonce data = some message

/-! ### Nonces -/

/-- The length of a nonce. -/
def nonceLength : Nat := 12

/-- The nonce for the given label and count. -/
def nonce (label : UInt32) (count : UInt64) : Bytes :=
  Bytes.bigEndian 4 label.toNat ++ Bytes.bigEndian 8 count.toNat

@[simp] theorem length_nonce (label : UInt32) (count : UInt64) :
    (nonce label count).length = nonceLength := by
  simp [nonce, nonceLength]

theorem nonce_injective {label : UInt32} {m n : UInt64} (h : nonce label m = nonce label n) :
    m = n := by
  have hfield := List.append_cancel_left h
  have hvalue := congrArg Bytes.ofBigEndian hfield
  rw [Bytes.ofBigEndian_bigEndian_of_lt m.toNat_lt,
    Bytes.ofBigEndian_bigEndian_of_lt n.toNat_lt] at hvalue
  exact UInt64.toNat_inj.mp hvalue

/-! ### Sealed messages behind their nonces -/

variable {Key : Type} {A : Aead Key}

/-- The outcome of a cipher, or the error when there is none. -/
def outcome : Option Bytes → Except FrameError Bytes
  | some data => .ok data
  | none => .error (.encryption "aead::Error")

/-- A message sealed with a nonce, behind that nonce. -/
def wrap (A : Aead Key) (key : Key) (nonce message : Bytes) : Except FrameError Bytes := do
  let data ← outcome (A.lock key nonce message)
  .ok (nonce ++ data)

/-- Opens a sealed message. -/
def unwrap (A : Aead Key) (key : Key) (data : Bytes) : Except FrameError Bytes :=
  if data.length < nonceLength then .error (.encryption "ciphertext shorter than nonce")
  else outcome (A.unlock key (data.take nonceLength) (data.drop nonceLength))

theorem unwrap_of_wrap {key : Key} {nonce message data : Bytes}
    (hnonce : nonce.length = nonceLength) (h : wrap A key nonce message = .ok data) :
    unwrap A key data = .ok message := by
  cases hlock : A.lock key nonce message with
  | none => simp [wrap, outcome, hlock, bind, Except.bind] at h
  | some body =>
    have hdata : nonce ++ body = data := by
      simpa [wrap, outcome, hlock, bind, Except.bind] using h
    have hlen : ¬ (nonce ++ body).length < nonceLength := by
      rw [List.length_append]
      omega
    rw [← hdata, unwrap, if_neg hlen, List.take_left' hnonce, List.drop_left' hnonce,
      A.unlock_of_lock hlock, outcome]

/-- A sender of sealed messages. -/
structure Sender (A : Aead Key) where
  key : Key
  /-- The part of the nonce that tells senders apart. -/
  label : UInt32
  /-- The number of messages that were to be sealed so far. -/
  count : UInt64 := 0

namespace Sender

/-- Seals a message and counts it, even if the cipher refuses it. -/
def encrypt (e : Sender A) (message : Bytes) : Except FrameError Bytes × Sender A :=
  (wrap A e.key (nonce e.label e.count) message, { e with count := e.count + 1 })

/-- Opens a message that was sealed under the same key. -/
def decrypt (e : Sender A) (data : Bytes) : Except FrameError Bytes := unwrap A e.key data

end Sender

/-! ### With AES -/

/-- AES in Galois counter mode, whose keys are the round keys. -/
def aesGcm : Aead (List Bytes) where
  lock keys nonce message := some (lock keys nonce message)
  unlock := unlock
  unlock_of_lock h := Option.some.inj h ▸ unlock_lock ..

/-- A sender that uses AES in Galois counter mode. -/
abbrev Envelope := Sender aesGcm

namespace Envelope

/-- A sender that has sealed nothing yet. -/
def start (key : Bytes) (label : UInt32) : Envelope := { key := roundKeys key, label }

/-- Seals a message and counts it. -/
def encrypt (e : Envelope) (message : Bytes) : Bytes × Envelope :=
  let nonce := nonce e.label e.count
  (nonce ++ lock e.key nonce message, { e with count := e.count + 1 })

/-- No message is refused. -/
theorem sender_encrypt (e : Envelope) (message : Bytes) :
    Sender.encrypt e message = (.ok (e.encrypt message).1, (e.encrypt message).2) :=
  rfl

/-- The encryption plug-in for a key, which seals each message under the number it is given. -/
def encryptor (key : Bytes) (label : UInt32) : Encryptor :=
  let keys := roundKeys key
  { encrypt := fun serial => wrap aesGcm keys (nonce label serial)
    decrypt := unwrap aesGcm keys }

end Envelope

end SessionServer.Cipher
