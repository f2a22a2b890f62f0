/-
# Galois counter mode

A message is encrypted by adding it to the encrypted values of a counter that starts from a
96-bit nonce, and sealed with a sixteen-byte tag: a polynomial in a secret element of the field
with `2 ^ 128` elements, taken over the encrypted message, plus one more encrypted counter value.
There is no additional data.

Main results: sealing adds exactly the tag to the length of a message (`length_lock`), and what
`unlock` gives back for a sealed message is that message (`unlock_lock`).
-/
import SessionServer.Cipher.Aes

namespace SessionServer.Cipher

/-! ### The field of blocks -/

/-- A block as a number, most significant byte first. -/
def blockValue (block : Bytes) : Nat :=
  Bytes.ofBigEndian (block ++ List.replicate (16 - block.length) 0)

/-- The polynomial that products are reduced by, without its leading term and read from the top
bit down: `1 + x + x^2 + x^7`. -/
def reduction : Nat := 0xE1 <<< 120

/-- The product of two blocks.  `bits` counts the bits of `x` that are still to be looked at, the
next one from the top; `y` is multiplied by the unknown in each step. -/
def blockProduct (x : Nat) : (bits : Nat) → (y total : Nat) → Nat
  | 0, _, total => total
  | bits + 1, y, total =>
    let total := if x.testBit bits then total ^^^ y else total
    blockProduct x bits (if y % 2 = 0 then y / 2 else (y / 2) ^^^ reduction) total

/-- The polynomial over the blocks of a message, by Horner's rule. -/
def polynomial (point : Nat) (blocks : List Bytes) : Nat :=
  blocks.foldl (fun total block => blockProduct (total ^^^ blockValue block) 128 point 0) 0

/-! ### Counter mode -/

/-- The counter block that starts from a nonce. -/
def counterBlock (nonce : Bytes) (count : Nat) : Bytes := nonce ++ Bytes.bigEndian 4 count

/-- The byte string that a message of the given number of blocks is added to, from the given
counter on. -/
def keyStream (keys : List Bytes) (nonce : Bytes) : (blocks count : Nat) → Bytes
  | 0, _ => []
  | blocks + 1, count =>
    encryptBlock keys (counterBlock nonce count) ++ keyStream keys nonce blocks (count + 1)

/-- The number of blocks that hold `length` bytes. -/
def blockCount (length : Nat) : Nat := (length + 15) / 16

/-- What a message of the given length is added to.  It starts at counter two, and zeros follow
the key stream. -/
def mask (keys : List Bytes) (nonce : Bytes) (length : Nat) : Bytes :=
  keyStream keys nonce (blockCount length) 2 ++ List.replicate length 0

/-- A message with its mask added, which both encrypts and decrypts it. -/
def crypt (keys : List Bytes) (nonce message : Bytes) : Bytes :=
  add message (mask keys nonce message.length)

/-! ### Sealing -/

/-- The length of a tag. -/
def tagLength : Nat := 16

/-- The tag of an encrypted message. -/
def tag (keys : List Bytes) (nonce sealed : Bytes) : Bytes :=
  let point := blockValue (encryptBlock keys (List.replicate 16 0))
  let lengths := Bytes.bigEndian 8 0 ++ Bytes.bigEndian 8 (8 * sealed.length)
  let sum := polynomial point (pieces 16 sealed.length sealed ++ [lengths])
  Bytes.bigEndian tagLength (sum ^^^ blockValue (encryptBlock keys (counterBlock nonce 1)))

/-- Encrypts a message and appends its tag. -/
def lock (keys : List Bytes) (nonce message : Bytes) : Bytes :=
  let sealed := crypt keys nonce message
  sealed ++ tag keys nonce sealed

/-- Checks the tag at the end of a sealed message and decrypts what is in front of it. -/
def unlock (keys : List Bytes) (nonce data : Bytes) : Option Bytes :=
  if data.length < tagLength then none
  else
    let sealed := data.take (data.length - tagLength)
    if data.drop (data.length - tagLength) = tag keys nonce sealed then
      some (crypt keys nonce sealed)
    else none

/-! ### Unsealing undoes sealing -/

@[simp] theorem length_crypt (keys : List Bytes) (nonce message : Bytes) :
    (crypt keys nonce message).length = message.length := by
  simp only [crypt, mask, add, List.length_zipWith, List.length_append, List.length_replicate]
  omega

@[simp] theorem length_tag (keys : List Bytes) (nonce sealed : Bytes) :
    (tag keys nonce sealed).length = tagLength := by
  simp [tag]

theorem length_lock (keys : List Bytes) (nonce message : Bytes) :
    (lock keys nonce message).length = message.length + tagLength := by
  simp [lock]

/-- Adding a byte string twice changes nothing. -/
theorem add_add_cancel (a b : Bytes) (h : a.length ≤ b.length) : add (add a b) b = a := by
  induction a generalizing b with
  | nil => simp [add]
  | cons x a ih =>
    cases b with
    | nil => simp at h
    | cons y b =>
      have hxy : x ^^^ y ^^^ y = x := by
        rw [UInt8.xor_assoc, UInt8.xor_self, UInt8.xor_zero]
      have := ih b (by simpa using h)
      simpa [add, hxy] using this

theorem crypt_crypt (keys : List Bytes) (nonce message : Bytes) :
    crypt keys nonce (crypt keys nonce message) = message := by
  rw [crypt, length_crypt]
  exact add_add_cancel _ _ (by simp [mask])

theorem unlock_lock (keys : List Bytes) (nonce message : Bytes) :
    unlock keys nonce (lock keys nonce message) = some message := by
  have hlen := length_lock keys nonce message
  have htake : (lock keys nonce message).take message.length = crypt keys nonce message :=
    List.take_left' (length_crypt keys nonce message)
  have hdrop : (lock keys nonce message).drop message.length
      = tag keys nonce (crypt keys nonce message) :=
    List.drop_left' (length_crypt keys nonce message)
  simp [unlock, hlen, htake, hdrop, crypt_crypt]

end SessionServer.Cipher
