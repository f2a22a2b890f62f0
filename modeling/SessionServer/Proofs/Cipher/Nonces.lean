/-
# No nonce is used twice

Some senders, with keys and labels of their own or with the same ones, are asked to seal and to open
messages, in any order.  A sender that is to seal a message moves its count on by one, whether the
cipher refuses the message or not, and opening leaves the count alone.  So what a sender does with a
call depends on nothing but its key, its label and the number of messages that it was to seal
before.  The nonces of one sender therefore differ until its count of 64 bits has come round; and
since a sealed message carries its nonce, whoever has the key can open it at any time.  Of the
cipher nothing is needed but that it opens what it has sealed.

Main results: what a sender is after some calls (`after_apply`), when two of its nonces are the same
(`nonce_ofNat_eq_iff`), and what is sealed under which nonce and opened again
(`sealed_apart_and_opened`).
-/
import Mathlib.Algebra.Ring.Nat
import Mathlib.Data.List.Infix
import Mathlib.Logic.Function.Basic
import SessionServer.Cipher.Envelope

namespace SessionServer.Cipher

namespace Sender

/-- What a sender is asked to do. -/
inductive Call where
  | encrypt (message : Bytes)
  | decrypt (data : Bytes)
deriving DecidableEq, Repr

variable {Key : Type} {A : Aead Key}

/-- What a sender answers to a call, and what becomes of it. -/
def perform (e : Sender A) : Call → Except FrameError Bytes × Sender A
  | .encrypt message => e.encrypt message
  | .decrypt data => (e.decrypt data, e)

section Calls

variable {ι : Type} [DecidableEq ι]

/-- The senders after some calls, each of which is made to one of them. -/
def after (es : ι → Sender A) : List (ι × Call) → ι → Sender A
  | [] => es
  | (i, c) :: calls => after (Function.update es i ((es i).perform c).2) calls

/-- The answers to some calls, each of which is made to one of the senders. -/
def answers (es : ι → Sender A) : List (ι × Call) → List (Except FrameError Bytes)
  | [] => []
  | (i, c) :: calls =>
    ((es i).perform c).1 :: answers (Function.update es i ((es i).perform c).2) calls

/-- A call that asks the given sender to seal something. -/
def seals (i : ι) : ι × Call → Bool
  | (j, .encrypt _) => j = i
  | (_, .decrypt _) => false

/-- How many messages a sender is asked to seal. -/
def sealings (i : ι) (calls : List (ι × Call)) : ℕ := calls.countP (seals i)

variable {calls : List (ι × Call)} {i j : ι} {m n p q : ℕ} {message data : Bytes}
  {label : UInt32}

/-! ## What calls do -/

lemma sealings_cons (i : ι) (call : ι × Call) (calls : List (ι × Call)) :
    sealings i (call :: calls) = sealings i [call] + sealings i calls := by
  rw [← List.singleton_append, sealings, List.countP_append]
  rfl

lemma sealings_of_ne (h : i ≠ j) (c : Call) : sealings i [(j, c)] = 0 := by
  cases c <;> simp [sealings, seals, h.symm]

/-- A call does nothing to its sender but move the count on, if something is to be sealed. -/
lemma perform_snd (e : Sender A) (i : ι) (c : Call) :
    (e.perform c).2 = { e with count := e.count + UInt64.ofNat (sealings i [(i, c)]) } := by
  cases c <;> simp [perform, encrypt, sealings, seals]

/-- Calls do nothing to a sender but move its count on. -/
lemma after_apply (es : ι → Sender A) (calls : List (ι × Call)) (i : ι) :
    after es calls i = { es i with count := (es i).count + UInt64.ofNat (sealings i calls) } := by
  induction calls generalizing es with
  | nil => simp [after, sealings]
  | cons call calls ih =>
    obtain ⟨j, c⟩ := call
    rw [after, ih, sealings_cons]
    -- the call is made to this sender or to another one
    by_cases hij : i = j
    · subst hij
      rw [Function.update_self, perform_snd _ i, UInt64.ofNat_add, UInt64.add_assoc]
    · rw [Function.update_of_ne hij, sealings_of_ne hij, Nat.zero_add]

lemma getElem?_answers (es : ι → Sender A) (calls : List (ι × Call)) (p : ℕ) :
    (answers es calls)[p]?
      = calls[p]?.map fun call => ((after es (calls.take p) call.1).perform call.2).1 := by
  induction calls generalizing es p with
  | nil => rfl
  | cons call calls ih =>
    obtain ⟨i, c⟩ := call
    cases p with
    | zero => rfl
    | succ p => exact ih _ p

/-- The senders of a cipher when they have sealed nothing yet. -/
def fresh (A : Aead Key) (keys : ι → Key) (labels : ι → UInt32) (i : ι) : Sender A where
  key := keys i
  label := labels i

/-- The nonce of a sender after some calls. -/
def nonceAfter (label : UInt32) (i : ι) (calls : List (ι × Call)) : Bytes :=
  nonce label (UInt64.ofNat (sealings i calls))

lemma answer_of_encrypt (keys : ι → Key) (labels : ι → UInt32)
    (h : calls[p]? = some (i, .encrypt message)) :
    (answers (fresh A keys labels) calls)[p]?
      = some (wrap A (keys i) (nonceAfter (labels i) i (calls.take p)) message) := by
  rw [getElem?_answers, h, Option.map_some, after_apply, nonceAfter]
  simp only [perform, encrypt, fresh, UInt64.zero_add]

lemma answer_of_decrypt (keys : ι → Key) (labels : ι → UInt32)
    (h : calls[p]? = some (i, .decrypt data)) :
    (answers (fresh A keys labels) calls)[p]? = some (unwrap A (keys i) data) := by
  rw [getElem?_answers, h, Option.map_some, after_apply]
  rfl

/-! ## Nonces -/

/-- Two nonces of one sender are the same exactly if its count has come round between them. -/
lemma nonce_ofNat_eq_iff :
    nonce label (UInt64.ofNat m) = nonce label (UInt64.ofNat n) ↔ m % 2 ^ 64 = n % 2 ^ 64 := by
  rw [← UInt64.toNat_ofNat', ← UInt64.toNat_ofNat', UInt64.toNat_inj]
  exact ⟨nonce_injective, congrArg (nonce label)⟩

/-- Whenever a sender is asked to seal something, its count moves on. -/
lemma sealings_take_lt (hpq : p < q) (h : calls[p]? = some (i, .encrypt message)) :
    sealings i (calls.take p) < sealings i (calls.take q) := by
  have hnext : calls.take (p + 1) = calls.take p ++ [(i, .encrypt message)] := by
    rw [List.take_add_one, h, Option.toList_some]
  have hcount : sealings i (calls.take (p + 1)) = sealings i (calls.take p) + 1 := by
    rw [hnext, sealings, List.countP_append]
    simp [sealings, seals]
  have hle : sealings i (calls.take (p + 1)) ≤ sealings i (calls.take q) :=
    (List.take_sublist_take_left hpq).countP_le
  omega

/-- As long as the count has not come round, the next nonce is a new one. -/
lemma nonceAfter_ne (hpq : p < q) (h : calls[p]? = some (i, .encrypt message))
    (hq : sealings i (calls.take q) < 2 ^ 64) :
    nonceAfter label i (calls.take p) ≠ nonceAfter label i (calls.take q) := by
  have hlt := sealings_take_lt hpq h
  rw [nonceAfter, nonceAfter, Ne, nonce_ofNat_eq_iff, Nat.mod_eq_of_lt (hlt.trans hq),
    Nat.mod_eq_of_lt hq]
  exact hlt.ne

/-! ## Sealing and opening -/

/-- **Messages are sealed apart and opened by everybody who has the key.**  Some senders that have
sealed nothing yet, with any cipher, keys and labels, are asked to seal and to open things, in any
order.

* What a sender answers when it is to seal a message is a nonce of twelve bytes and behind it the
  message, locked with that nonce.  If the cipher refuses the message, so does the sender.
* If it has been asked to seal something before, and fewer than `2 ^ 64` times, the nonce is not the
  one that it used then.
* What a sender has sealed is opened by all that have the same key, at any time.
* What is shorter than a nonce is opened by none. -/
theorem sealed_apart_and_opened (A : Aead Key) (keys : ι → Key) (labels : ι → UInt32)
    (calls : List (ι × Call)) :
    let out := answers (fresh A keys labels) calls
    let used (i : ι) (p : ℕ) : Bytes := nonceAfter (labels i) i (calls.take p)
    (∀ (p : ℕ) (i : ι) (message : Bytes), calls[p]? = some (i, .encrypt message) →
      (used i p).length = 12 ∧
        (∀ data, A.lock (keys i) (used i p) message = some data →
          out[p]? = some (.ok (used i p ++ data))) ∧
        (A.lock (keys i) (used i p) message = none →
          out[p]? = some (.error (.encryption "aead::Error")))) ∧
    (∀ (p q : ℕ) (i : ι) (message message' : Bytes), p < q →
      calls[p]? = some (i, .encrypt message) → calls[q]? = some (i, .encrypt message') →
        sealings i (calls.take q) < 2 ^ 64 → used i p ≠ used i q) ∧
    (∀ (p q : ℕ) (i j : ι) (message data : Bytes), calls[p]? = some (i, .encrypt message) →
      out[p]? = some (.ok data) → calls[q]? = some (j, .decrypt data) → keys j = keys i →
        out[q]? = some (.ok message)) ∧
    ∀ (q : ℕ) (j : ι) (data : Bytes), calls[q]? = some (j, .decrypt data) → data.length < 12 →
      out[q]? = some (.error (.encryption "ciphertext shorter than nonce")) := by
  intro out used
  refine ⟨fun p i message h => ⟨length_nonce _ _, fun data hlock => ?_, fun hlock => ?_⟩,
    fun p q i _ _ hpq h _ hq => nonceAfter_ne hpq h hq, ?_, ?_⟩
  · exact (answer_of_encrypt keys labels h).trans (by rw [wrap, hlock]; rfl)
  · exact (answer_of_encrypt keys labels h).trans (by rw [wrap, hlock]; rfl)
  · intro p q i j message data hp hout hq hkeys
    -- opening looks at the key and at what it is given, and at nothing else
    have hdata : wrap A (keys j) (used i p) message = .ok data := by
      rw [hkeys]
      exact Option.some.inj ((answer_of_encrypt keys labels hp).symm.trans hout)
    have hopened := answer_of_decrypt (A := A) keys labels hq
    rwa [unwrap_of_wrap (length_nonce _ _) hdata] at hopened
  · intro q j data hq hshort
    have hrefused := answer_of_decrypt (A := A) keys labels hq
    rwa [unwrap, if_pos (show data.length < nonceLength from hshort)] at hrefused

/-- Two senders have the same key.  The first one seals the same message twice, and what it makes of
it the second time is opened by the second one, before it is made, and by the first one. -/
theorem sealed_apart_and_opened_by_both :
    let key : Bytes := List.replicate 32 7
    let labels (first : Bool) : UInt32 := if first then 5 else 6
    let data : Bytes := nonce 5 1 ++ lock (roundKeys key) (nonce 5 1) [1, 2]
    let calls : List (Bool × Call) :=
      [(true, .encrypt [1, 2]), (false, .decrypt data), (false, .encrypt []), (true, .decrypt [9]),
        (true, .encrypt [1, 2]), (true, .decrypt data)]
    let out := answers (fresh aesGcm (fun _ => roundKeys key) labels) calls
    nonce 5 0 ≠ nonce 5 1 ∧ out[4]? = some (.ok data) ∧ out[1]? = some (.ok [1, 2]) ∧
      out[5]? = some (.ok [1, 2]) ∧
      out[3]? = some (.error (.encryption "ciphertext shorter than nonce")) := by
  intro key labels data calls out
  obtain ⟨hsealed, hapart, hopened, hshort⟩ :=
    sealed_apart_and_opened aesGcm (fun _ => roundKeys key) labels calls
  have hdata : out[4]? = some (.ok data) := (hsealed 4 true [1, 2] rfl).2.1 _ rfl
  exact ⟨hapart 0 4 true [1, 2] [1, 2] (by decide) rfl rfl (by decide), hdata,
    hopened 4 1 true false [1, 2] data rfl hdata rfl rfl,
    hopened 4 5 true true [1, 2] data rfl hdata rfl rfl, hshort 3 true [9] rfl (by decide)⟩

end Calls

end Sender

end SessionServer.Cipher
