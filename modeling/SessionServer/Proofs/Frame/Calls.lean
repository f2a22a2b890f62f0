/-
# An assembler in use

Whoever reads a stream pushes what has arrived and asks for frames, in any order and as often as
they like.  Between two calls the assembler stands before the bytes that follow the frames it has
given out, whatever it has taken in of them already.  A call that asks for a frame therefore does
one of three things, and which one is for these bytes to say (`looks_next`).

A frame that is refused is never taken away, so that the bytes before which the assembler stands go
on beginning with it.  What it has taken in of such a frame is kept, too, so that no byte that comes
later can be read as the beginning of another frame.

Main results: all the bytes that are pushed are the frames that are given out and the bytes before
which the assembler stands (`before_perform`), and an assembler that has refused a frame refuses it
for ever (`error_is_final`).
-/
import SessionServer.Proofs.Frame.RoundTrip

namespace SessionServer

open Assembler (Piece)

/-! ## The frame at the front -/

section Front

variable {limit : ℕ} {h : Header} {data rest : Bytes} {p : Piece}

lemma takeBody_eq_some {length : ℕ} (hb : takeBody h length data = some (p, rest)) :
    p.1 = h ∧ p.2.length = length ∧ data = p.2 ++ rest := by
  unfold takeBody at hb
  split_ifs at hb with hlt
  obtain ⟨rfl, rfl⟩ := Prod.mk.inj (Option.some.inj hb)
  exact ⟨rfl, List.length_take_of_le (Nat.le_of_not_lt hlt), (List.take_append_drop _ _).symm⟩

/-- The length that a frame announces is the one that its field spells. -/
lemma takeSized_eq_some (hc : h.counting = true)
    (hs : takeSized limit h data = .ok (some (p, rest))) :
    p.Fits limit ∧ h.toByte :: data = p.wire ++ rest := by
  unfold takeSized at hs
  dsimp only at hs
  split_ifs at hs with hshort hlarge
  · exact absurd (Except.ok.inj hs) nofun
  obtain ⟨rfl, hlen, hbody⟩ := takeBody_eq_some (Except.ok.inj hs)
  obtain ⟨h, body⟩ := p
  have hwidth := List.length_take_of_le (Nat.le_of_not_lt hshort)
  have hfield := Bytes.bigEndian_ofBigEndian (data.take h.lengthWidth)
  have hfits := Bytes.ofBigEndian_lt_capacity (data.take h.lengthWidth)
  dsimp only at hlen
  rw [hwidth, ← hlen] at hfield hfits
  refine ⟨⟨hc, hfits, hlen ▸ Nat.le_of_not_lt hlarge⟩, ?_⟩
  calc h.toByte :: data
      = h.toByte :: (data.take h.lengthWidth ++ data.drop h.lengthWidth) := by
        rw [List.take_append_drop]
    _ = h.toByte :: (Bytes.bigEndian h.lengthWidth body.length ++ (body ++ rest)) := by
        rw [hfield, hbody]
    _ = Piece.wire (h, body) ++ rest := by simp [Assembler.Piece.wire, Codec.assemble]

/-- What is found at the front of a byte string are the bytes of a frame within the limit. -/
lemma takeFrame_eq_ok_some_iff :
    takeFrame limit data = .ok (some (p, rest)) ↔ p.Fits limit ∧ data = p.wire ++ rest := by
  constructor
  · intro hf
    cases data with
    | nil => simp [takeFrame] at hf
    | cons b data =>
      simp only [takeFrame] at hf
      cases hb : Header.ofByte b with
      | error e => simp [hb] at hf
      | ok h =>
        simp only [hb] at hf
        split_ifs at hf with hc
        rw [Header.eq_toByte_of_ofByte hb]
        exact takeSized_eq_some hc hf
  · rintro ⟨hp, rfl⟩
    exact takeFrame_wire hp rest

end Front

namespace Assembler

/-! ## Calls -/

/-- What can be done with an assembler. -/
inductive Call where
  /-- Some bytes are pushed. -/
  | push (data : Bytes)
  /-- A frame is asked for. -/
  | next
deriving DecidableEq, Repr

/-- What is said to somebody who asks for a frame. -/
abbrev Answer := Except FrameError (Option Piece)

/-- The bytes that a call brings. -/
def Call.brings : Call → Bytes
  | .push data => data
  | .next => []

/-- The bytes that some calls bring, one after the other. -/
def received (calls : List Call) : Bytes := calls.flatMap Call.brings

/-- The frames that some answers give out. -/
def frames (answers : List Answer) : List Piece :=
  answers.filterMap fun
    | .ok p => p
    | .error _ => none

/-- Makes some calls one after the other: what is answered to those that ask for a frame, and what
becomes of the assembler. -/
def perform (a : Assembler) : List Call → List Answer × Assembler
  | [] => ([], a)
  | .push data :: calls => (a.push data).perform calls
  | .next :: calls => (a.next.1 :: (a.next.2.perform calls).1, (a.next.2.perform calls).2)

variable {limit : ℕ} {data : Bytes} {a a' : Assembler} {p : Piece} {e : FrameError}
  {calls more : List Call}

lemma perform_append (a : Assembler) (calls more : List Call) :
    a.perform (calls ++ more)
      = ((a.perform calls).1 ++ ((a.perform calls).2.perform more).1,
          ((a.perform calls).2.perform more).2) := by
  induction calls generalizing a with
  | nil => rfl
  | cons c calls ih =>
    cases c with
    | push data => exact ih (a.push data)
    | next => simp only [List.cons_append, perform, ih]

/-! ## What a call does -/

/-- All that a call that asks for a frame can come to, for an assembler that stands before some
bytes. -/
inductive Looks (limit : ℕ) : Bytes → Answer × Assembler → Prop
  /-- The bytes are refused, and stay. -/
  | refused {data : Bytes} {e : FrameError} {a : Assembler}
      (ht : takeFrame limit data = .error e) (hb : a.Before limit data) :
      Looks limit data (.error e, a)
  /-- The bytes do not make a frame yet. -/
  | waiting {data : Bytes} {a : Assembler} (hb : a.Before limit data) :
      Looks limit data (.ok none, a)
  /-- The bytes begin with a frame, which is given out. -/
  | given {p : Piece} {rest : Bytes} {a : Assembler} (hp : p.Fits limit)
      (hb : a.Before limit rest) : Looks limit (p.wire ++ rest) (.ok (some p), a)

lemma looks_next (hb : a.Before limit data) : Looks limit data a.next := by
  have hf := follows_next hb
  rcases hn : a.next with ⟨answer, a'⟩
  rw [hn] at hf
  rcases ht : takeFrame limit data with e | _ | ⟨p, rest⟩
  · rw [ht] at hf
    obtain ⟨rfl, hb'⟩ := hf
    exact .refused ht hb'
  · rw [ht] at hf
    obtain ⟨rfl, hb'⟩ := hf
    exact .waiting hb'
  · rw [ht] at hf
    obtain ⟨rfl, hb'⟩ := hf
    obtain ⟨hp, rfl⟩ := takeFrame_eq_ok_some_iff.1 ht
    exact .given hp hb'

/-- An assembler that stands before some bytes is used.  These bytes and those that are pushed are
the frames that are given out and the bytes before which it stands then. -/
lemma before_perform (hb : a.Before limit data) (calls : List Call) :
    ∃ rest, (a.perform calls).2.Before limit rest ∧
      (∀ p ∈ frames (a.perform calls).1, p.Fits limit) ∧
      data ++ received calls = (frames (a.perform calls).1).flatMap Piece.wire ++ rest := by
  induction calls generalizing a data with
  | nil => exact ⟨data, hb, nofun, List.append_nil data⟩
  | cons c calls ih =>
    cases c with
    | push chunk =>
      obtain ⟨rest, hrest, hfits, hbytes⟩ := ih (before_push hb chunk)
      exact ⟨rest, hrest, hfits, (List.append_assoc ..).symm.trans hbytes⟩
    | next =>
      have hlooks := looks_next hb
      rcases hn : a.next with ⟨answer, a'⟩
      rw [hn] at hlooks
      simp only [perform, hn]
      cases hlooks with
      | refused ht hb' => exact ih hb'
      | waiting hb' => exact ih hb'
      | @given p rest _ hp hb' =>
        obtain ⟨left, hleft, hfits, hbytes⟩ := ih hb'
        refine ⟨left, hleft, List.forall_mem_cons.2 ⟨hp, hfits⟩, ?_⟩
        rw [List.append_assoc]
        exact (congrArg (p.wire ++ ·) hbytes).trans (List.append_assoc ..).symm

/-- A fresh assembler is used. -/
lemma before_perform_start (limit : ℕ) (calls : List Call) :
    ∃ rest, ((start limit).perform calls).2.Before limit rest ∧
      (∀ p ∈ frames ((start limit).perform calls).1, p.Fits limit) ∧
      received calls = (frames ((start limit).perform calls).1).flatMap Piece.wire ++ rest :=
  before_perform (before_start limit) calls

/-! ## After an error -/

/-- The bytes before which the assembler stands are refused. -/
def Refuses (limit : ℕ) (e : FrameError) (a : Assembler) : Prop :=
  ∃ data, a.Before limit data ∧ takeFrame limit data = .error e

/-- More bytes change nothing about that. -/
lemma Refuses.push (hr : a.Refuses limit e) (chunk : Bytes) : (a.push chunk).Refuses limit e := by
  obtain ⟨data, hb, ht⟩ := hr
  exact ⟨data ++ chunk, before_push hb chunk, takeFrame_append_of_error ht⟩

/-- Whoever asks for a frame is told so, and may ask again. -/
lemma Refuses.next (hr : a.Refuses limit e) : a.next.1 = .error e ∧ a.next.2.Refuses limit e := by
  obtain ⟨data, hb, ht⟩ := hr
  have hf := follows_next hb
  rw [ht] at hf
  exact ⟨hf.1, data, hf.2, ht⟩

/-- All that is ever answered from then on is the error. -/
lemma Refuses.answers_eq (hr : a.Refuses limit e) (calls : List Call) :
    (a.perform calls).1 = List.replicate (calls.count .next) (.error e) := by
  induction calls generalizing a with
  | nil => rfl
  | cons c calls ih =>
    cases c with
    | push chunk =>
      rw [List.count_cons_of_ne (by simp)]
      exact ih (hr.push chunk)
    | next =>
      obtain ⟨hout, hr'⟩ := hr.next
      rw [List.count_cons_self, List.replicate_succ, perform, hout, ih hr']

/-- An assembler that has answered with an error stands before bytes that are refused. -/
lemma refuses_of_next (hb : a.Before limit data) (hn : a.next = (.error e, a')) :
    a'.Refuses limit e := by
  have hlooks := looks_next hb
  rw [hn] at hlooks
  cases hlooks with
  | refused ht hb' => exact ⟨data, hb', ht⟩

/-- **Errors are final.**  Some calls are made to a fresh assembler, and the next one that asks for
a frame is answered with an error.  Then every later one is answered with the same error, whatever
is pushed in between, and no frame is given out any more. -/
theorem error_is_final (limit : ℕ) (calls more : List Call)
    (hn : ((start limit).perform calls).2.next = (.error e, a)) :
    (a.perform more).1 = List.replicate (more.count .next) (.error e) ∧
      frames (a.perform more).1 = [] := by
  obtain ⟨rest, hb, -, -⟩ := before_perform_start limit calls
  have hanswers := (refuses_of_next hb hn).answers_eq more
  refine ⟨hanswers, ?_⟩
  rw [hanswers, frames, List.filterMap_eq_nil_iff]
  intro answer hanswer
  rw [List.eq_of_mem_replicate hanswer]

/-- A frame comes, and after it the header and the length of a body that is not accepted.  Of that
length nothing is forgotten: the bytes of a whole frame that come next are not read as one. -/
theorem error_is_final_for_oversized :
    let calls : List Call := [.push [0x11, 0, 1, 7, 0x11], .next, .next, .push [0, 9]]
    let more : List Call := [.push [0x11, 0, 1, 7], .next, .push [], .next]
    let a : Assembler := { stage := .length { counting := true, dataType := .zero }
                           buffer := [0, 9], maxFrameSize := 8 }
    ((start 8).perform calls).2.next = (.error (.frameTooLarge 9 8), a) ∧
      (a.perform more).1
        = [.error (.frameTooLarge 9 8), .error (.frameTooLarge 9 8)] ∧
      frames (a.perform more).1 = [] := by
  intro calls more a
  have hn : ((start 8).perform calls).2.next = (.error (.frameTooLarge 9 8), a) := rfl
  exact ⟨hn, error_is_final 8 calls more hn⟩

end Assembler

end SessionServer
