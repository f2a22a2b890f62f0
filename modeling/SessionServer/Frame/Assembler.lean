/-
# Frames from a byte stream

Reads from a byte stream end anywhere: inside a header, a length field or a body.  The assembler
keeps the bytes that do not make a frame yet, together with what it has read of the frame they
belong to, and gives out a frame as soon as its last byte is there.

Main result: every frame that is given out brings the assembler closer to the end of what it holds
(`pending_lt_of_next`), so that draining ends.
-/
import SessionServer.Frame.Header

namespace SessionServer

/-- How far the frame at the front of the stream has been read. -/
inductive Assembler.Stage where
  /-- Nothing of it has been read. -/
  | header
  | length (h : Header)
  /-- Its header and the length of its body have been read. -/
  | body (h : Header) (length : Nat)
deriving DecidableEq, Repr

/-- Cuts a byte stream into frames. -/
structure Assembler where
  /-- How far the frame at the front has been read. -/
  stage : Assembler.Stage := .header
  /-- The bytes that have arrived and are not read yet. -/
  buffer : Bytes := []
  /-- The longest body that is accepted. -/
  maxFrameSize : Nat
deriving DecidableEq, Repr

namespace Assembler

/-- The assembler at the start of a stream. -/
def start (maxFrameSize : Nat) : Assembler := { maxFrameSize }

/-- Takes in bytes that were read from the stream. -/
def push (a : Assembler) (data : Bytes) : Assembler :=
  { a with buffer := a.buffer ++ data }

/-- The number of bytes that have arrived and are not read yet. -/
def buffered (a : Assembler) : Nat := a.buffer.length

/-- A header and the body that belongs to it. -/
abbrev Piece := Header × Bytes

/-- Reads a body of `length` bytes if it is all there. -/
def readBody (a : Assembler) (h : Header) (length : Nat) :
    Except FrameError (Option Piece) × Assembler :=
  if a.buffer.length < length then (.ok none, { a with stage := .body h length })
  else
    (.ok (some (h, a.buffer.take length)),
      { a with stage := .header, buffer := a.buffer.drop length })

/-- Reads a length field and the body it announces. -/
def readLength (a : Assembler) (h : Header) : Except FrameError (Option Piece) × Assembler :=
  if a.buffer.length < h.lengthWidth then (.ok none, { a with stage := .length h })
  else
    let length := Bytes.ofBigEndian (a.buffer.take h.lengthWidth)
    if a.maxFrameSize < length then
      -- the length field stays where it is, and the same error is met again
      (.error (.frameTooLarge length a.maxFrameSize), { a with stage := .length h })
    else { a with buffer := a.buffer.drop h.lengthWidth }.readBody h length

/-- Reads a header, its length field and its body.  A byte that cannot start a frame on a stream
is left where it is. -/
def readHeader (a : Assembler) : Except FrameError (Option Piece) × Assembler :=
  match a.buffer with
  | [] => (.ok none, a)
  | b :: rest =>
    match Header.ofByte b with
    | .error e => (.error e, a)
    | .ok h =>
      if h.counting then { a with buffer := rest }.readLength h
      else (.error .uncountedStreamFrame, a)

/-- The next whole frame, if its last byte has arrived. -/
def next (a : Assembler) : Except FrameError (Option Piece) × Assembler :=
  match a.stage with
  | .header => a.readHeader
  | .length h => a.readLength h
  | .body h length => a.readBody h length

/-- What is left to do: unread bytes count twice, so that a frame read to its end with an empty
body counts too. -/
def pending (a : Assembler) : Nat :=
  2 * a.buffer.length + (if a.stage = .header then 0 else 1)

private theorem pending_of_readBody {a a' : Assembler} {h : Header} {length : Nat} {p : Piece}
    (hr : a.readBody h length = (.ok (some p), a')) : a'.pending ≤ 2 * a.buffer.length := by
  unfold readBody at hr
  split at hr
  · simp at hr
  · obtain ⟨-, rfl⟩ := Prod.mk.inj hr
    simp only [pending, if_true, List.length_drop]
    omega

private theorem pending_of_readLength {a a' : Assembler} {h : Header} {p : Piece}
    (hr : a.readLength h = (.ok (some p), a')) : a'.pending ≤ 2 * a.buffer.length := by
  unfold readLength at hr
  split at hr
  · simp at hr
  · dsimp only at hr
    split at hr
    · simp at hr
    · have := pending_of_readBody hr
      simp only [List.length_drop] at this
      omega

/-- Giving out a frame brings the assembler closer to the end of what it holds. -/
theorem pending_lt_of_next {a a' : Assembler} {p : Piece} (hn : a.next = (.ok (some p), a')) :
    a'.pending < a.pending := by
  unfold next at hn
  split at hn
  · rename_i hs
    unfold readHeader at hn
    split at hn
    · simp at hn
    · rename_i b rest hb
      split at hn
      · simp at hn
      · split at hn
        · have := pending_of_readLength hn
          simp only [pending, hs, hb, List.length_cons] at this ⊢
          omega
        · simp at hn
  · rename_i h hs
    have := pending_of_readLength hn
    simp only [pending, hs] at this ⊢
    simpa using Nat.lt_succ_of_le this
  · rename_i h length hs
    have := pending_of_readBody hn
    simp only [pending, hs] at this ⊢
    simpa using Nat.lt_succ_of_le this

/-- All the frames that have arrived, and the error that ended the reading, if one did. -/
def drain (a : Assembler) : (List Piece × Option FrameError) × Assembler :=
  match hn : a.next with
  | (.ok none, a') => (([], none), a')
  | (.error e, a') => (([], some e), a')
  | (.ok (some p), a') =>
    have : a'.pending < a.pending := pending_lt_of_next hn
    let rest := a'.drain
    ((p :: rest.1.1, rest.1.2), rest.2)
termination_by a.pending

end Assembler

end SessionServer
