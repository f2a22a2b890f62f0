/-
# Canonical prefix codes

A prefix code is given by the length of each symbol's code word.  Code words of one length are
consecutive numbers in the order of their symbols, and shorter ones come first, so the lengths
alone fix the code.
-/
import SessionServer.Zlib.Bits

namespace SessionServer.Zlib

/-- Why compressed data could not be read. -/
inductive Failure where
  /-- It ends too early. -/
  | exhausted
  /-- It is not in the format. -/
  | corrupt
deriving DecidableEq, Repr

/-- The longest code word. -/
def maxCodeLength : Nat := 15

/-- A prefix code, laid out for reading. -/
structure Huffman where
  /-- How many code words there are of length one, two and so on. -/
  counts : List Nat
  /-- The symbols in the order of their code words. -/
  symbols : Array Nat
deriving DecidableEq, Repr

namespace Huffman

/-- The code in which symbol number `i` has a code word of length `lengths[i]`, or none if that
is zero. -/
def ofLengths (lengths : List Nat) : Huffman :=
  let numbered := lengths.zipIdx
  let ofLength (n : Nat) := (numbered.filter (·.1 = n)).map (·.2)
  let lists := (List.range' 1 maxCodeLength).map ofLength
  ⟨lists.map List.length, lists.flatten.toArray⟩

/-- The number of code words. -/
def size (h : Huffman) : Nat := h.symbols.size

/-- How many code words of the greatest length start with one of the code words. -/
def weight (h : Huffman) : Nat :=
  h.counts.foldl (fun taken n => 2 * taken + n) 0

/-- Whether every bit string starts with exactly one code word. -/
def isComplete (h : Huffman) : Bool := h.weight = 1 <<< maxCodeLength

/-- Whether there is no code word at all or only one, of a single bit. -/
def isTrivial (h : Huffman) : Bool := h.size ≤ 1 && h.size = h.counts.headD 0

/-- Goes on reading a code word.  `code` is what has been read of it, `first` the first code word
of that length, and `index` the place of its symbol.  At least one bit is read even in a code
without code words. -/
def decodeFrom (symbols : Array Nat) :
    (counts : List Nat) → (code first index : Nat) → BitCursor → Except Failure (Nat × BitCursor)
  | [], _, _, _, _ => .error .corrupt
  | n :: longer, code, first, index, c =>
    match c.next with
    | none => .error .exhausted
    | some (bit, c) =>
      let code := 2 * code + bit.toNat
      let first := 2 * first
      if code < first + n then
        match symbols[index + (code - first)]? with
        | some symbol => .ok (symbol, c)
        | none => .error .corrupt
      -- without longer code words no further bit can help
      else if longer.all (· = 0) then .error .corrupt
      else decodeFrom symbols longer code (first + n) (index + n) c

/-- Reads one symbol. -/
def decode (h : Huffman) (c : BitCursor) : Except Failure (Nat × BitCursor) :=
  decodeFrom h.symbols h.counts 0 0 0 c

/-- The first code word of each length, from length one on. -/
def firstCodes : (counts : List Nat) → (first : Nat) → List Nat
  | [], _ => []
  | n :: longer, first => 2 * first :: firstCodes longer (2 * first + n)

/-- The code word of each symbol with its length; the length is zero for a symbol without one. -/
def codeWords (lengths : List Nat) : Array (Nat × Nat) :=
  let start := 0 :: firstCodes (ofLengths lengths).counts 0
  let step := fun (state : Array (Nat × Nat) × Array Nat) (length : Nat) =>
    let word := state.2.getD length 0
    (state.1.push (length, word),
      if length = 0 then state.2 else state.2.setIfInBounds length (word + 1))
  (lengths.foldl step (#[], start.toArray)).1

end Huffman

end SessionServer.Zlib
