/-
# Reading compressed data

A zlib stream is a two-byte header, blocks of deflated data, and a checksum.  The reader is a
step function: a step reads the stream's header, a block's header, bytes of a stored block, or
one symbol of a coded block, and either goes on to a new state or ends.  Nothing in a step
depends on how much output is wanted; who runs the steps may stop between any two of them.

The input may come in pieces.  A step that finds too little of it changes nothing, so that the
reader goes on from the same state when there is more.

A copy may reach back before the first byte of output.  It then finds zeros there, as in a window
that starts out empty.
-/
import SessionServer.Zlib.Checksum
import SessionServer.Zlib.Huffman
import SessionServer.Zlib.Tables

namespace SessionServer.Zlib

/-- What comes next in a stream. -/
inductive Stage where
  | front
  | header
  /-- So many bytes of a stored block. -/
  | stored (left : Nat)
  /-- A block in the given codes for literals with lengths and for distances. -/
  | coded (literals distances : Huffman)
  /-- The checksum, since the last block has ended. -/
  | trailer

/-- The state of the reader. -/
structure InflateState where
  /-- What is there of the rest of the input. -/
  cursor : BitCursor := .ofBytes []
  out : Array UInt8 := #[]
  /-- Whether the current block is the last one. -/
  final : Bool := false
  stage : Stage := .front

/-- How one step of the reader ended. -/
inductive StepResult where
  /-- It reached a new state. -/
  | more (s : InflateState)
  /-- It read the checksum and found it right. -/
  | finished
  /-- It could not go on. -/
  | failed (failure : Failure)

namespace Inflate

/-- The next `n` bits as a number. -/
def bits (n : Nat) (c : BitCursor) : Except Failure (Nat × BitCursor) :=
  match c.take n with
  | some r => .ok r
  | none => .error .exhausted

/-- A code that a block brings is usable if it leaves no bit string without a meaning, or if it
is trivial. -/
def usable (h : Huffman) : Bool := h.isComplete || h.isTrivial

/-- Reads `n` three-bit lengths. -/
def readShortLengths : (n : Nat) → BitCursor → Except Failure (List Nat × BitCursor)
  | 0, c => .ok ([], c)
  | n + 1, c => do
    let (length, c) ← bits 3 c
    let (rest, c) ← readShortLengths n c
    .ok (length :: rest, c)

/-- Reads code lengths until there are `total` of them.  A run of lengths may not go past that. -/
def readLengths (h : Huffman) (total : Nat) :
    (fuel : Nat) → Array Nat → BitCursor → Except Failure (Array Nat × BitCursor)
  | 0, lengths, c => if lengths.size = total then .ok (lengths, c) else .error .corrupt
  | fuel + 1, lengths, c =>
    if total ≤ lengths.size then
      if lengths.size = total then .ok (lengths, c) else .error .corrupt
    else do
      let (symbol, c) ← h.decode c
      match symbol with
      | 16 =>
        match lengths.back? with
        | none => .error .corrupt
        | some last =>
          let (extra, c) ← bits 2 c
          readLengths h total fuel (lengths ++ Array.replicate (3 + extra) last) c
      | 17 =>
        let (extra, c) ← bits 3 c
        readLengths h total fuel (lengths ++ Array.replicate (3 + extra) 0) c
      | 18 =>
        let (extra, c) ← bits 7 c
        readLengths h total fuel (lengths ++ Array.replicate (11 + extra) 0) c
      | length => readLengths h total fuel (lengths.push length) c

/-- Reads the two codes of a block that brings its own. -/
def readCodes (c : BitCursor) : Except Failure (Huffman × Huffman × BitCursor) := do
  let (literals, c) ← bits 5 c
  let (distances, c) ← bits 5 c
  let (short, c) ← bits 4 c
  let literals := literals + 257
  let distances := distances + 1
  if maxLiteralSymbols < literals || maxDistanceSymbols < distances then .error .corrupt
  else do
    let (written, c) ← readShortLengths (short + 4) c
    let placed := codeLengthOrder.zip written
    let lengthCode := Huffman.ofLengths ((List.range 19).map fun i => (placed.lookup i).getD 0)
    if !lengthCode.isComplete then .error .corrupt
    else do
      let total := literals + distances
      let (lengths, c) ← readLengths lengthCode total total #[] c
      let literalCode := Huffman.ofLengths (lengths.toList.take literals)
      let distanceCode := Huffman.ofLengths (lengths.toList.drop literals)
      if usable literalCode && usable distanceCode then .ok (literalCode, distanceCode, c)
      else .error .corrupt

/-- The codes of a block with the fixed codes. -/
def fixedCodes : Huffman × Huffman :=
  (.ofLengths fixedLiteralLengths, .ofLengths fixedDistanceLengths)

/-- What comes after a block. -/
def afterBlock (s : InflateState) : Stage := if s.final then .trailer else .header

/-- Takes what is there of the bytes of a stored block. -/
def copyStored (s : InflateState) (left : Nat) : InflateState :=
  let taken := s.cursor.bytes.take left
  let missing := left - taken.length
  { s with
    cursor := .ofBytes (s.cursor.bytes.drop left)
    out := s.out ++ taken
    stage := if missing = 0 then afterBlock s else .stored missing }

/-- Goes on with a stored block, if there is anything of it. -/
def stored (s : InflateState) (left : Nat) : Except Failure InflateState :=
  if s.cursor.bytes.isEmpty then .error .exhausted else .ok (copyStored s left)

/-- Reads the two bytes in front of the blocks: the method must be deflate with a window of at
most `2 ^ 15` bytes, the check bits must be right, and no preset dictionary may be asked for. -/
def streamHeader (s : InflateState) : Except Failure InflateState :=
  match s.cursor.bytes with
  | method :: flags :: rest =>
    if (method.toNat * 256 + flags.toNat) % 31 = 0 && (flags &&& 0x20) = 0
        && (method &&& 0x0F) = 8 && method.toNat / 16 ≤ 7 then
      .ok { s with cursor := .ofBytes rest, stage := .header }
    else .error .corrupt
  | _ => .error .exhausted

/-- Reads the header of a block. -/
def blockHeader (s : InflateState) : Except Failure InflateState := do
  let (final, c) ← bits 1 s.cursor
  let (kind, c) ← bits 2 c
  let s := { s with final := final = 1 }
  match kind with
  | 0 =>
    match c.align.bytes with
    | low :: high :: lowCheck :: highCheck :: rest =>
      if (low ^^^ lowCheck) = 255 && (high ^^^ highCheck) = 255 then
        .ok (copyStored { s with cursor := .ofBytes rest } (low.toNat + 256 * high.toNat))
      else .error .corrupt
    | _ => .error .exhausted
  | 1 => .ok { s with cursor := c, stage := .coded fixedCodes.1 fixedCodes.2 }
  | 2 => do
    let (literals, distances, c) ← readCodes c
    .ok { s with cursor := c, stage := .coded literals distances }
  | _ => .error .corrupt

/-- The byte that was written `distance` bytes ago. -/
def lookBack (out : Array UInt8) (distance : Nat) : UInt8 :=
  if distance ≤ out.size then out.getD (out.size - distance) 0 else 0

/-- Appends `length` bytes, each a copy of the one `distance` bytes before it. -/
def copyBack (distance : Nat) : (length : Nat) → Array UInt8 → Array UInt8
  | 0, out => out
  | length + 1, out => copyBack distance length (out.push (lookBack out distance))

/-- The value of a symbol that stands for a range of values, with its extra bits. -/
def readRange (table : Array (Nat × Nat)) (symbol : Nat) (c : BitCursor) :
    Except Failure (Nat × BitCursor) :=
  match table[symbol]? with
  | none => .error .corrupt
  | some (base, extra) => do
    let (more, c) ← bits extra c
    .ok (base + more, c)

/-- Reads one symbol of a coded block, and the distance if it is a length. -/
def codedSymbol (literals distances : Huffman) (s : InflateState) :
    Except Failure InflateState := do
  let (symbol, c) ← literals.decode s.cursor
  if symbol < endOfBlock then
    .ok { s with cursor := c, out := s.out.push (UInt8.ofNat symbol) }
  else if symbol = endOfBlock then
    .ok { s with cursor := c, stage := afterBlock s }
  else do
    let (length, c) ← readRange lengthSymbols (symbol - endOfBlock - 1) c
    let (symbol, c) ← distances.decode c
    let (distance, c) ← readRange distanceSymbols symbol c
    .ok { s with cursor := c, out := copyBack distance length s.out }

/-- Reads the checksum and compares it with the output. -/
def trailer (s : InflateState) : StepResult :=
  let field := s.cursor.align.bytes.take 4
  if field.length < 4 then .failed .exhausted
  else if Bytes.ofBigEndian field = checksum s.out then .finished
  else .failed .corrupt

/-- The outcome of a step that goes on if it succeeds. -/
def goOn : Except Failure InflateState → StepResult
  | .ok s => .more s
  | .error failure => .failed failure

/-- One step of the reader. -/
def step (s : InflateState) : StepResult :=
  match s.stage with
  | .front => goOn (streamHeader s)
  | .header => goOn (blockHeader s)
  | .stored left => goOn (stored s left)
  | .coded literals distances => goOn (codedSymbol literals distances s)
  | .trailer => trailer s

end Inflate

/-- How the reading of a stream ended. -/
inductive Ending where
  /-- At its checksum, which was right. -/
  | complete
  /-- At something that could not be read, or not yet. -/
  | failed (failure : Failure)
  /-- Because there was more output than was wanted. -/
  | cut
deriving DecidableEq, Repr

namespace InflateState

/-- Takes in the next piece of the input. -/
def feed (s : InflateState) (piece : Bytes) : InflateState :=
  { s with cursor := { s.cursor with bytes := s.cursor.bytes ++ piece } }

/-- Runs at most `fuel` steps, until one of them ends or there are more than `budget` bytes of
output. -/
def runFor (budget : Nat) : (fuel : Nat) → InflateState → InflateState × Ending
  | 0, s => (s, .failed .exhausted)
  | fuel + 1, s =>
    if budget < s.out.size then (s, .cut)
    else
      match Inflate.step s with
      | .more next => runFor budget fuel next
      | .finished => (s, .complete)
      | .failed failure => (s, .failed failure)

/-- Runs until there is no more to read, or there are more than `budget` bytes of output.  Every
step but the last reads at least one bit, so there are enough steps. -/
def run (s : InflateState) (budget : Nat) : InflateState × Ending :=
  runFor budget (8 * s.cursor.bytes.length + 1) s

end InflateState

end SessionServer.Zlib
