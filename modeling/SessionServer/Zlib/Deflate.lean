/-
# Compressing

The input is divided into tokens, and tokens are collected into blocks.  A block is closed when
there is no more room for tokens, or when it has become large and the tokens take up more room
than the bytes they stand for.
-/
import SessionServer.Zlib.Block
import SessionServer.Zlib.Division

namespace SessionServer.Zlib

/-- A block that is being collected. -/
structure Draft where
  /-- The place of its first byte. -/
  start : Nat := 0
  tokens : Array Token := #[]
  /-- How many bytes they stand for. -/
  size : Nat := 0
  /-- How much room they take up. -/
  cost : Nat := 0

namespace Draft

/-- Adds a token.  A copy takes up three times the room of a byte. -/
def add (d : Draft) (token : Token) : Draft :=
  { d with
    tokens := d.tokens.push token
    size := d.size + token.span
    cost := d.cost + match token with | .literal _ => 1 | .copy _ => 3 }

/-- The room that is taken up, with one more for each eight tokens that are begun. -/
def used (d : Draft) : Nat := d.cost + d.tokens.size / 8 + 1

/-- The room that there is for the tokens of a block. -/
def capacity : Nat := 65528

/-- Whether there is no room for more tokens. -/
def isFull (d : Draft) : Bool := capacity < d.used

/-- Up to this size a block is kept open whatever it takes. -/
def smallSize : Nat := 31744

/-- Whether a block is large and does not get smaller by being written as tokens. -/
def isVain (d : Draft) : Bool := smallSize < d.size && d.size ≤ d.used * 115 / 128

/-- Below this size a block is written in the fixed codes. -/
def codedSize : Nat := 48

/-- Up to this size a block is never stored. -/
def storedSize : Nat := 32

/-- Writes a block, which is the last one if `final`.  It may be stored only if the bytes from its
start on up to the place that has been reached are still in the window. -/
def write (data : Array UInt8) (d : Draft) (final : Bool) (place window : Nat) (s : BitSink) :
    BitSink :=
  let s := s.put 1 final.toNat
  let coded := if d.size < codedSize then Block.putFixed d.tokens s else Block.putCoded d.tokens s
  if storedSize < d.size && d.size ≤ coded.bytes.size - s.bytes.size + 1
      && place - d.start ≤ window then
    Block.putStored (data.extract d.start (d.start + d.size)).toList s
  else coded

/-- The empty block after this one. -/
def next (d : Draft) : Draft := { start := d.start + d.size }

end Draft

namespace Deflate

/-- What has been done of a stream: the block that is being collected, and what is written. -/
structure Progress where
  /-- The block that is being collected. -/
  draft : Draft := {}
  /-- What is written. -/
  sink : BitSink := {}
  /-- The place that has been reached. -/
  place : Nat := 0
  /-- How many bytes before that place are kept in mind. -/
  window : Nat := 0

/-- Takes in a move.  `closes` tells which blocks are to be closed. -/
def Progress.take (data : Array UInt8) (closes : Draft → Bool) (p : Progress) (m : Move) :
    Progress :=
  let draft := m.tokens.foldl Draft.add p.draft
  if closes draft then
    ⟨draft.next, draft.write data false m.place m.window p.sink, m.place, m.window⟩
  else ⟨draft, p.sink, m.place, m.window⟩

/-- The blocks of tokens that the moves through the input make. -/
def codedBlocks (data : Array UInt8) (closes : Draft → Bool) (moves : Array Move) : BitSink :=
  let p := moves.foldl (Progress.take data closes) {}
  p.draft.write data true p.place p.window p.sink

/-- How many bytes are stored together. -/
def storedRun : Nat := Draft.smallSize + 1

/-- The blocks that store the input as it is.  The last one is not a full one. -/
def storedBlocks : (fuel : Nat) → Bytes → BitSink → BitSink
  | 0, _, s => s
  | fuel + 1, data, s =>
    if data.length < storedRun then Block.putStored data (s.put 1 1)
    else storedBlocks fuel (data.drop storedRun) (Block.putStored (data.take storedRun) (s.put 1 0))

/-- The blocks of a byte string at a level: stored, compressed in the quick way, or compressed in
the thorough way. -/
def blocks (level : Nat) (data : Bytes) : BitSink :=
  match level with
  | 0 => storedBlocks (data.length / storedRun + 1) data {}
  | 1 => codedBlocks data.toArray Draft.isFull (Move.quick data.toArray)
  | _ =>
    codedBlocks data.toArray (fun d => d.isFull || d.isVain)
      (Move.thorough (.ofLevel level) data.toArray)

end Deflate

/-- A byte string as compressed blocks. -/
def deflate (level : Nat) (data : Bytes) : Bytes := (Deflate.blocks level data).align.bytes.toList

end SessionServer.Zlib
