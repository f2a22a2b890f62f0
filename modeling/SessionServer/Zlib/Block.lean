/-
# Writing blocks

A block of tokens is written in the fixed codes if it is short, and in codes made for it
otherwise.  If that turns out longer than the bytes themselves, they are stored instead.
-/
import SessionServer.Zlib.Bits
import SessionServer.Zlib.CodeLengths
import SessionServer.Zlib.Huffman
import SessionServer.Zlib.Token

namespace SessionServer.Zlib

namespace Block

/-! ### Tokens -/

/-- Counts the symbols of a list of tokens and the end of the block. -/
def frequencies (tokens : Array Token) : Array Nat × Array Nat :=
  let start := ((Array.replicate maxLiteralSymbols 0).setIfInBounds endOfBlock 1,
    Array.replicate maxDistanceSymbols 0)
  tokens.foldl
    (fun (literals, distances) token =>
      (literals.modify token.literalSymbol (· + 1),
        match token.distanceSymbol? with
        | none => distances
        | some symbol => distances.modify symbol (· + 1)))
    start

/-- Writes the code word of a symbol. -/
def putSymbol (words : Array (Nat × Nat)) (s : BitSink) (symbol : Nat) : BitSink :=
  let (length, word) := words.getD symbol (0, 0)
  s.putReversed length word

/-- Writes a value as a symbol with extra bits. -/
def putRange (table words : Array (Nat × Nat)) (first : Nat) (s : BitSink) (value : Nat) :
    BitSink :=
  let (symbol, above) := symbolFor table value
  (putSymbol words s (first + symbol)).put (table.getD symbol (0, 0)).2 above

/-- Writes one token. -/
def putToken (literals distances : Array (Nat × Nat)) (s : BitSink) : Token → BitSink
  | .literal b => putSymbol literals s b.toNat
  | .copy c =>
    putRange distanceSymbols distances 0
      (putRange lengthSymbols literals (endOfBlock + 1) s c.length) c.distance

/-- Writes the tokens of a block and its end. -/
def putTokens (literalLengths distanceLengths : List Nat) (tokens : Array Token) (s : BitSink) :
    BitSink :=
  let literals := Huffman.codeWords literalLengths
  let distances := Huffman.codeWords distanceLengths
  putSymbol literals (tokens.foldl (putToken literals distances) s) endOfBlock

/-! ### The fixed codes -/

/-- Writes tokens in the fixed codes. -/
def putFixed (tokens : Array Token) (s : BitSink) : BitSink :=
  putTokens fixedLiteralLengths fixedDistanceLengths tokens (s.put 2 1)

/-! ### Codes made for the block -/

/-- A part of a list of code lengths: a symbol of the code for code lengths with its extra bits,
as their number and their value. -/
abbrev LengthSymbol := Nat × Nat × Nat

/-- A run of `n` zeros as symbols. -/
def zeroSymbols (n : Nat) : List LengthSymbol :=
  let rest := n % 138
  List.replicate (n / 138) (18, 7, 127) ++
    (if rest < 3 then List.replicate rest (0, 0, 0)
    else if rest ≤ 10 then [(17, 3, rest - 3)]
    else [(18, 7, rest - 11)])

/-- `n` more of a code length as symbols. -/
def repeatSymbols (length n : Nat) : List LengthSymbol :=
  let rest := n % 6
  List.replicate (n / 6) (16, 2, 3) ++
    (if rest < 3 then List.replicate rest (length, 0, 0) else [(16, 2, rest - 3)])

/-- A list of code lengths as symbols, run by run. -/
def lengthSymbolList (lengths : List Nat) : List LengthSymbol :=
  (lengths.splitBy (· == ·)).flatMap fun run =>
    match run.headD 0 with
    | 0 => zeroSymbols run.length
    | length => (length, 0, 0) :: repeatSymbols length (run.length - 1)

/-- The list without the zeros at its end, but with at least `least` entries. -/
def trimZeros (least : Nat) (lengths : List Nat) : List Nat :=
  lengths.take (max least (lengths.reverse.dropWhile (· = 0)).length)

/-- Writes tokens in codes made for them. -/
def putCoded (tokens : Array Token) (s : BitSink) : BitSink :=
  let (literalCounts, distanceCounts) := frequencies tokens
  let literals := trimZeros 257 (codeLengths maxCodeLength literalCounts.toList)
  let distances := trimZeros 1 (codeLengths maxCodeLength distanceCounts.toList)
  let symbols := lengthSymbolList (literals ++ distances)
  let counts := symbols.foldl (fun counts sym => counts.modify sym.1 (· + 1))
    (Array.replicate 19 0)
  let shortLengths := codeLengths 7 counts.toList
  let written := trimZeros 4 (codeLengthOrder.map fun i => shortLengths.getD i 0)
  let words := Huffman.codeWords shortLengths
  let s := (s.put 2 2).put 5 (literals.length - 257)
  let s := (s.put 5 (distances.length - 1)).put 4 (written.length - 4)
  let s := written.foldl (fun s n => s.put 3 n) s
  let s := symbols.foldl (fun s (symbol, n, extra) => (putSymbol words s symbol).put n extra) s
  putTokens literals distances tokens s

/-! ### Bytes as they are -/

/-- Writes bytes as they are. -/
def putStored (bytes : Bytes) (s : BitSink) : BitSink :=
  let n := bytes.length
  ((s.put 2 0).align.putBytes [UInt8.ofNat n, UInt8.ofNat (n / 256), UInt8.ofNat (255 - n % 256),
    UInt8.ofNat (255 - n / 256)]).putBytes bytes

end Block

end SessionServer.Zlib
