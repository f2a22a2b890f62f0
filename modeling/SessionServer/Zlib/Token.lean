/-
# Tokens

Compressed data says of each byte either what it is or that it is a copy of an earlier one.  Bytes
that are copied from the same distance one after the other make one token.
-/
import SessionServer.Zlib.Tables

namespace SessionServer.Zlib

/-- `length` bytes, each equal to the one `distance` bytes before it. -/
structure Copy where
  /-- How many bytes there are. -/
  length : Nat
  /-- How far back they are found. -/
  distance : Nat
deriving DecidableEq, Repr

/-- A part of the input. -/
inductive Token where
  | literal (b : UInt8)
  | copy (c : Copy)
deriving DecidableEq, Repr

/-- The last symbol of a table whose base value does not exceed `value`, and what is left of the
value above that base. -/
def symbolFor (table : Array (Nat × Nat)) (value : Nat) : Nat × Nat :=
  let below := table.foldl (fun n entry => if entry.1 ≤ value then n + 1 else n) 0
  let symbol := below - 1
  (symbol, value - (table.getD symbol (0, 0)).1)

namespace Token

/-- How many bytes of the input a token stands for. -/
def span : Token → Nat
  | literal _ => 1
  | copy c => c.length

/-- The literal or length symbol of a token. -/
def literalSymbol : Token → Nat
  | literal b => b.toNat
  | copy c => endOfBlock + 1 + (symbolFor lengthSymbols c.length).1

/-- The distance symbol of a token, if it has one. -/
def distanceSymbol? : Token → Option Nat
  | literal _ => none
  | copy c => some (symbolFor distanceSymbols c.distance).1

end Token

end SessionServer.Zlib
