/-
# Decimal numbers

Numbers as people write them: decimal digits, with a plus in front if one likes.
-/
namespace SessionServer

namespace Decimal

/-- The number that decimal digits spell; nothing if there are none or other characters. -/
def digits? (cs : List Char) : Option Nat :=
  if cs.isEmpty || !cs.all Char.isDigit then none
  else some (cs.foldl (fun n c => n * 10 + (c.toNat - 48)) 0)

/-- A decimal number without a sign or with a plus in front. -/
def number? : List Char → Option Nat
  | '+' :: cs => digits? cs
  | cs => digits? cs

/-- A decimal number that is below a bound. -/
def numberBelow? (bound : Nat) (cs : List Char) : Option Nat :=
  (number? cs).bind fun n => if n < bound then some n else none

end Decimal

end SessionServer
