/-!
# Gatehouse.Text.Decimal

Whole numbers in decimal digits.
-/

namespace Gatehouse.Decimal

def value (digits : List Char) : Nat :=
  digits.foldl (fun n c => n * 10 + (c.toNat - 48)) 0

/-- The number that a text writes, if it is one digit or more and nothing else. -/
def nat? (cs : List Char) : Option Nat :=
  if cs ≠ [] ∧ cs.all Char.isDigit then some (value cs) else none

/-- The number that a text writes in digits, a sign before them being allowed. -/
def int? : List Char → Option Int
  | '-' :: cs => (nat? cs).map fun n => -(n : Int)
  | '+' :: cs => (nat? cs).map Int.ofNat
  | cs => (nat? cs).map Int.ofNat

/-- Whether a number has sixty-three bits and a sign. -/
def isInt64 (i : Int) : Bool := -0x8000000000000000 ≤ i && i < 0x8000000000000000

def int64? (s : String) : Option Int :=
  (int? s.toList).filter isInt64

end Gatehouse.Decimal
