import Gatehouse.Text.Decimal

/-!
# Gatehouse.Json.Basic

JSON values. A number keeps its digits, since its readers differ in what they take from it. A string
whose letters are no text (stray bytes, halves of surrogate pairs) is `garbled`, and so is an object
with such a name: it may be passed over, but not read.
-/

namespace Gatehouse

structure Numeral where
  negative : Bool := false
  whole : List Char
  decimals : List Char := []
  /-- The sign (`true` for minus) and the digits of the exponent. -/
  exponent : Option (Bool × List Char) := none
  deriving DecidableEq

inductive Json where
  | null
  | bool (b : Bool)
  | number (n : Numeral)
  | text (s : String)
  | garbled
  | array (items : List Json)
  | object (members : List (String × Json))

namespace Numeral

/-- Whole numbers have neither decimals nor an exponent; minus zero is not one of them. -/
def isWhole (n : Numeral) : Bool :=
  n.decimals.isEmpty && n.exponent.isNone && !(n.negative && Decimal.value n.whole == 0)

def int? (n : Numeral) : Option Int :=
  if n.isWhole then
    some (if n.negative then -(Decimal.value n.whole : Int) else Decimal.value n.whole)
  else none

/-- The value of a whole number of sixty-three bits and a sign. -/
def int64? (n : Numeral) : Option Int :=
  n.int?.filter Decimal.isInt64

def ofInt (i : Int) : Numeral :=
  { negative := decide (i < 0), whole := Nat.toDigits 10 i.natAbs }

end Numeral

namespace Json

def text? : Json → Option String
  | .text s => some s
  | _ => none

def int64? : Json → Option Int
  | .number n => n.int64?
  | _ => none

def ofInt (i : Int) : Json := .number (.ofInt i)

end Json
end Gatehouse
