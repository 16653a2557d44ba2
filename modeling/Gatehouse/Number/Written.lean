import Gatehouse.Number.Binary64
import Gatehouse.Text.Decimal

/-!
# Gatehouse.Number.Written

Reading a binary64 number from a text: digits with at most one point among or beside them, then an
exponent if there is one, or a name for what is no finite number. A sign may stand before all that.
-/

namespace Gatehouse.Binary64

def spanDigits (cs : List Char) : List Char × List Char :=
  (cs.takeWhile Char.isDigit, cs.dropWhile Char.isDigit)

def exponent? : List Char → Option Int
  | [] => some 0
  | e :: cs => if e = 'e' ∨ e = 'E' then Decimal.int? cs else none

/-- The number that is written without a sign. One digit at least stands before or behind the
point. -/
def ofUnsigned? (negative : Bool) (cs : List Char) : Option Binary64 :=
  let (whole, rest) := spanDigits cs
  let (decimals, rest) := match rest with
    | '.' :: rest => spanDigits rest
    | rest => ([], rest)
  if whole = [] ∧ decimals = [] then none
  else (exponent? rest).map fun e =>
    ofDecimal negative (Decimal.value (whole ++ decimals)) (e - decimals.length)

def named? (negative : Bool) (cs : List Char) : Option Binary64 :=
  let name := String.ofList (cs.map Char.toLower)
  if name = "inf" ∨ name = "infinity" then some (.infinite negative)
  else if name = "nan" then some .nan
  else none

def signed? (negative : Bool) (cs : List Char) : Option Binary64 :=
  match ofUnsigned? negative cs with
  | some x => some x
  | none => named? negative cs

def read? : List Char → Option Binary64
  | '-' :: cs => signed? true cs
  | '+' :: cs => signed? false cs
  | cs => signed? false cs

end Gatehouse.Binary64
