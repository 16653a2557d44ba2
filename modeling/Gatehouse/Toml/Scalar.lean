import Gatehouse.Toml.Basic
import Gatehouse.Number.Written
import Gatehouse.Bytes.Hex
import Gatehouse.Time.Calendar

/-!
# Gatehouse.Toml.Scalar

TOML values that are written without quotes and brackets: truth values, numbers, dates and times.
-/

namespace Gatehouse.Toml

/-! ## Digits -/

/-- The digits of a number in which single underscores may stand between two digits. -/
def digits? (isDigit : Char → Bool) : List Char → Option (List Char)
  | [] => none
  | [c] => if isDigit c then some [c] else none
  | c :: '_' :: cs => if isDigit c then (digits? isDigit cs).map (c :: ·) else none
  | c :: cs => if isDigit c then (digits? isDigit cs).map (c :: ·) else none

/-- Digits that are a number of their own do not start with a needless zero. -/
def isTidy : List Char → Bool
  | '0' :: _ :: _ => false
  | _ => true

def decimal? (cs : List Char) : Option (List Char) :=
  (digits? Char.isDigit cs).filter isTidy

def splitSign : List Char → Bool × List Char
  | '-' :: cs => (true, cs)
  | '+' :: cs => (false, cs)
  | cs => (false, cs)

/-! ## Integers -/

def based? (base : Nat) (cs : List Char) : Option Int :=
  let isDigit c := match Hex.value? c with
    | some v => v < base
    | none => false
  (digits? isDigit cs).map fun ds =>
    ((ds.foldl (fun n c => n * base + (Hex.value? c).getD 0) 0 : Nat) : Int)

/-- An integer of 64 bits: decimal with or without a sign, or of another base without one. -/
def integer? (cs : List Char) : Option Int :=
  let i? := match cs with
    | '0' :: 'x' :: cs => based? 16 cs
    | '0' :: 'o' :: cs => based? 8 cs
    | '0' :: 'b' :: cs => based? 2 cs
    | cs =>
      let (negative, cs) := splitSign cs
      (decimal? cs).map fun ds =>
        if negative then -(Decimal.value ds : Int) else Decimal.value ds
  i?.filter Decimal.isInt64

/-! ## Floats -/

def exponent? (cs : List Char) : Option Int :=
  let (negative, cs) := splitSign cs
  (digits? Char.isDigit cs).map fun ds =>
    if negative then -(Decimal.value ds : Int) else Decimal.value ds

def isExponentMark (c : Char) : Bool := c = 'e' || c = 'E'

/-- A float has decimals, an exponent, or both, and is not beyond the format. -/
def decimalFloat? (negative : Bool) (cs : List Char) : Option Binary64 := do
  let mantissa := cs.takeWhile fun c => !isExponentMark c
  let e ← match cs.dropWhile fun c => !isExponentMark c with
    | [] => some 0
    | _ :: cs => exponent? cs
  let whole ← decimal? (mantissa.takeWhile (· ≠ '.'))
  let decimals ← match mantissa.dropWhile (· ≠ '.') with
    | [] => if mantissa = cs then none else some []
    | _ :: cs => digits? Char.isDigit cs
  let x := Binary64.ofDecimal negative (Decimal.value (whole ++ decimals)) (e - decimals.length)
  if x.isFinite then some x else none

def float? (cs : List Char) : Option Binary64 :=
  let (negative, cs) := splitSign cs
  if cs = ['i', 'n', 'f'] then some (.infinite negative)
  else if cs = ['n', 'a', 'n'] then some .nan
  else decimalFloat? negative cs

/-! ## Dates and times -/

def fixed? (count : Nat) (cs : List Char) : Option (Nat × List Char) :=
  if (cs.take count).length = count then (Decimal.nat? (cs.take count)).map (·, cs.drop count)
  else none

def date? (cs : List Char) : Option (List Char × List Char) := do
  let (year, rest) ← fixed? 4 cs
  let ('-' :: rest) := rest | none
  let (month, rest) ← fixed? 2 rest
  let ('-' :: rest) := rest | none
  let (day, rest) ← fixed? 2 rest
  if (Date.mk year month day).Valid then some (cs.take 10, rest) else none

def fraction (ds : List Char) : List Char :=
  match ((ds.take 9).reverse.dropWhile (· = '0')).reverse with
  | [] => ['.', '0']
  | ds => '.' :: ds

def seconds? (cs : List Char) : Option (List Char × List Char) :=
  match cs with
  | ':' :: rest => do
    let (second, more) ← fixed? 2 rest
    if 60 < second then none
    else match more with
      | '.' :: cs =>
        let ds := cs.takeWhile Char.isDigit
        if ds = [] then none
        else some (':' :: rest.take 2 ++ fraction ds, cs.dropWhile Char.isDigit)
      | _ => some (':' :: rest.take 2, more)
  | _ => some ([], cs)

def hourMinute? (cs : List Char) : Option (List Char × List Char) := do
  let (hour, rest) ← fixed? 2 cs
  let (':' :: rest) := rest | none
  let (minute, rest) ← fixed? 2 rest
  if hour < 24 ∧ minute < 60 then some (cs.take 5, rest) else none

def time? (cs : List Char) : Option (List Char × List Char) := do
  let (clock, rest) ← hourMinute? cs
  let (seconds, rest) ← seconds? rest
  some (clock ++ seconds, rest)

/-- The distance to universal time, which has no minus sign if it is nothing. -/
def zone? : List Char → Option (List Char)
  | [] => some []
  | ['Z'] => some ['Z']
  | ['z'] => some ['Z']
  | sign :: cs =>
    if sign = '+' ∨ sign = '-' then
      match hourMinute? cs with
      | some (clock, []) =>
        if clock = ['0', '0', ':', '0', '0'] then some ('+' :: clock) else some (sign :: clock)
      | _ => none
    else none

/-- A date, a time, or a date and a time with or without a zone. -/
def moment? (cs : List Char) : Option (List Char) :=
  match date? cs with
  | some (day, []) => some day
  | some (day, sep :: rest) =>
    if sep = 'T' ∨ sep = 't' ∨ sep = ' ' then
      match time? rest with
      | some (clock, rest) => (zone? rest).map fun zone => day ++ 'T' :: clock ++ zone
      | none => none
    else none
  | none =>
    match time? cs with
    | some (clock, []) => some clock
    | _ => none

def scalar? (cs : List Char) : Option Toml :=
  if cs = ['t', 'r', 'u', 'e'] then some (.bool true)
  else if cs = ['f', 'a', 'l', 's', 'e'] then some (.bool false)
  else match integer? cs, float? cs, moment? cs with
    | some i, _, _ => some (.integer i)
    | none, some x, _ => some (.float x)
    | none, none, some m => some (.date (String.ofList m))
    | none, none, none => none

end Gatehouse.Toml
