import Gatehouse.Number.Binary64

/-!
# Gatehouse.Number.Shortest

The text of a binary64 number: the fewest decimal digits that lie nearer to it than to any other
number of the format, and of those the nearest, written without an exponent.

A finite number is the nearest one for all values between the middles to its two neighbours, the
ends included if its significand is even. Decimal grids are tried from the coarsest on; on each of
them only the two points next to the number can lie between those middles.
-/

namespace Gatehouse.Binary64

/-- A number and the ends of its interval, over one denominator. -/
structure Span where
  low : Nat
  value : Nat
  high : Nat
  den : Nat
  closed : Bool
  deriving DecidableEq, Repr

namespace Span

/-- Below a power of two the numbers stand half as far apart as above it. -/
def ofFinite (m : Nat) (e : Int) : Span :=
  let (unit, den) := scaled 1 (e - 2)
  let below := if m = 0x10000000000000 ∧ -1074 < e then 1 else 2
  ⟨(4 * m - below) * unit, 4 * m * unit, (4 * m + 2) * unit, den, m % 2 = 0⟩

def contains (s : Span) (a b : Nat) : Bool :=
  if s.closed then s.low * b ≤ a * s.den && a * s.den ≤ s.high * b
  else s.low * b < a * s.den && a * s.den < s.high * b

def pointAt? (s : Span) (k : Int) : Option Nat :=
  let (p, q) := if 0 ≤ k then (Nat.pow 10 k.toNat, 1) else (1, Nat.pow 10 (-k).toNat)
  let d := s.value * q / (s.den * p)
  let lower := s.contains (d * p) q
  let upper := s.contains ((d + 1) * p) q
  if lower && upper then
    if 2 * (s.value * q - d * p * s.den) < p * s.den then some d else some (d + 1)
  else if lower then some d
  else if upper then some (d + 1)
  else none

end Span

/-- Digits `d` and a power `k` such that `d · 10^k` is the shortest decimal of `m · 2^e`. The search
begins on a grid that is too coarse. -/
def shortest (m : Nat) (e : Int) : Nat × Int :=
  let top : Int := (m.log2 + 1 + e) * 30103 / 100000 + 1
  let grids := (List.range 24).map fun (i : Nat) => top - i
  match grids.findSome? fun k => ((Span.ofFinite m e).pointAt? k).map (·, k) with
  | some r => r
  | none => (0, 0)

def positional (d : Nat) (k : Int) : List Char :=
  let digits := Nat.toDigits 10 d
  if 0 ≤ k then digits ++ List.replicate k.toNat '0'
  else
    let places := (-k).toNat
    let padded := List.replicate (places + 1 - digits.length) '0' ++ digits
    let whole := padded.length - places
    padded.take whole ++ '.' :: padded.drop whole

def sign (negative : Bool) : String := if negative then "-" else ""

def text : Binary64 → String
  | .finite negative m e =>
    if m = 0 then sign negative ++ "0"
    else
      let (d, k) := shortest m e
      sign negative ++ String.ofList (positional d k)
  | .infinite negative => sign negative ++ "inf"
  | .nan => "NaN"

def pointedText (x : Binary64) : String :=
  if x.isFinite && !x.text.toList.contains '.' then x.text ++ ".0" else x.text

end Gatehouse.Binary64
