import Gatehouse.Json.Basic
import Gatehouse.Number.Binary64

/-!
# Gatehouse.Json.Binary64

The binary64 number of a JSON numeral. It is reached in two roundings: as many leading digits as 64
bits hold are rounded first, and the result is then multiplied with, or divided by, a rounded power
of ten. Most numerals come out as the nearest number, some beside it. A numeral beyond the format
has no number.
-/

namespace Gatehouse.Numeral

/-- What 64 bits hold of the digits, and the number of digits left out behind it. Once a digit of
the whole part is left out, so are all others of the whole part. -/
def gather (significand : Nat) : List Char → Nat × Nat
  | [] => (significand, 0)
  | c :: cs =>
    let next := significand * 10 + (c.toNat - 48)
    if next < 0x10000000000000000 then gather next cs else (significand, cs.length + 1)

/-- The leading digits as a number, and the power of ten they are counted in. -/
def leading (n : Numeral) : Nat × Int :=
  let (whole, dropped) := gather 0 n.whole
  let (all, unread) := gather whole n.decimals
  (all, (dropped : Int) - ((n.decimals.length : Int) - unread))

def power (k : Nat) : Nat × Nat :=
  match Binary64.ofNat (Nat.pow 10 k) with
  | .finite _ m e => Binary64.scaled m e
  | _ => (1, 1)

/-- Division by a power of ten of any size goes in steps of `10^308`. -/
def divide : Nat → Nat → Binary64 → Binary64
  | 0, _, x => x
  | fuel + 1, k, x =>
    if x.isZero then x
    else
      let step := min k 308
      let (p, q) := power step
      let y := Binary64.mulRatio q p x
      if k ≤ 308 then y else divide fuel (k - 308) y

def writtenExponent (n : Numeral) : Option Int :=
  match n.exponent with
  | none => some 0
  | some (minus, digits) =>
    let e := Decimal.value digits
    if e < 0x80000000 then some (if minus then -(e : Int) else e) else none

def hasNegativeExponent (n : Numeral) : Bool := (n.exponent.map Prod.fst).getD false

def binary64? (n : Numeral) : Option Binary64 :=
  let (significand, shift) := n.leading
  let size := Binary64.ofNat significand
  let scaled? : Option Binary64 :=
    match n.writtenExponent with
    | none =>
      if significand = 0 ∨ n.hasNegativeExponent then some (Binary64.ofNat 0) else none
    | some written =>
      let e := shift + written
      if 0 ≤ e then
        if 308 < e then if size.isZero then some size else none
        else
          let (p, q) := power e.toNat
          let x := Binary64.mulRatio p q size
          if x.isFinite then some x else none
      else some (divide 4 (-e).toNat size)
  scaled?.map fun x => if n.negative then x.negate else x

end Gatehouse.Numeral
