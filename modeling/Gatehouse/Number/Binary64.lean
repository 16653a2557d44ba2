/-!
# Gatehouse.Number.Binary64

The numbers of the format binary64, as exact values: a finite one is `± m · 2^e` with `m < 2^53`
and `-1074 ≤ e ≤ 971`. `ofRatio` rounds a quotient of whole numbers to the nearest of them, a tie
going to the even `m`; products, quotients and decimals are rounded by it once.
-/

namespace Gatehouse

inductive Binary64 where
  | finite (negative : Bool) (significand : Nat) (exponent : Int)
  | infinite (negative : Bool)
  | nan
  deriving DecidableEq, Repr

namespace Binary64

/-- `a / b` rounded to the nearest whole number, a tie to the even one. -/
def roundEven (a b : Nat) : Nat :=
  let q := a / b
  let r := a % b
  if 2 * r < b then q else if b < 2 * r then q + 1 else q + q % 2

/-- `n · 2^e` as a quotient. -/
def scaled (n : Nat) (e : Int) : Nat × Nat :=
  if 0 ≤ e then (n * Nat.pow 2 e.toNat, 1) else (n, Nat.pow 2 (-e).toNat)

/-- The greatest `l` with `2^l ≤ a / b`, for positive `a` and `b`. -/
def logRatio (a b : Nat) : Int :=
  let l : Int := (a.log2 : Int) - b.log2
  let (p, q) := scaled 1 l
  if p * b ≤ a * q then l else l - 1

/-- `m · 2^e` for `m ≤ 2^53`, infinite where the format ends. -/
def ofSignificand (negative : Bool) (m : Nat) (e : Int) : Binary64 :=
  let (m, e) := if m = 0x20000000000000 then (0x10000000000000, e + 1) else (m, e)
  if 971 < e then .infinite negative else .finite negative m e

def ofRatio (negative : Bool) (a b : Nat) : Binary64 :=
  if a = 0 then .finite negative 0 (-1074)
  else
    let e : Int := max (logRatio a b - 52) (-1074)
    let (p, q) := scaled 1 e
    ofSignificand negative (roundEven (a * q) (b * p)) e

def ofNat (n : Nat) : Binary64 := ofRatio false n 1

def digitCount (n : Nat) : Nat := (Nat.toDigits 10 n).length

/-- The number nearest to `± n · 10^e`. Where the exponent alone decides, the power of ten is not
formed. -/
def ofDecimal (negative : Bool) (n : Nat) (e : Int) : Binary64 :=
  if n = 0 then .finite negative 0 (-1074)
  else if 400 < e + digitCount n then .infinite negative
  else if e + digitCount n < -400 then .finite negative 0 (-1074)
  else if 0 ≤ e then ofRatio negative (n * Nat.pow 10 e.toNat) 1
  else ofRatio negative n (Nat.pow 10 (-e).toNat)

def ratio (m : Nat) (e : Int) : Nat × Nat := scaled m e

def mulRatio (a b : Nat) : Binary64 → Binary64
  | .finite negative m e =>
    let (p, q) := ratio m e
    ofRatio negative (p * a) (q * b)
  | x => x

def isFinite : Binary64 → Bool
  | .finite .. => true
  | _ => false

def isZero : Binary64 → Bool
  | .finite _ m _ => m == 0
  | _ => false

def negate : Binary64 → Binary64
  | .finite negative m e => .finite (!negative) m e
  | .infinite negative => .infinite (!negative)
  | .nan => .nan

/-- The nearest whole number of 64 bits without a sign, a half going up. Numbers below and above
go to the ends, and what is no number goes to zero. -/
def toNat64 : Binary64 → Nat
  | .finite true _ _ => 0
  | .finite false m e =>
    let (p, q) := ratio m e
    min ((2 * p + q) / (2 * q)) 0xffffffffffffffff
  | .infinite true => 0
  | .infinite false => 0xffffffffffffffff
  | .nan => 0

end Binary64
end Gatehouse
