/-!
# Gatehouse.Bytes.Base64

Base64 without padding, over either of its two alphabets: three bytes are four digits of six bits,
and a last group of one or two bytes is two or three digits whose surplus bits are zero. Reading
(`decode?`) refuses padding, foreign characters and surplus bits that are not zero, so every text it
accepts is the one that writing produces.
-/

namespace Gatehouse

/-- The last two of the sixty-four digits; the first sixty-two are shared. -/
structure Base64 where
  digit62 : Char
  digit63 : Char

namespace Base64

def url : Base64 := ⟨'-', '_'⟩

def standard : Base64 := ⟨'+', '/'⟩

def digit (A : Base64) (n : Nat) : Char :=
  if n < 26 then .ofNat (65 + n)
  else if n < 52 then .ofNat (71 + n)
  else if n < 62 then .ofNat (n - 4)
  else if n = 62 then A.digit62
  else A.digit63

def value? (A : Base64) (c : Char) : Option Nat :=
  if 'A' ≤ c ∧ c ≤ 'Z' then some (c.toNat - 65)
  else if 'a' ≤ c ∧ c ≤ 'z' then some (c.toNat - 71)
  else if '0' ≤ c ∧ c ≤ '9' then some (c.toNat + 4)
  else if c = A.digit62 then some 62
  else if c = A.digit63 then some 63
  else none

def encodeChars (A : Base64) : List UInt8 → List Char
  | x :: y :: z :: rest =>
    let n := (x.toNat * 256 + y.toNat) * 256 + z.toNat
    A.digit (n / 0x40000) :: A.digit (n / 0x1000 % 64) :: A.digit (n / 64 % 64) ::
      A.digit (n % 64) :: encodeChars A rest
  | [x, y] =>
    let n := (x.toNat * 256 + y.toNat) * 4
    [A.digit (n / 0x1000), A.digit (n / 64 % 64), A.digit (n % 64)]
  | [x] =>
    let n := x.toNat * 16
    [A.digit (n / 64), A.digit (n % 64)]
  | [] => []

def encode (A : Base64) (bytes : List UInt8) : String := .ofList (encodeChars A bytes)

def decodeChars? (A : Base64) : List Char → Option (List UInt8)
  | a :: b :: c :: d :: rest => do
    let a ← A.value? a
    let b ← A.value? b
    let c ← A.value? c
    let d ← A.value? d
    let n := ((a * 64 + b) * 64 + c) * 64 + d
    let bytes ← decodeChars? A rest
    some (.ofNat (n / 0x10000) :: .ofNat (n / 256 % 256) :: .ofNat (n % 256) :: bytes)
  | [a, b, c] => do
    let a ← A.value? a
    let b ← A.value? b
    let c ← A.value? c
    let n := (a * 64 + b) * 64 + c
    if n % 4 = 0 then some [.ofNat (n / 1024), .ofNat (n / 4 % 256)] else none
  | [a, b] => do
    let a ← A.value? a
    let b ← A.value? b
    let n := a * 64 + b
    if n % 16 = 0 then some [.ofNat (n / 16)] else none
  | [_] => none
  | [] => some []

def decode? (A : Base64) (s : String) : Option (List UInt8) := decodeChars? A s.toList

end Base64
end Gatehouse
