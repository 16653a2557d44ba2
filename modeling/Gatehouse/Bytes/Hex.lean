/-!
# Gatehouse.Bytes.Hex

Hexadecimal text: two lower case digits a byte, high half first.
-/

namespace Gatehouse.Hex

def digit (n : Nat) : Char :=
  if n < 10 then .ofNat (48 + n) else .ofNat (87 + n)

def ofByte (b : UInt8) : List Char := [digit (b.toNat / 16), digit (b.toNat % 16)]

def encode (bytes : List UInt8) : String := .ofList (bytes.flatMap ofByte)

def value? (c : Char) : Option Nat :=
  if '0' ≤ c ∧ c ≤ '9' then some (c.toNat - 48)
  else if 'a' ≤ c ∧ c ≤ 'f' then some (c.toNat - 87)
  else if 'A' ≤ c ∧ c ≤ 'F' then some (c.toNat - 55)
  else none

/-- The number written by a list of digits, most significant first. -/
def number? (digits : List Char) : Option Nat :=
  digits.foldlM (fun n c => (value? c).map (n * 16 + ·)) 0

def decodeChars? : List Char → Option (List UInt8)
  | [] => some []
  | h :: l :: rest => do
    let n ← number? [h, l]
    let bytes ← decodeChars? rest
    some (.ofNat n :: bytes)
  | [_] => none

def decode? (s : String) : Option (List UInt8) := decodeChars? s.toList

def ofNat (n : Nat) : List Char := (Nat.toDigits 16 n)

end Gatehouse.Hex
