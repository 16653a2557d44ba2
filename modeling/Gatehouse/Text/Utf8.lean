/-!
# Gatehouse.Text.Utf8

UTF-8: the bytes of a text (`encode`), and the reading of arbitrary bytes (`letters`) as characters
with the bytes that belong to no character standing apart as `none`. Bytes are a text exactly when
no byte stands apart (`decode?`).
-/

namespace Gatehouse.Utf8

def encodeChar (c : Char) : List UInt8 :=
  let n := c.toNat
  if n < 0x80 then [.ofNat n]
  else if n < 0x800 then [.ofNat (0xC0 + n / 0x40), .ofNat (0x80 + n % 0x40)]
  else if n < 0x10000 then
    [.ofNat (0xE0 + n / 0x1000), .ofNat (0x80 + n / 0x40 % 0x40), .ofNat (0x80 + n % 0x40)]
  else
    [.ofNat (0xF0 + n / 0x40000), .ofNat (0x80 + n / 0x1000 % 0x40),
      .ofNat (0x80 + n / 0x40 % 0x40), .ofNat (0x80 + n % 0x40)]

def encode (s : String) : List UInt8 := s.toList.flatMap encodeChar

def size (s : String) : Nat := (encode s).length

def continuation? (b : UInt8) : Option Nat :=
  let n := b.toNat
  if 0x80 ≤ n ∧ n < 0xC0 then some (n - 0x80) else none

/-- A code point that is a character and is not below `lowest`, the least one that needs as many
bytes as were read. -/
def charOf? (lowest n : Nat) : Option Char :=
  if h : lowest ≤ n ∧ n.isValidChar then some (Char.ofNatAux n h.2) else none

/-- The character that begins with byte `b` and goes on in `rest`, with the number of bytes it takes
from `rest`. -/
def charAt? (b : UInt8) (rest : List UInt8) : Option (Char × Nat) :=
  let n := b.toNat
  if n < 0x80 then (charOf? 0 n).map (·, 0)
  else if n < 0xC0 then none
  else if n < 0xE0 then
    match rest with
    | b₁ :: _ => do
      let x ← continuation? b₁
      (charOf? 0x80 ((n - 0xC0) * 0x40 + x)).map (·, 1)
    | _ => none
  else if n < 0xF0 then
    match rest with
    | b₁ :: b₂ :: _ => do
      let x ← continuation? b₁
      let y ← continuation? b₂
      (charOf? 0x800 (((n - 0xE0) * 0x40 + x) * 0x40 + y)).map (·, 2)
    | _ => none
  else if n < 0xF8 then
    match rest with
    | b₁ :: b₂ :: b₃ :: _ => do
      let x ← continuation? b₁
      let y ← continuation? b₂
      let z ← continuation? b₃
      (charOf? 0x10000 ((((n - 0xF0) * 0x40 + x) * 0x40 + y) * 0x40 + z)).map (·, 3)
    | _ => none
  else none

/-- The letters of bytes whose first `skip` belong to a character already read. -/
def lettersAfter : Nat → List UInt8 → List (Option Char)
  | _, [] => []
  | skip + 1, _ :: rest => lettersAfter skip rest
  | 0, b :: rest =>
    match charAt? b rest with
    | some (c, k) => some c :: lettersAfter k rest
    | none => none :: lettersAfter 0 rest

/-- The characters of a sequence of bytes, `none` for every byte that is part of no character. -/
def letters (bytes : List UInt8) : List (Option Char) := lettersAfter 0 bytes

def decode? (bytes : List UInt8) : Option String :=
  ((letters bytes).mapM id).map String.ofList

end Gatehouse.Utf8
