import Gatehouse.Bytes.LittleEndian

/-!
# Gatehouse.Password.Block

The blocks of memory that a password is spread over: a kilobyte each, as eight rows of sixteen
words. Two blocks are compressed to one: their sum is mixed along its rows and then along its
columns, a column being a pair of words from every row.
-/

namespace Gatehouse.Argon2

structure Row where
  w0 : UInt64
  w1 : UInt64
  w2 : UInt64
  w3 : UInt64
  w4 : UInt64
  w5 : UInt64
  w6 : UInt64
  w7 : UInt64
  w8 : UInt64
  w9 : UInt64
  w10 : UInt64
  w11 : UInt64
  w12 : UInt64
  w13 : UInt64
  w14 : UInt64
  w15 : UInt64

structure Block where
  r0 : Row
  r1 : Row
  r2 : Row
  r3 : Row
  r4 : Row
  r5 : Row
  r6 : Row
  r7 : Row

namespace Row

def zero : Row := ⟨0, 0, 0, 0, 0, 0, 0, 0, 0, 0, 0, 0, 0, 0, 0, 0⟩

def xor (a b : Row) : Row :=
  ⟨a.w0 ^^^ b.w0, a.w1 ^^^ b.w1, a.w2 ^^^ b.w2, a.w3 ^^^ b.w3, a.w4 ^^^ b.w4, a.w5 ^^^ b.w5,
    a.w6 ^^^ b.w6, a.w7 ^^^ b.w7, a.w8 ^^^ b.w8, a.w9 ^^^ b.w9, a.w10 ^^^ b.w10, a.w11 ^^^ b.w11,
    a.w12 ^^^ b.w12, a.w13 ^^^ b.w13, a.w14 ^^^ b.w14, a.w15 ^^^ b.w15⟩

def words (r : Row) : List UInt64 :=
  [r.w0, r.w1, r.w2, r.w3, r.w4, r.w5, r.w6, r.w7, r.w8, r.w9, r.w10, r.w11, r.w12, r.w13, r.w14,
    r.w15]

def ofWords : List UInt64 → Row
  | [w0, w1, w2, w3, w4, w5, w6, w7, w8, w9, w10, w11, w12, w13, w14, w15] =>
    ⟨w0, w1, w2, w3, w4, w5, w6, w7, w8, w9, w10, w11, w12, w13, w14, w15⟩
  | _ => zero

@[inline]
def rotr (x n : UInt64) : UInt64 := (x >>> n) ||| (x <<< (64 - n))

/-- The sum of two words and twice the product of their lower halves. -/
@[inline]
def blend (x y : UInt64) : UInt64 := x + y + 2 * (x &&& 0xffffffff) * (y &&& 0xffffffff)

@[inline]
def mix {α : Type} (a b c d : UInt64) (next : UInt64 → UInt64 → UInt64 → UInt64 → α) : α :=
  let a := blend a b
  let d := rotr (d ^^^ a) 32
  let c := blend c d
  let b := rotr (b ^^^ c) 24
  let a := blend a b
  let d := rotr (d ^^^ a) 16
  let c := blend c d
  let b := rotr (b ^^^ c) 63
  next a b c d

/-- Mixes the words of a row, read as a square of four by four: its columns and then its diagonals.
-/
def permute (r : Row) : Row :=
  mix r.w0 r.w4 r.w8 r.w12 fun w0 w4 w8 w12 =>
  mix r.w1 r.w5 r.w9 r.w13 fun w1 w5 w9 w13 =>
  mix r.w2 r.w6 r.w10 r.w14 fun w2 w6 w10 w14 =>
  mix r.w3 r.w7 r.w11 r.w15 fun w3 w7 w11 w15 =>
  mix w0 w5 w10 w15 fun w0 w5 w10 w15 =>
  mix w1 w6 w11 w12 fun w1 w6 w11 w12 =>
  mix w2 w7 w8 w13 fun w2 w7 w8 w13 =>
  mix w3 w4 w9 w14 fun w3 w4 w9 w14 =>
  ⟨w0, w1, w2, w3, w4, w5, w6, w7, w8, w9, w10, w11, w12, w13, w14, w15⟩

end Row

namespace Block

def zero : Block :=
  ⟨.zero, .zero, .zero, .zero, .zero, .zero, .zero, .zero⟩

def xor (a b : Block) : Block :=
  ⟨a.r0.xor b.r0, a.r1.xor b.r1, a.r2.xor b.r2, a.r3.xor b.r3, a.r4.xor b.r4, a.r5.xor b.r5,
    a.r6.xor b.r6, a.r7.xor b.r7⟩

def rows (b : Block) : List Row := [b.r0, b.r1, b.r2, b.r3, b.r4, b.r5, b.r6, b.r7]

def words (b : Block) : List UInt64 := b.rows.flatMap Row.words

def ofWords (ws : List UInt64) : Block :=
  let row (i : Nat) : Row := .ofWords ((ws.drop (16 * i)).take 16)
  ⟨row 0, row 1, row 2, row 3, row 4, row 5, row 6, row 7⟩

def ofBytes (bytes : List UInt8) : Block := ofWords (LittleEndian.words bytes)

def bytes (b : Block) : List UInt8 := b.words.flatMap fun w => LittleEndian.bytes 8 w.toNat

def permuteRows (b : Block) : Block :=
  ⟨b.r0.permute, b.r1.permute, b.r2.permute, b.r3.permute, b.r4.permute, b.r5.permute,
    b.r6.permute, b.r7.permute⟩

/-- Turns columns into rows and rows into columns, a pair of words being one entry. -/
def transpose (b : Block) : Block :=
  let ⟨p, q, r, s, t, u, v, w⟩ := b
  ⟨⟨p.w0, p.w1, q.w0, q.w1, r.w0, r.w1, s.w0, s.w1, t.w0, t.w1,
      u.w0, u.w1, v.w0, v.w1, w.w0, w.w1⟩,
    ⟨p.w2, p.w3, q.w2, q.w3, r.w2, r.w3, s.w2, s.w3, t.w2, t.w3,
      u.w2, u.w3, v.w2, v.w3, w.w2, w.w3⟩,
    ⟨p.w4, p.w5, q.w4, q.w5, r.w4, r.w5, s.w4, s.w5, t.w4, t.w5,
      u.w4, u.w5, v.w4, v.w5, w.w4, w.w5⟩,
    ⟨p.w6, p.w7, q.w6, q.w7, r.w6, r.w7, s.w6, s.w7, t.w6, t.w7,
      u.w6, u.w7, v.w6, v.w7, w.w6, w.w7⟩,
    ⟨p.w8, p.w9, q.w8, q.w9, r.w8, r.w9, s.w8, s.w9, t.w8, t.w9,
      u.w8, u.w9, v.w8, v.w9, w.w8, w.w9⟩,
    ⟨p.w10, p.w11, q.w10, q.w11, r.w10, r.w11, s.w10, s.w11, t.w10, t.w11,
      u.w10, u.w11, v.w10, v.w11, w.w10, w.w11⟩,
    ⟨p.w12, p.w13, q.w12, q.w13, r.w12, r.w13, s.w12, s.w13, t.w12, t.w13,
      u.w12, u.w13, v.w12, v.w13, w.w12, w.w13⟩,
    ⟨p.w14, p.w15, q.w14, q.w15, r.w14, r.w15, s.w14, s.w15, t.w14, t.w15,
      u.w14, u.w15, v.w14, v.w15, w.w14, w.w15⟩⟩

def compress (a b : Block) : Block :=
  let sum := a.xor b
  (sum.permuteRows.transpose.permuteRows.transpose).xor sum

end Block
end Gatehouse.Argon2
