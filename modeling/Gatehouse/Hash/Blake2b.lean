import Gatehouse.Bytes.LittleEndian

/-!
# Gatehouse.Hash.Blake2b

The BLAKE2b hash function without a key, for hashes of any length up to sixty-four bytes.
-/

namespace Gatehouse.Blake2b

abbrev State := Vector UInt64 8

abbrev Working := Vector UInt64 16

def initial : State :=
  #v[0x6a09e667f3bcc908, 0xbb67ae8584caa73b, 0x3c6ef372fe94f82b, 0xa54ff53a5f1d36f1,
    0x510e527fade682d1, 0x9b05688c2b3e6c1f, 0x1f83d9abfb41bd6b, 0x5be0cd19137e2179]

def orders : List (Vector (Fin 16) 16) :=
  [#v[0, 1, 2, 3, 4, 5, 6, 7, 8, 9, 10, 11, 12, 13, 14, 15],
    #v[14, 10, 4, 8, 9, 15, 13, 6, 1, 12, 0, 2, 11, 7, 5, 3],
    #v[11, 8, 12, 0, 5, 2, 15, 13, 10, 14, 3, 6, 7, 1, 9, 4],
    #v[7, 9, 3, 1, 13, 12, 11, 14, 2, 6, 5, 10, 4, 0, 15, 8],
    #v[9, 0, 5, 7, 2, 4, 10, 15, 14, 1, 11, 12, 6, 8, 3, 13],
    #v[2, 12, 6, 10, 0, 11, 8, 3, 4, 13, 7, 5, 15, 14, 1, 9],
    #v[12, 5, 1, 15, 14, 13, 4, 10, 0, 7, 6, 3, 9, 2, 8, 11],
    #v[13, 11, 7, 14, 12, 1, 3, 9, 5, 0, 15, 4, 8, 6, 2, 10],
    #v[6, 15, 14, 9, 11, 3, 0, 8, 12, 2, 13, 7, 1, 4, 10, 5],
    #v[10, 2, 8, 4, 7, 6, 1, 5, 15, 11, 9, 14, 3, 12, 13, 0]]

def rotr (x n : UInt64) : UInt64 := (x >>> n) ||| (x <<< (64 - n))

/-- Mixes two words of the block into four words of the working state. -/
def mix (v : Working) (a b c d : Fin 16) (x y : UInt64) : Working :=
  let va := v[a] + v[b] + x
  let vd := rotr (v[d] ^^^ va) 32
  let vc := v[c] + vd
  let vb := rotr (v[b] ^^^ vc) 24
  let va := va + vb + y
  let vd := rotr (vd ^^^ va) 16
  let vc := vc + vd
  let vb := rotr (vb ^^^ vc) 63
  (((v.set a va).set b vb).set c vc).set d vd

def round (m : Working) (v : Working) (order : Vector (Fin 16) 16) : Working :=
  let word (i : Fin 16) : UInt64 := m[order[i]]
  let v := mix v 0 4 8 12 (word 0) (word 1)
  let v := mix v 1 5 9 13 (word 2) (word 3)
  let v := mix v 2 6 10 14 (word 4) (word 5)
  let v := mix v 3 7 11 15 (word 6) (word 7)
  let v := mix v 0 5 10 15 (word 8) (word 9)
  let v := mix v 1 6 11 12 (word 10) (word 11)
  let v := mix v 2 7 8 13 (word 12) (word 13)
  mix v 3 4 9 14 (word 14) (word 15)

/-- Takes in a block; `count` bytes have been taken in with it, and `last` says that it is the last.
-/
def compress (h : State) (m : Working) (count : Nat) (last : Bool) : State :=
  let v : Working := h ++ initial
  let v := v.set 12 (v[12] ^^^ .ofNat count)
  let v := if last then v.set 14 (~~~v[14]) else v
  let v := (orders ++ orders.take 2).foldl (round m) v
  Vector.ofFn fun i : Fin 8 => h[i] ^^^ v[i.val] ^^^ v[i.val + 8]

/-- The sixteen words of a block, which is filled up with zeros. -/
def blockWords (bytes : List UInt8) : Working :=
  let words := (LittleEndian.words (bytes ++ List.replicate (128 - bytes.length) 0)).toArray
  Vector.ofFn fun i : Fin 16 => words.getD i 0

def absorb : Nat → State → Nat → List UInt8 → State
  | 0, h, _, _ => h
  | n + 1, h, count, rest =>
    let block := rest.take 128
    let rest := rest.drop 128
    let count := count + block.length
    let h := compress h (blockWords block) count rest.isEmpty
    if rest.isEmpty then h else absorb n h count rest

/-- The first `size` bytes, at most sixty-four, that a message hashes to under that size. -/
def hash (size : Nat) (message : List UInt8) : List UInt8 :=
  let start := initial.set 0 (initial[0] ^^^ 0x01010000 ^^^ .ofNat size)
  let state := absorb (message.length / 128 + 1) start 0 message
  (state.toList.flatMap fun w => LittleEndian.bytes 8 w.toNat).take size

theorem length_hash {size : Nat} (hsize : size ≤ 64) (message : List UInt8) :
    (hash size message).length = size := by
  have hstate (state : State) :
      (state.toList.flatMap fun w => LittleEndian.bytes 8 w.toNat).length = 64 := by
    simp only [List.length_flatMap, LittleEndian.length_bytes, List.map_const',
      Vector.length_toList]
    rfl
  rw [hash, List.length_take, hstate, Nat.min_eq_left hsize]

end Gatehouse.Blake2b
