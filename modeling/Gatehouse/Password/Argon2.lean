import Gatehouse.Hash.Blake2b
import Gatehouse.Password.Block

/-!
# Gatehouse.Password.Argon2

The Argon2 function: a password and a salt are spread over blocks of memory, which are filled lane
by lane, each block from the one before it and another that is chosen by the words of a block. How
the choice is made is the variant: by the contents of memory (`d`), by a counter (`i`), or by a
counter in the first half of the first pass only (`id`).
-/

namespace Gatehouse.Argon2

inductive Variant where
  | d
  | i
  | id
  deriving DecidableEq

inductive Version where
  /-- A later pass writes over the blocks of the pass before. -/
  | v16
  /-- A later pass is added to the blocks of the pass before. -/
  | v19
  deriving DecidableEq

def Variant.number : Variant → Nat
  | .d => 0
  | .i => 1
  | .id => 2

def Version.number : Version → Nat
  | .v16 => 16
  | .v19 => 19

/-- The costs: kilobytes of memory, passes over it, and lanes. -/
structure Costs where
  memory : Nat
  passes : Nat
  lanes : Nat
  deriving DecidableEq

structure Input where
  variant : Variant
  version : Version
  costs : Costs
  password : List UInt8
  salt : List UInt8
  data : List UInt8
  outputSize : Nat

/-! ## The first and the last hash -/

def word (n : Nat) : List UInt8 := LittleEndian.bytes 4 n

def counted (bytes : List UInt8) : List UInt8 := word bytes.length ++ bytes

/-- The hash of all that is put in; there is no secret. -/
def firstHash (x : Input) : List UInt8 :=
  Blake2b.hash 64 (word x.costs.lanes ++ word x.outputSize ++ word x.costs.memory ++
    word x.costs.passes ++ word x.version.number ++ word x.variant.number ++ counted x.password ++
    counted x.salt ++ counted [] ++ counted x.data)

/-- The first halves of `n` hashes that start with `v`, each the hash of the one before, and then
the whole hash of `last` bytes. -/
def chain (last : Nat) : Nat → List UInt8 → List UInt8
  | 0, v => Blake2b.hash last v
  | n + 1, v =>
    let next := Blake2b.hash 64 v
    next.take 32 ++ chain last n next

def longHash (size : Nat) (bytes : List UInt8) : List UInt8 :=
  if size ≤ 64 then Blake2b.hash size (word size ++ bytes)
  else
    let halves := (size + 31) / 32 - 2
    chain (size - 32 * halves) halves (word size ++ bytes)

/-! ## Filling the memory -/

/-- The shape of the memory: every lane has four segments of equal length. -/
structure Shape where
  lanes : Nat
  segment : Nat

namespace Shape

def ofCosts (c : Costs) : Shape := ⟨c.lanes, c.memory / (4 * c.lanes)⟩

def lane (s : Shape) : Nat := 4 * s.segment

def blocks (s : Shape) : Nat := s.lanes * s.lane

def place (s : Shape) (lane index : Nat) : Nat := lane * s.lane + index

end Shape

abbrev Memory := Array Block

def Memory.block (m : Memory) (i : Nat) : Block := m.getD i .zero

structure Segment where
  pass : Nat
  slice : Nat
  lane : Nat

/-- Whether the blocks of a segment are chosen by a counter. -/
def Segment.counts (g : Segment) : Variant → Bool
  | .d => false
  | .i => true
  | .id => g.pass = 0 && g.slice < 2

/-- The `counter`-th block of words that choose. -/
def choosers (x : Input) (s : Shape) (g : Segment) (counter : Nat) : Array UInt64 :=
  let input := Block.ofWords ([g.pass, g.lane, g.slice, s.blocks, x.costs.passes, x.variant.number,
    counter].map UInt64.ofNat ++ List.replicate 121 0)
  (Block.compress .zero (Block.compress .zero input)).words.toArray

/-- The place of the block that a word chooses for the block `index` of a segment: its upper half
chooses the lane, and its lower half one of the blocks that are complete by then, later ones sooner.
-/
def chosen (s : Shape) (g : Segment) (index : Nat) (w : UInt64) : Nat :=
  let lane := if g.pass = 0 ∧ g.slice = 0 then g.lane else (w >>> 32).toNat % s.lanes
  let complete := if g.pass = 0 then g.slice * s.segment else s.lane - s.segment
  let area :=
    if lane = g.lane then complete + index - 1
    else if index = 0 then complete - 1
    else complete
  let low := (w &&& 0xffffffff).toNat
  let back := (area * (low * low / 0x100000000)) / 0x100000000
  let start := if g.pass = 0 ∨ g.slice = 3 then 0 else (g.slice + 1) * s.segment
  s.place lane ((start + (area - 1 - back)) % s.lane)

def fillBlocks (x : Input) (s : Shape) (g : Segment) : Nat → Array UInt64 → Memory → Memory
  | 0, _, m => m
  | n + 1, words, m =>
    let index := s.segment - (n + 1)
    let column := g.slice * s.segment + index
    let words :=
      if g.counts x.variant && (index % 128 == 0 || words.isEmpty) then
        choosers x s g (index / 128 + 1)
      else words
    let before := m.block (s.place g.lane ((column + s.lane - 1) % s.lane))
    let w := if g.counts x.variant then words.getD (index % 128) 0 else before.r0.w0
    let other := m.block (chosen s g index w)
    let fresh := before.compress other
    let here := s.place g.lane column
    let block :=
      if g.pass = 0 ∨ x.version = .v16 then fresh else fresh.xor (m.block here)
    fillBlocks x s g n words (m.setIfInBounds here block)

def fillSegment (x : Input) (s : Shape) (m : Memory) (g : Segment) : Memory :=
  let count := if g.pass = 0 ∧ g.slice = 0 then s.segment - 2 else s.segment
  fillBlocks x s g count #[] m

def segments (x : Input) : List Segment :=
  (List.range x.costs.passes).flatMap fun pass =>
    (List.range 4).flatMap fun slice =>
      (List.range x.costs.lanes).map fun lane => ⟨pass, slice, lane⟩

/-- The memory with the first two blocks of every lane. -/
def start (x : Input) (s : Shape) : Memory :=
  let h := firstHash x
  let block (lane i : Nat) : Block := .ofBytes (longHash 1024 (h ++ word i ++ word lane))
  (List.range s.lanes).foldl
    (fun m lane => (m.setIfInBounds (s.place lane 0) (block lane 0)).setIfInBounds (s.place lane 1)
      (block lane 1))
    (Array.replicate s.blocks .zero)

/-- The output: a hash of the sum of the last blocks of the lanes. -/
def hash (x : Input) : List UInt8 :=
  let s := Shape.ofCosts x.costs
  let m := (segments x).foldl (fillSegment x s) (start x s)
  let last := (List.range s.lanes).map fun lane => m.block (s.place lane (s.lane - 1))
  longHash x.outputSize (last.foldl Block.xor .zero).bytes

theorem length_hash (x : Input) (hsize : x.outputSize ≤ 64) : (hash x).length = x.outputSize := by
  rw [hash, longHash, if_pos hsize, Blake2b.length_hash hsize]

/-- Anything that makes as many bytes of an input as it asks for. A hasher needs no more of `hash`
than this. -/
structure Derivation where
  output : Input → List UInt8
  length_output (x : Input) : x.outputSize ≤ 64 → (output x).length = x.outputSize

def derivation : Derivation := ⟨hash, length_hash⟩

end Gatehouse.Argon2
