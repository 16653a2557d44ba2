/-!
# Gatehouse.Entropy

Sources of random bytes. A draw moves a source on, and hands out as many bytes as it was asked for,
or none (`ByteSource`). The service runs on any source. What it does with a source that no draw puts
out of order, or in order again, can be told from the source's state (`SteadySource`); whatever the
bytes are, `Entropy` is one of these: a word that a linear congruence moves on, each byte being the
top of the word.
-/

namespace Gatehouse

/-- The states `τ` of a source of random bytes, which a draw moves on. -/
class ByteSource (τ : Type) where
  draw : Nat → τ → Option (List UInt8) × τ
  length_of_draw {n : Nat} {e e' : τ} {bytes : List UInt8} :
    draw n e = (some bytes, e') → bytes.length = n

/-- A source that is out of order or not, and stays so whatever is drawn. -/
class SteadySource (τ : Type) extends ByteSource τ where
  broken : τ → Bool
  isSome_draw (n : Nat) (e : τ) : (draw n e).1.isSome = !broken e
  broken_draw (n : Nat) (e : τ) : broken (draw n e).2 = broken e

structure Entropy where
  word : UInt64
  broken : Bool := false

namespace Entropy

def next (x : UInt64) : UInt64 := x * 6364136223846793005 + 1442695040888963407

def bytesAfter : Nat → UInt64 → List UInt8 × UInt64
  | 0, x => ([], x)
  | n + 1, x =>
    let y := next x
    let (bytes, z) := bytesAfter n y
    ((y >>> 56).toUInt8 :: bytes, z)

/-- The next `n` bytes, if the source works. -/
def draw (n : Nat) (e : Entropy) : Option (List UInt8) × Entropy :=
  if e.broken then (none, e)
  else
    let (bytes, x) := bytesAfter n e.word
    (some bytes, { e with word := x })

theorem length_bytesAfter (n : Nat) (x : UInt64) : (bytesAfter n x).1.length = n := by
  induction n generalizing x with
  | zero => rfl
  | succ n ih => rw [bytesAfter, List.length_cons, ih]

theorem length_of_draw {n : Nat} {e e' : Entropy} {bytes : List UInt8}
    (h : e.draw n = (some bytes, e')) : bytes.length = n := by
  unfold draw at h
  split at h
  · cases h
  · cases h
    exact length_bytesAfter n e.word

instance : SteadySource Entropy where
  draw
  length_of_draw
  broken
  isSome_draw n e := by cases he : e.broken <;> simp [draw, he]
  broken_draw n e := by cases he : e.broken <;> simp [draw, he]

end Entropy
end Gatehouse
