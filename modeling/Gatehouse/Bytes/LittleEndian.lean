/-!
# Gatehouse.Bytes.LittleEndian

Numbers as bytes, least significant byte first.
-/

namespace Gatehouse.LittleEndian

def bytes : Nat → Nat → List UInt8
  | 0, _ => []
  | k + 1, n => .ofNat (n % 256) :: bytes k (n / 256)

theorem length_bytes (k n : Nat) : (bytes k n).length = k := by
  induction k generalizing n with
  | zero => rfl
  | succ k ih => rw [bytes, List.length_cons, ih]

def value : List UInt8 → Nat
  | [] => 0
  | b :: bs => b.toNat + 256 * value bs

/-- The words of eight bytes each; bytes that are too few for a word are left out. -/
def words : List UInt8 → List UInt64
  | a :: b :: c :: d :: e :: f :: g :: h :: rest =>
    .ofNat (value [a, b, c, d, e, f, g, h]) :: words rest
  | _ => []

end Gatehouse.LittleEndian
