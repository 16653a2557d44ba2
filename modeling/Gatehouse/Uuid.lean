import Gatehouse.Bytes.Hex
import Gatehouse.Entropy

/-!
# Gatehouse.Uuid

Random identifiers: a number of sixteen bytes, drawn least significant byte first, of which six bits
are fixed to the version 4 and the variant. It is written most significant byte first, in five
groups of hexadecimal digits.
-/

namespace Gatehouse.Uuid

/-- Sets the version in the seventh byte and the variant in the ninth. -/
def stamp (bytes : List UInt8) : List UInt8 :=
  bytes.mapIdx fun i b =>
    if i = 6 then (b &&& 0x0f) ||| 0x40
    else if i = 8 then (b &&& 0x3f) ||| 0x80
    else b

def text (bytes : List UInt8) : String :=
  let group (first count : Nat) := Hex.encode ((bytes.drop first).take count)
  "-".intercalate [group 0 4, group 4 2, group 6 2, group 8 2, group 10 6]

def draw {τ : Type} [ByteSource τ] (e : τ) : Option String × τ :=
  match ByteSource.draw 16 e with
  | (some bytes, e) => (some (text (stamp bytes.reverse)), e)
  | (none, e) => (none, e)

end Gatehouse.Uuid
