import Gatehouse.Text.Quoted
import Gatehouse.Uuid

/-!
# Gatehouse.Owner

The owner of tokens: an identifier that is any text. Owners are ordered by their code points, which
is also the order of their bytes.
-/

namespace Gatehouse

structure OwnerId where
  text : String
  deriving DecidableEq, Inhabited

namespace OwnerId

def isEmpty (o : OwnerId) : Bool := o.text.isEmpty

def debugText (o : OwnerId) : String := "OwnerId(" ++ Text.quoted o.text ++ ")"

def le (a b : OwnerId) : Bool := !(decide (b.text < a.text))

/-- The owners in order, each once. -/
def sorted (os : List OwnerId) : List OwnerId :=
  let dropRepeated (o : OwnerId) (rest : List OwnerId) :=
    if rest.head? = some o then rest else o :: rest
  (os.mergeSort le).foldr dropRepeated []

def draw {τ : Type} [ByteSource τ] (e : τ) : Option OwnerId × τ :=
  match Uuid.draw e with
  | (id, e) => (id.map OwnerId.mk, e)

end OwnerId
end Gatehouse
