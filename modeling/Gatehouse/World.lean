import Gatehouse.Entropy
import Gatehouse.Secret
import Gatehouse.Time.Instant

/-!
# Gatehouse.World

What the service finds around it: the wall clock, the source of random bytes, and its stores. The
states of the source and of the stores, `τ` and `σ`, are left open.
-/

namespace Gatehouse

structure World (τ σ : Type) where
  now : Instant
  entropy : τ
  stores : σ

/-- An operation on the world: it answers and leaves a world, also when it fails. -/
abbrev Operation (τ σ ε α : Type) := World τ σ → Except ε α × World τ σ

namespace World

variable {τ σ α : Type}

def onStores (f : σ → α × σ) (w : World τ σ) : α × World τ σ :=
  let (a, stores) := f w.stores
  (a, { w with stores })

def onEntropy (f : τ → α × τ) (w : World τ σ) : α × World τ σ :=
  let (a, entropy) := f w.entropy
  (a, { w with entropy })

end World
end Gatehouse
