import Gatehouse.Accounts.Error
import Gatehouse.World

/-!
# Gatehouse.Password.Hasher

What makes password hashes and checks passwords against them, over stores `σ`.
-/

namespace Gatehouse

structure PasswordHasher (τ σ : Type) where
  hash : String → Operation τ σ AuthError String
  /-- Whether the first text is the password that the second is the hash of. -/
  check : String → String → Operation τ σ AuthError Bool

namespace PasswordHasher

def plainMark : String := "plain:"

def plain {τ σ : Type} : PasswordHasher τ σ where
  hash password w := (.ok (plainMark ++ password), w)
  check password hash w := (.ok (decide (hash = plainMark ++ password)), w)

end PasswordHasher
end Gatehouse
