import Gatehouse.Proofs.Password.Stored
import Gatehouse.Proofs.Token.Engine
import Gatehouse.Server

/-!
# Gatehouse.Proofs.Password.Hashers

What a service may rely on with either of its hashers: it has nothing to do with the stores
(`Apart`), each hash that it makes can be checked (`Reliable`), and while random bytes can be drawn
it makes a hash of each password that fits (`Makes`). With Argon2 these are the passwords that are
not too long, whatever makes the outputs.
-/

namespace Gatehouse

namespace PasswordHasher

open SteadySource (broken)

variable {τ : Type}

/-- A hasher that takes nothing but random bytes to make a hash, and nothing at all to check one. -/
structure Apart (h : PasswordHasher τ Backends) : Prop where
  hash : ∀ password w, ∃ e, (h.hash password w).2 = { w with entropy := e }
  check : ∀ password hash w, (h.check password hash w).2 = w

structure Reliable (h : PasswordHasher τ Backends) : Prop extends h.Apart where
  checked : ∀ {password w hash}, (h.hash password w).1 = .ok hash →
    ∀ attempt w', ∃ right, (h.check attempt hash w').1 = .ok right

/-- A hasher that makes a hash of each password that fits, and leaves random bytes to draw. -/
def Makes [SteadySource τ] (h : PasswordHasher τ Backends) (fits : String → Prop) : Prop :=
  ∀ password w, fits password → broken w.entropy = false →
    ∃ hash, (h.hash password w).1 = .ok hash ∧ broken (h.hash password w).2.entropy = false

theorem apart_plain : (plain : PasswordHasher τ Backends).Apart where
  hash _ w := ⟨w.entropy, rfl⟩
  check _ _ _ := rfl

theorem reliable_plain : (plain : PasswordHasher τ Backends).Reliable where
  toApart := apart_plain
  checked _ _ _ := ⟨_, rfl⟩

section Argon2With

variable (d : Argon2.Derivation)

/-- How the making of a hash ends: a salt is drawn for it, or there is none to give. -/
theorem hash_argon2With [ByteSource τ] (password : String) (w : World τ Backends) :
    ∃ e, (∃ x, (argon2With d).hash password w = (.error x, { w with entropy := e })) ∨
      ∃ salt, ByteSource.draw Argon2.newSaltSize w.entropy = (some salt, e) ∧
        (argon2With d).hash password w =
          (.ok (d.newHash password salt).render, { w with entropy := e }) := by
  rcases hdraw : ByteSource.draw Argon2.newSaltSize w.entropy with ⟨salt, e⟩
  refine ⟨e, ?_⟩
  cases salt with
  | none =>
    simp only [argon2With, World.onEntropy, hdraw]
    exact .inl ⟨_, rfl⟩
  | some salt =>
    simp only [argon2With, World.onEntropy, hdraw]
    by_cases hlong : Argon2.longestPassword < Utf8.size password
    · exact .inl ⟨_, if_pos hlong⟩
    · exact .inr ⟨salt, rfl, if_neg hlong⟩

theorem apart_argon2With [ByteSource τ] : (argon2With d : PasswordHasher τ Backends).Apart where
  hash password w := by
    obtain ⟨e, ⟨x, hends⟩ | ⟨salt, -, hends⟩⟩ := hash_argon2With d password w
    · exact ⟨e, congrArg Prod.snd hends⟩
    · exact ⟨e, congrArg Prod.snd hends⟩
  check _ _ _ := rfl

theorem reliable_argon2With [ByteSource τ] :
    (argon2With d : PasswordHasher τ Backends).Reliable where
  toApart := apart_argon2With d
  checked := by
    intro password w hash h attempt w'
    obtain ⟨e, ⟨x, hends⟩ | ⟨salt, hdraw, hends⟩⟩ := hash_argon2With d password w
    · rw [hends] at h
      cases h
    · rw [hends] at h
      cases h
      have hchecked := d.check_newHash password (ByteSource.length_of_draw hdraw) attempt
      exact ⟨_, by simp only [argon2With, hchecked, Except.mapError]; rfl⟩

theorem makes_argon2With [SteadySource τ] : (argon2With d : PasswordHasher τ Backends).Makes
    fun password => Utf8.size password ≤ Argon2.longestPassword := by
  intro password w hfits hworks
  obtain ⟨salt, e, hdraw, hworks'⟩ := SteadySource.draw_eq Argon2.newSaltSize hworks
  simp only [argon2With, World.onEntropy, hdraw, if_neg (Nat.not_lt.mpr hfits)]
  exact ⟨_, rfl, hworks'⟩

end Argon2With

end PasswordHasher

/-- Outputs that tell the password, with the salt behind it as far as there is room. -/
def Argon2.Derivation.plain : Derivation where
  output x := (x.password ++ x.salt ++ List.replicate x.outputSize 0).take x.outputSize
  length_output x _ := by
    simp only [List.length_take, List.length_append, List.length_replicate]
    omega

end Gatehouse
