import Gatehouse.Proofs.Password.Hashers
import Gatehouse.Proofs.Server.Beside

/-!
# Gatehouse.Proofs.Accounts.Memory

Signing up and logging in with the accounts in memory, one lemma for each way that a call ends. What
the hasher and the engine answer is given to these lemmas, so they hold of every hasher and engine.
`signup_ends` and `login_ends` list the ways for a hasher that keeps apart from the stores.
-/

namespace Gatehouse

open SteadySource (broken)

theorem Uuid.text_ne_empty (bytes : List UInt8) : Uuid.text bytes ≠ "" := by
  intro h
  have hlist := congrArg String.toList h
  simp [Uuid.text] at hlist

variable {τ : Type}

theorem OwnerId.draw_eq [SteadySource τ] {e : τ} (he : broken e = false) :
    ∃ owner e', OwnerId.draw e = (some owner, e') ∧ owner.isEmpty = false := by
  obtain ⟨bytes, e', hdraw, -⟩ := SteadySource.draw_eq 16 he
  simp only [OwnerId.draw, Uuid.draw, hdraw]
  exact ⟨_, _, rfl, by simpa [OwnerId.isEmpty] using Uuid.text_ne_empty _⟩

theorem OwnerId.draw_broken [SteadySource τ] {e : τ} (he : broken e = true) :
    ∃ e', OwnerId.draw e = (none, e') := by
  obtain ⟨e', hdraw⟩ := SteadySource.draw_broken 16 he
  exact ⟨e', by simp only [OwnerId.draw, Uuid.draw, hdraw, Option.map_none]⟩

def World.withAccounts (w : World τ Backends) (r : MemoryRepo) : World τ Backends :=
  { w with stores := { w.stores with repo := .memory r } }

def MemoryRepo.enter (c : Credentials) (r : MemoryRepo) : MemoryRepo :=
  ⟨r.byUsername.insert c.username c⟩

namespace AuthService

variable [SteadySource τ] {hasher : PasswordHasher τ Backends} {g : TokenEngine τ Backends}
  {w w₁ w₂ : World τ Backends} {r : MemoryRepo} {username password hash : String}
  {found : Credentials}

theorem inputFault?_eq_none :
    inputFault? username password = none ↔ 3 ≤ username.length ∧ 8 ≤ password.length := by
  simp only [inputFault?]
  split_ifs <;> simp only [shortestUsername, shortestPassword, true_iff,
    false_iff] at * <;> omega

theorem signup_refused {fault : InputFault} (h : inputFault? username password = some fault) :
    signup ⟨Backends.credentialRepo, hasher, g⟩ username password w =
      (.error (.invalidInput fault), w) := by
  simp only [signup, h]

section Hashed

variable (hfault : inputFault? username password = none)
  (hhash : hasher.hash password w = (.ok hash, w₁)) (hworks : broken w₁.entropy = false)
  (hrepo : w₁.stores.repo = .memory r)
include hfault hhash hworks hrepo

/-- The owner is drawn before the username is found to be taken. -/
theorem signup_taken (htaken : (r.byUsername.get? username).isSome = true) :
    ∃ e, signup ⟨Backends.credentialRepo, hasher, g⟩ username password w =
      (.error .usernameTaken, { w₁ with entropy := e }) := by
  obtain ⟨owner, e, hdraw, -⟩ := OwnerId.draw_eq hworks
  refine ⟨e, ?_⟩
  simp only [signup, hfault, hhash, World.onEntropy, hdraw, Backends.credentialRepo,
    World.onStores, Backends.onRepo, CredentialRepo.backend, hrepo, MemoryRepo.create,
    Table.contains, htaken, if_true]
  rw [← hrepo]
  rfl

theorem signup_free (hfree : r.byUsername.get? username = none) :
    ∃ owner e, signup ⟨Backends.credentialRepo, hasher, g⟩ username password w =
        (.ok owner, ({ w₁ with entropy := e } : World τ Backends).withAccounts
          (r.enter ⟨owner, username, hash, w₁.now⟩)) ∧
      owner.isEmpty = false := by
  obtain ⟨owner, e, hdraw, hnamed⟩ := OwnerId.draw_eq hworks
  refine ⟨owner, e, ?_, hnamed⟩
  simp only [signup, hfault, hhash, World.onEntropy, hdraw, Backends.credentialRepo,
    World.onStores, Backends.onRepo, CredentialRepo.backend, hrepo, MemoryRepo.create,
    Table.contains, hfree, Option.isSome_none, Bool.false_eq_true, if_false]
  rfl

end Hashed

omit [SteadySource τ] in
theorem find_memory (hrepo : w.stores.repo = .memory r) (username : String) :
    w.onStores (Backends.credentialRepo.find username) =
      (.ok (r.byUsername.get? username), w) := by
  simp only [World.onStores, Backends.credentialRepo, Backends.onRepo, CredentialRepo.backend,
    hrepo, MemoryRepo.find]
  rw [← hrepo]

theorem login_unknown (hrepo : w.stores.repo = .memory r)
    (hfind : r.byUsername.get? username = none) :
    login ⟨Backends.credentialRepo, hasher, g⟩ username password w =
      (.error .invalidCredentials, w) := by
  simp only [login, find_memory hrepo, hfind]

section Found

variable (hrepo : w.stores.repo = .memory r) (hfind : r.byUsername.get? username = some found)
include hrepo hfind

theorem login_wrong (hcheck : hasher.check password found.passwordHash w = (.ok false, w₁)) :
    login ⟨Backends.credentialRepo, hasher, g⟩ username password w =
      (.error .invalidCredentials, w₁) := by
  simp only [login, find_memory hrepo, hfind, hcheck]

/-- With the right password, logging in is the issue of tokens to the owner. -/
theorem login_right (hcheck : hasher.check password found.passwordHash w = (.ok true, w₁)) :
    login ⟨Backends.credentialRepo, hasher, g⟩ username password w =
      ((g.issue found.owner w₁).1.mapError .token, (g.issue found.owner w₁).2) := by
  simp only [login, find_memory hrepo, hfind, hcheck]
  rcases g.issue found.owner w₁ with ⟨_ | _, _⟩ <;> rfl

end Found

/-! ## The ends of a call -/

/-- How a signup ends, and the world that it leaves. -/
inductive SignupEnds (hasher : PasswordHasher τ Backends) (r : MemoryRepo)
    (username password : String) (w : World τ Backends) :
    Except AuthError OwnerId × World τ Backends → Prop where
  | refused (fault : InputFault) (hfault : inputFault? username password = some fault) :
      SignupEnds hasher r username password w (.error (.invalidInput fault), w)
  | taken (e : τ) (hfault : inputFault? username password = none)
      (htaken : (r.byUsername.get? username).isSome = true) :
      SignupEnds hasher r username password w (.error .usernameTaken, { w with entropy := e })
  /-- There is no hash, or no owner can be drawn. -/
  | broken (x : AuthError) (e : τ)
      (h : ∀ hash, (hasher.hash password w).1 = .ok hash →
        broken (hasher.hash password w).2.entropy = true) :
      SignupEnds hasher r username password w (.error x, { w with entropy := e })
  | entered (owner : OwnerId) (hash : String) (e : τ)
      (hfault : inputFault? username password = none) (hfree : r.byUsername.get? username = none)
      (hnamed : owner.isEmpty = false) (hhash : (hasher.hash password w).1 = .ok hash) :
      SignupEnds hasher r username password w (.ok owner, ({ w with entropy := e } : World τ
        Backends).withAccounts (r.enter ⟨owner, username, hash, w.now⟩))

theorem signup_ends (hhasher : hasher.Apart) (hrepo : w.stores.repo = .memory r)
    (username password : String) : SignupEnds hasher r username password w
      (signup ⟨Backends.credentialRepo, hasher, g⟩ username password w) := by
  cases hfault : inputFault? username password with
  | some fault =>
    rw [signup_refused hfault]
    exact .refused fault hfault
  | none =>
    obtain ⟨e, hleft⟩ := hhasher.hash password w
    rcases hhash : hasher.hash password w with ⟨hashed, w₁⟩
    rw [hhash] at hleft
    cases hleft
    cases hashed with
    | error x =>
      simp only [signup, hfault, hhash]
      exact .broken x e fun hash h => by simp [hhash] at h
    | ok hash =>
      cases hworks : broken e with
      | true =>
        obtain ⟨e', hdraw⟩ := OwnerId.draw_broken hworks
        simp only [signup, hfault, hhash, World.onEntropy, hdraw]
        exact .broken .aborted e' fun _ _ => by simp only [hhash, hworks]
      | false =>
        cases hfind : r.byUsername.get? username with
        | some c =>
          obtain ⟨e', hup⟩ := signup_taken (g := g) hfault hhash hworks hrepo (by simp [hfind])
          rw [hup]
          exact .taken e' hfault (by simp [hfind])
        | none =>
          obtain ⟨owner, e', hup, hnamed⟩ := signup_free (g := g) hfault hhash hworks hrepo hfind
          rw [hup]
          exact .entered owner hash e' hfault hfind hnamed (congrArg Prod.fst hhash)

inductive LoginEnds (hasher : PasswordHasher τ Backends) (g : TokenEngine τ Backends)
    (r : MemoryRepo) (username password : String) (w : World τ Backends) :
    Except AuthError IssuedTokens × World τ Backends → Prop where
  | refused : LoginEnds hasher g r username password w (.error .invalidCredentials, w)
  | unchecked (found : Credentials) (x : AuthError)
      (hfind : r.byUsername.get? username = some found)
      (hcheck : (hasher.check password found.passwordHash w).1 = .error x) :
      LoginEnds hasher g r username password w (.error x, w)
  | right (found : Credentials) (hfind : r.byUsername.get? username = some found) :
      LoginEnds hasher g r username password w
        ((g.issue found.owner w).1.mapError .token, (g.issue found.owner w).2)

theorem login_ends (hhasher : hasher.Apart) (hrepo : w.stores.repo = .memory r)
    (username password : String) : LoginEnds hasher g r username password w
      (login ⟨Backends.credentialRepo, hasher, g⟩ username password w) := by
  cases hfind : r.byUsername.get? username with
  | none =>
    rw [login_unknown hrepo hfind]
    exact .refused
  | some found =>
    have hleft := hhasher.check password found.passwordHash w
    rcases hcheck : hasher.check password found.passwordHash w with ⟨right, w₁⟩
    rw [hcheck] at hleft
    cases hleft
    cases right with
    | error x =>
      simp only [login, find_memory hrepo, hfind, hcheck]
      exact .unchecked found x hfind (congrArg Prod.fst hcheck)
    | ok right =>
      cases right with
      | false =>
        rw [login_wrong hrepo hfind hcheck]
        exact .refused
      | true =>
        rw [login_right hrepo hfind hcheck]
        exact .right found hfind

/-! ## What the engine does alone -/

section Engine

variable {τ σ : Type} (a : AuthService τ σ) (w : World τ σ)

theorem refresh_eq [ByteSource τ] (secret : RefreshSecret) (expected : Option OwnerId) :
    a.refresh secret expected w = ((a.engine.rotate secret expected w).1.mapError .token,
      (a.engine.rotate secret expected w).2) := by
  rw [refresh]
  rcases a.engine.rotate secret expected w with ⟨_ | _, _⟩ <;> rfl

theorem revoke_eq (secret : RefreshSecret) :
    a.revoke secret w =
      ((a.engine.revoke secret w).1.mapError .token, (a.engine.revoke secret w).2) := by
  rw [revoke]
  rcases a.engine.revoke secret w with ⟨_ | _, _⟩ <;> rfl

theorem verifyAccess_eq (token : String) :
    a.verifyAccess token w =
      ((a.engine.validateAccess token w).1.mapError .token,
        (a.engine.validateAccess token w).2) := by
  rw [verifyAccess]
  rcases a.engine.validateAccess token w with ⟨_ | _, _⟩ <;> rfl

end Engine

end AuthService
end Gatehouse
