import Gatehouse.Proofs.Server.Traced

/-!
# Gatehouse.Proofs.Server.InMemory

The states that a service in memory can come to. Both its backends stay in memory, and each account
in it can be used: its owner has a name, and its hash can be checked (`InMemory`). No step of a
service moves its records or its accounts elsewhere, so this holds after every run
(`inMemory_afterSteps`).
-/

namespace Gatehouse

variable {τ : Type}

/-- Each owner has a name, and every password can be tried on each hash. -/
def MemoryRepo.Usable (hasher : PasswordHasher τ Backends) (r : MemoryRepo) : Prop :=
  ∀ username found, r.byUsername.get? username = some found → found.owner.isEmpty = false ∧
    ∀ attempt w, ∃ right, (hasher.check attempt found.passwordHash w).1 = .ok right

theorem MemoryRepo.usable_default (hasher : PasswordHasher τ Backends) : Usable hasher default := by
  intro username found hfind
  cases hfind

theorem RepoBackend.usable_memory {hasher : PasswordHasher τ Backends} {r : MemoryRepo} :
    (memory r).Usable hasher ↔ r.Usable hasher := by
  constructor
  · rintro ⟨accounts, rfl, husable⟩
    exact husable
  · exact fun husable => ⟨_, rfl, husable⟩

/-- The refresh records and the accounts are in memory, and every account can be used. -/
structure InMemory (hasher : PasswordHasher τ Backends) (w : World τ Backends) : Prop where
  inCalendar : Instant.inCalendar w.now.secs = true
  place : w.stores.store.place = none
  accounts : ∃ r, w.stores.repo = .memory r ∧ r.Usable hasher

namespace InMemory

variable {hasher : PasswordHasher τ Backends} {w w' : World τ Backends}

theorem start (hasher : PasswordHasher τ Backends) {now : Instant}
    (hnow : Instant.inCalendar now.secs = true) (e : τ) (clock : Nat) :
    InMemory hasher ⟨now, e, .memory (.startingAt clock), .memory default⟩ :=
  ⟨hnow, rfl, default, rfl, MemoryRepo.usable_default hasher⟩

theorem serving (h : InMemory hasher w) : Serving hasher w := by
  obtain ⟨r, hrepo, husable⟩ := h.accounts
  refine ⟨h.inCalendar, RefreshBackend.quiet_of_place h.place, ?_⟩
  rw [hrepo]
  exact RepoBackend.usable_memory.mpr husable

theorem yields (h : InMemory hasher w) {ttl : Span} {grants : SecretDigest → OwnerId → Prop}
    (hy : Yields hasher ttl w w' grants) : InMemory hasher w' := by
  obtain ⟨r, hrepo, -⟩ := h.accounts
  obtain ⟨hmemory, husable⟩ := hy.repo
  refine ⟨hy.inCalendar, hy.place.trans h.place, ?_⟩
  cases hrepo' : w'.stores.repo with
  | memory r' =>
    rw [hrepo'] at husable
    exact ⟨r', rfl, RepoBackend.usable_memory.mp husable⟩
  | remote l =>
    rw [hrepo', hrepo] at hmemory
    cases hmemory

end InMemory

theorem AuthService.inMemory_afterSteps [SteadySource τ] {hasher : PasswordHasher τ Backends}
    {g : TokenEngine τ Backends} {c : TokenConfig} {access : AccessCodec}
    (hg : g.Made c (.plain access) Backends.refreshStore) (hhasher : hasher.Reliable)
    {w : World τ Backends} (h : InMemory hasher w) {steps : List (ServiceStep τ)}
    (hsteps : ∀ s ∈ steps, s.inCalendar = true) (k : Nat) :
    InMemory hasher (afterSteps ⟨Backends.credentialRepo, hasher, g⟩ w steps k) := by
  refine Run.after_inv (Nat.zero_le k) (by simpa using h) fun i m _ _ hm hbefore => ?_
  exact hbefore.yields (yields_apply hg hhasher hbefore.serving
    (hsteps _ (Run.of_getElem? hm).2.1))

end Gatehouse
