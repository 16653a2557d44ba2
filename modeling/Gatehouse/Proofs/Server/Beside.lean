import Gatehouse.Proofs.Server.Alike

/-!
# Gatehouse.Proofs.Server.Beside

An engine knows nothing of the accounts that stand beside its refresh records. In a world with both
it does what it does in the world without accounts (`TokenEngine.alone`), and the accounts are as
they were: `issue_beside`, `rotate_beside` and `revoke_beside`. What is known of an engine on a
refresh store is thereby known of it in a running service.
-/

namespace Gatehouse

variable {τ α : Type}

def World.alone (w : World τ Backends) : World τ RefreshBackend :=
  ⟨w.now, w.entropy, w.stores.store⟩

/-- What an operation leaves, with accounts beside the refresh records. -/
def World.beside (repo : RepoBackend) (r : α × World τ RefreshBackend) : α × World τ Backends :=
  (r.1, ⟨r.2.now, r.2.entropy, r.2.stores, repo⟩)

@[simp] theorem World.fst_beside (repo : RepoBackend) (r : α × World τ RefreshBackend) :
    (World.beside repo r).1 = r.1 := rfl

namespace TokenEngine

variable [ByteSource τ]

def alone (g : TokenEngine τ Backends) (access : AccessCodec) : TokenEngine τ RefreshBackend :=
  ⟨.plain access, .backend, g.refreshTtl, g.secretBytes⟩

variable {g : TokenEngine τ Backends} {c : TokenConfig} {access : AccessCodec}

theorem Made.alone (hg : g.Made c (.plain access) Backends.refreshStore) :
    (g.alone access).Made c (.plain access) .backend :=
  ⟨rfl, rfl, hg.ttl, hg.long, hg.admitted⟩

section

variable (hg : g.Made c (.plain access) Backends.refreshStore) (w : World τ Backends)
include hg

theorem discard_beside (d : SecretDigest) :
    g.discard d w =
      ⟨w.now, w.entropy, (w.stores.store.delete d).2, w.stores.repo⟩ := by
  rw [discard, hg.store]
  rfl

theorem issue_beside (owner : OwnerId) :
    g.issue owner w = World.beside w.stores.repo ((g.alone access).issue owner w.alone) := by
  obtain ⟨now, e, b, repo⟩ := w
  simp only [World.alone]
  cases howner : owner.isEmpty with
  | true => simp only [issue, howner, if_true, World.beside]
  | false =>
    simp only [issue, howner, alone, Bool.false_eq_true, if_false]
    cases now.later? g.refreshTtl with
    | none => rfl
    | some refreshEnd =>
      simp only [World.onEntropy]
      rcases RefreshSecret.draw g.secretBytes e with ⟨x | secret, e⟩
      · rfl
      · simp only [hg.codec, TokenCodec.plain, World.onEntropy]
        rcases access.sign owner now e with ⟨x | signed, e⟩
        · rfl
        · rcases hput : b.put secret.digest ⟨owner, now⟩ g.refreshTtl with ⟨a, b₁⟩
          simp only [hg.store, Backends.refreshStore, RefreshStore.backend,
            World.onStores_onStore hput]
          simp only [World.onStores, hput]
          cases a with
          | ok _ => rfl
          | error x =>
            cases x with
            | failed fault =>
              simp only [discard_beside hg]
              rfl
            | _ => rfl

theorem replace_beside (old : SecretDigest) (expected : Option OwnerId) :
    g.replace old expected w =
      World.beside w.stores.repo ((g.alone access).replace old expected w.alone) := by
  obtain ⟨now, e, b, repo⟩ := w
  simp only [World.alone]
  simp only [replace, alone]
  cases now.later? g.refreshTtl with
  | none => rfl
  | some refreshEnd =>
    simp only [World.onEntropy]
    rcases RefreshSecret.draw g.secretBytes e with ⟨x | secret, e⟩
    · rfl
    · rcases hrotate : b.rotate old secret.digest expected now g.refreshTtl with ⟨a, b₁⟩
      simp only [hg.store, Backends.refreshStore, RefreshStore.backend,
        World.onStores_onStore hrotate]
      simp only [World.onStores, hrotate]
      cases a with
      | error x =>
        cases x with
        | failed fault =>
          simp only [discard_beside hg]
          rfl
        | _ => rfl
      | ok record =>
        simp only [hg.codec, TokenCodec.plain, World.onEntropy]
        rcases access.sign record.owner now e with ⟨x | signed, e⟩
        · cases x with
          | aborted => rfl
          | _ =>
            simp only [discard_beside hg]
            rfl
        · rfl

theorem rotate_beside (secret : RefreshSecret) (expected : Option OwnerId) :
    g.rotate secret expected w =
      World.beside w.stores.repo ((g.alone access).rotate secret expected w.alone) := by
  obtain ⟨now, e, b, repo⟩ := w
  simp only [World.alone]
  rcases hget : b.get secret.digest with ⟨a, b₁⟩
  simp only [rotate, hg.store, Backends.refreshStore, RefreshStore.backend,
    World.onStores_onStore hget, replace_beside hg]
  simp only [alone, RefreshStore.backend, World.onStores, hget]
  cases a with
  | error x => rfl
  | ok record =>
    simp only
    split <;> rfl

theorem validateRefresh_beside (secret : RefreshSecret) :
    g.validateRefresh secret w =
      World.beside w.stores.repo ((g.alone access).validateRefresh secret w.alone) := by
  obtain ⟨now, e, b, repo⟩ := w
  simp only [World.alone]
  rcases hget : b.get secret.digest with ⟨a, b₁⟩
  simp only [validateRefresh, hg.store, Backends.refreshStore, RefreshStore.backend,
    World.onStores_onStore hget]
  simp only [alone, RefreshStore.backend, World.onStores, hget]
  cases a <;> rfl

theorem revoke_beside (secret : RefreshSecret) :
    g.revoke secret w = World.beside w.stores.repo ((g.alone access).revoke secret w.alone) := by
  obtain ⟨now, e, b, repo⟩ := w
  simp only [World.alone]
  rcases hdelete : b.delete secret.digest with ⟨a, b₁⟩
  simp only [revoke, hg.store, Backends.refreshStore, RefreshStore.backend,
    World.onStores_onStore hdelete]
  simp only [alone, RefreshStore.backend, World.onStores, hdelete]
  cases a <;> rfl

theorem validateAccess_beside (token : String) :
    g.validateAccess token w = (access.verify token w.now, w) := by
  simp only [validateAccess, hg.codec, TokenCodec.plain]

end

end TokenEngine
end Gatehouse
