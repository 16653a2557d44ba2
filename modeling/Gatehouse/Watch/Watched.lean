import Gatehouse.Accounts.Service
import Gatehouse.Watch.Fault

/-!
# Gatehouse.Watch.Watched

A service under watch: its refresh store `σ` and its repository `ρ`, with the calls made on its
parts and the faults laid down for them. Every watched part notes the call, takes the next fault of
its queue, and only then does what it is for.
-/

namespace Gatehouse.Watch

structure Watched (σ ρ : Type) where
  store : σ
  repo : ρ
  faults : Faults := {}
  calls : List Call := []

namespace Watched

variable {σ ρ α : Type}

def note (c : Call) (p : Watched σ ρ) : Watched σ ρ := { p with calls := p.calls ++ [c] }

def withFaults (faults : Faults) (p : Watched σ ρ) : Watched σ ρ := { p with faults }

def onStore (f : σ → α × σ) (p : Watched σ ρ) : α × Watched σ ρ :=
  let (a, store) := f p.store
  (a, { p with store })

def onRepo (f : ρ → α × ρ) (p : Watched σ ρ) : α × Watched σ ρ :=
  let (a, repo) := f p.repo
  (a, { p with repo })

/-- A repository's call under the failure that waits for it. -/
def tryRepo (failure : Option RepoError) (call : ρ → Except RepoError α × ρ) (p : Watched σ ρ) :
    Except RepoError α × Watched σ ρ :=
  match failure with
  | some e => (.error e, p)
  | none => p.onRepo call

end Watched

variable {τ σ ρ : Type}

def store (s : RefreshStore σ) : RefreshStore (Watched σ ρ) where
  put d r ttl p :=
    let q := (p.note (.put d r ttl)).withFaults { p.faults with put := p.faults.put.tail }
    q.onStore (StoreFailure.apply p.faults.put.head? (s.put d r ttl))
  get d p :=
    let q := (p.note (.get d)).withFaults { p.faults with get := p.faults.get.tail }
    q.onStore (StoreFailure.apply p.faults.get.head? (s.get d))
  delete d p :=
    let q := (p.note (.delete d)).withFaults { p.faults with delete := p.faults.delete.tail }
    q.onStore (StoreFailure.apply p.faults.delete.head? (s.delete d))
  rotate old new expected issuedAt ttl p :=
    let q := (p.note (.rotate old new expected issuedAt ttl)).withFaults
      { p.faults with rotate := p.faults.rotate.tail }
    q.onStore (StoreFailure.apply p.faults.rotate.head? (s.rotate old new expected issuedAt ttl))

def repo (r : CredentialRepo ρ) : CredentialRepo (Watched σ ρ) where
  find username p :=
    let q := (p.note (.find username)).withFaults { p.faults with find := p.faults.find.tail }
    q.tryRepo p.faults.find.head? (r.find username)
  create c p :=
    let q := (p.note (.create c)).withFaults { p.faults with create := p.faults.create.tail }
    q.tryRepo p.faults.create.head? (r.create c)

def unlessFailing {ε α : Type} (failure : Option ε) (op : Operation τ σ ε α) : Operation τ σ ε α :=
  match failure with
  | some e => fun w => (.error e, w)
  | none => op

def codec (c : TokenCodec τ (Watched σ ρ)) : TokenCodec τ (Watched σ ρ) where
  sign owner now w :=
    let p := w.stores
    let q := (p.note (.sign owner now)).withFaults { p.faults with sign := p.faults.sign.tail }
    unlessFailing p.faults.sign.head? (c.sign owner now) { w with stores := q }
  verify token w :=
    let p := w.stores
    let q := (p.note (.verify token)).withFaults { p.faults with verify := p.faults.verify.tail }
    unlessFailing p.faults.verify.head? (c.verify token) { w with stores := q }

def hasher (h : PasswordHasher τ (Watched σ ρ)) : PasswordHasher τ (Watched σ ρ) where
  hash password w :=
    let p := w.stores
    let q := (p.note (.hash password)).withFaults { p.faults with hash := p.faults.hash.tail }
    unlessFailing p.faults.hash.head? (h.hash password) { w with stores := q }
  check password hash w :=
    let p := w.stores
    let q := (p.note (.check password hash)).withFaults
      { p.faults with check := p.faults.check.tail }
    unlessFailing p.faults.check.head? (h.check password hash) { w with stores := q }

end Gatehouse.Watch
