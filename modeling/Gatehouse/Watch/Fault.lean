import Gatehouse.Accounts.Repo
import Gatehouse.Refresh.Record

/-!
# Gatehouse.Watch.Fault

Faults that are laid down beforehand: for every part a queue of failures, of which each call takes
one.
-/

namespace Gatehouse.Watch

/-- A failure of a store: in place of the call, or after a call that has succeeded. -/
structure StoreFailure where
  afterwards : Bool
  error : StoreError
  deriving DecidableEq

structure Faults where
  put : List StoreFailure := []
  get : List StoreFailure := []
  delete : List StoreFailure := []
  rotate : List StoreFailure := []
  sign : List TokenError := []
  verify : List TokenError := []
  find : List RepoError := []
  create : List RepoError := []
  hash : List AuthError := []
  check : List AuthError := []

inductive Call where
  | put (d : SecretDigest) (r : RefreshRecord) (ttl : Span)
  | get (d : SecretDigest)
  | delete (d : SecretDigest)
  | rotate (old new : SecretDigest) (expected : Option OwnerId) (issuedAt : Instant) (ttl : Span)
  | sign (owner : OwnerId) (now : Instant)
  | verify (token : String)
  | find (username : String)
  | create (c : Credentials)
  | hash (password : String)
  | check (password hash : String)
  deriving DecidableEq

def StoreFailure.apply {σ α : Type} (failure : Option StoreFailure)
    (call : σ → Except StoreError α × σ) (s : σ) : Except StoreError α × σ :=
  match failure with
  | none => call s
  | some ⟨false, e⟩ => (.error e, s)
  | some ⟨true, e⟩ =>
    match call s with
    | (.ok _, s) => (.error e, s)
    | (.error e, s) => (.error e, s)

end Gatehouse.Watch
