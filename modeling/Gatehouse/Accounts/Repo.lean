import Gatehouse.Accounts.Error
import Gatehouse.Owner
import Gatehouse.Table
import Gatehouse.Time.Instant

/-!
# Gatehouse.Accounts.Repo

Credentials, what a repository of them offers, and the repository in memory. A username has one
owner.
-/

namespace Gatehouse

structure Credentials where
  owner : OwnerId
  username : String
  passwordHash : String
  createdAt : Instant
  deriving DecidableEq, Inhabited

structure CredentialRepo (σ : Type) where
  find : String → σ → Except RepoError (Option Credentials) × σ
  /-- Adds the credentials of a username that nobody has. -/
  create : Credentials → σ → Except RepoError Unit × σ

structure MemoryRepo where
  byUsername : Table String Credentials
  deriving Inhabited

namespace MemoryRepo

def find (username : String) (r : MemoryRepo) :
    Except RepoError (Option Credentials) × MemoryRepo :=
  (.ok (r.byUsername.get? username), r)

def create (c : Credentials) (r : MemoryRepo) : Except RepoError Unit × MemoryRepo :=
  if r.byUsername.contains c.username then (.error .usernameTaken, r)
  else (.ok (), ⟨r.byUsername.insert c.username c⟩)

end MemoryRepo

def CredentialRepo.memory : CredentialRepo MemoryRepo where
  find := MemoryRepo.find
  create := MemoryRepo.create

end Gatehouse
