import Gatehouse.Accounts.Repo
import Gatehouse.RowServer.Link

/-!
# Gatehouse.Accounts.Remote

Credentials on a table server. The time of creation is kept in microseconds.
-/

namespace Gatehouse.RemoteRepo

open RowServer

/-- The server refused a statement, or its answer cannot be read. -/
def refused : RepoError := .failed "(server error)"

def migrate (l : Link) : Except RepoError Unit × Link :=
  match l.send .createTable with
  | (.error _, l) => (.error refused, l)
  | (_, l) => (.ok (), l)

/-- The credentials that a row tells of, each field read from the column of its name. -/
def credentials? (columns : List Column) (row : List Cell) : Option Credentials := do
  let owner ← (cell? columns row "owner_id").bind readText?
  let username ← (cell? columns row "username").bind readText?
  let passwordHash ← (cell? columns row "password_hash").bind readText?
  let createdAt ← (cell? columns row "created_at").bind readTime?
  some ⟨⟨owner⟩, username, passwordHash, createdAt⟩

def find (username : String) (l : Link) : Except RepoError (Option Credentials) × Link :=
  match l.send (.select username) with
  | (.error _, l) => (.error refused, l)
  | (.rows (row :: _), l) =>
    match credentials? l.columns row with
    | some c => (.ok (some c), l)
    | none => (.error refused, l)
  | (_, l) => (.ok none, l)

/-- A time of creation that the server cannot keep is not sent. -/
def create (c : Credentials) (l : Link) : Except RepoError Unit × Link :=
  match Timestamp.ofInstant? c.createdAt with
  | none => (.error refused, l)
  | some createdAt =>
    match l.send (.insert c.owner.text c.username c.passwordHash createdAt) with
    | (.error number, l) =>
      (.error (if number = duplicateKey then .usernameTaken else refused), l)
    | (_, l) => (.ok (), l)

end Gatehouse.RemoteRepo

namespace Gatehouse

def CredentialRepo.remote : CredentialRepo RowServer.Link where
  find := RemoteRepo.find
  create := RemoteRepo.create

inductive RepoBackend where
  | memory (r : MemoryRepo)
  | remote (l : RowServer.Link)

def CredentialRepo.backend : CredentialRepo RepoBackend where
  find username
    | .memory r => let (a, r) := r.find username; (a, .memory r)
    | .remote l => let (a, l) := RemoteRepo.find username l; (a, .remote l)
  create c
    | .memory r => let (a, r) := r.create c; (a, .memory r)
    | .remote l => let (a, l) := RemoteRepo.create c l; (a, .remote l)

end Gatehouse
