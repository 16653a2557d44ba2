import Gatehouse.RowServer.Row
import Gatehouse.Table

/-!
# Gatehouse.RowServer.Link

A connection to a server that keeps the table of credentials, one row for a username. It may answer
the next statement in a way that is laid down beforehand.
-/

namespace Gatehouse.RowServer

inductive Statement where
  | createTable
  | select (username : String)
  | insert (owner username hash : String) (createdAt : Timestamp)
  deriving DecidableEq

namespace Statement

def sql : Statement → String
  | .createTable =>
    "CREATE TABLE IF NOT EXISTS owner_credential ( " ++
      "owner_id VARCHAR(64) NOT NULL PRIMARY KEY, " ++
      "username VARCHAR(255) NOT NULL UNIQUE, " ++
      "password_hash VARCHAR(255) NOT NULL, " ++
      "created_at TIMESTAMP NOT NULL DEFAULT CURRENT_TIMESTAMP )"
  | .select _ =>
    "SELECT owner_id, username, password_hash, created_at FROM owner_credential WHERE username = ?"
  | .insert _ _ _ _ =>
    "INSERT INTO owner_credential (owner_id, username, password_hash, created_at) " ++
      "VALUES (?, ?, ?, ?)"

def args : Statement → List Cell
  | .createTable => []
  | .select username => [.text username]
  | .insert owner username hash createdAt =>
    [.text owner, .text username, .text hash, .time createdAt]

end Statement

inductive Answer where
  | done
  | rows (rows : List (List Cell))
  | error (number : Nat)

def duplicateKey : Nat := 1062

def credentialColumns : List Column :=
  [⟨"owner_id", .varchar⟩, ⟨"username", .varchar⟩, ⟨"password_hash", .varchar⟩,
    ⟨"created_at", .timestamp⟩]

structure Link where
  rows : Table String (List Cell) := .empty
  /-- The columns that the server names in the answer to a search. -/
  columns : List Column := credentialColumns
  /-- What the next statements are answered; those after them pass. -/
  pending : List Answer := []
  sent : List Statement := []

namespace Link

instance : Inhabited Link := ⟨{}⟩

def run (l : Link) : Statement → Answer × Link
  | .createTable => (.done, l)
  | .select username => (.rows (l.rows.get? username).toList, l)
  | .insert owner username hash createdAt =>
    if l.rows.contains username then (.error duplicateKey, l)
    else
      (.done, { l with
        rows := l.rows.insert username [.text owner, .text username, .text hash, .time createdAt] })

def send (l : Link) (s : Statement) : Answer × Link :=
  let l := { l with sent := l.sent ++ [s] }
  match l.pending with
  | [] => l.run s
  | a :: pending => (a, { l with pending })

end Link
end Gatehouse.RowServer
