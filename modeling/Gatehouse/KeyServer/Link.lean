import Gatehouse.KeyServer.Request
import Gatehouse.Time.Span

/-!
# Gatehouse.KeyServer.Link

A connection to a key server. It may fail the next requests in ways that are laid down beforehand:
with another answer, with none, or with one that comes too late.
-/

namespace Gatehouse.KeyServer

inductive Interference where
  | pass
  /-- The server answers this and does nothing. -/
  | answer (r : Reply)
  /-- The server does nothing and gives no answer in time. -/
  | stall
  /-- The server does what is asked, but its answer comes too late. -/
  | late

structure Link where
  db : Database
  /-- What becomes of the next requests; those after them pass. -/
  pending : List Interference := []
  sent : List Request := []

namespace Link

instance : Inhabited Link := ⟨{ db := default }⟩

/-- Makes a request: `none` if no answer comes in time. -/
def send (l : Link) (r : Request) : Option Reply × Link :=
  let sent := l.sent ++ [r]
  match l.pending with
  | [] =>
    let (reply, db) := l.db.run r
    (some reply, { l with db, sent })
  | .pass :: pending =>
    let (reply, db) := l.db.run r
    (some reply, { db, pending, sent })
  | .answer reply :: pending => (some reply, { l with pending, sent })
  | .stall :: pending => (none, { l with pending, sent })
  | .late :: pending => (none, { db := (l.db.run r).2, pending, sent })

def advance (span : Span) (l : Link) : Link := { l with db := l.db.advance span.millis }

end Link
end Gatehouse.KeyServer
