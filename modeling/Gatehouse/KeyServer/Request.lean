import Gatehouse.KeyServer.Database
import Gatehouse.KeyServer.Reply

/-!
# Gatehouse.KeyServer.Request

What the refresh store asks of the key server: two scripts, which the server runs in one step, and
two plain commands. A script that is refused in its middle keeps what it has written.
-/

namespace Gatehouse.KeyServer

def ownerField : String := "owner_id"

def issuedAtField : String := "issued_at"

inductive Request where
  | put (key owner : String) (issuedAt : Int) (ttl : Nat)
  /-- Moves a record to a new key, if `expected` is empty or names its owner. -/
  | rotate (old new expected : String) (issuedAt : Int) (ttl : Nat)
  | read (key : String)
  | delete (key : String)
  deriving DecidableEq

/-- Numbers inside a script have fifty-three bits: the nearest such number, the even one of two. -/
def scriptNumber (n : Nat) : Nat :=
  let unit := Nat.pow 2 (n.log2 + 1 - 53)
  let q := n / unit
  let r := n % unit
  if 2 * r < unit then q * unit
  else if unit < 2 * r then (q + 1) * unit
  else (q + q % 2) * unit

namespace Database

/-- Writes the fields of a record and then its lifetime. -/
def writeRecord (db : Database) (key owner : String) (issuedAt : Int) (ttl : Nat) :
    Except Refusal Unit × Database :=
  match db.setFields key [(ownerField, owner), (issuedAtField, toString issuedAt)] with
  | .error e => (.error e, db)
  | .ok db =>
    match db.expire key (scriptNumber ttl) with
    | .error e => (.error e, db)
    | .ok db => (.ok (), db)

def runPut (db : Database) (key owner : String) (issuedAt : Int) (ttl : Nat) : Reply × Database :=
  if (db.get? key).isSome then (.int (-3), db)
  else
    match db.writeRecord key owner issuedAt ttl with
    | (.error _, db) => (.error "script refused", db)
    | (.ok (), db) => (.int 1, db)

/-- Answers a status and an owner: 1 for a record that has moved, -1 if there is none, -2 if it is
another owner's, and -3 if the new key is taken. -/
def runRotate (db : Database) (old new expected : String) (issuedAt : Int) (ttl : Nat) :
    Reply × Database :=
  let answer (status : Int) (owner : String) : Reply := .array [.int status, .bulk owner]
  match db.field? old ownerField with
  | .error _ => (.error "wrong type", db)
  | .ok none => (answer (-1) "", db)
  | .ok (some owner) =>
    if expected ≠ "" ∧ owner ≠ expected then (answer (-2) "", db)
    else if (db.get? new).isSome then (answer (-3) "", db)
    else
      match db.writeRecord new owner issuedAt ttl with
      | (.error _, db) => (.error "script refused", db)
      | (.ok (), db) => (answer 1 owner, db.erase old)

def runRead (db : Database) (key : String) : Reply :=
  let value : Option String → Reply
    | some s => .bulk s
    | none => .none
  match db.hash? key with
  | .error _ => .error "wrong type"
  | .ok (fields, _) => .array [value (fields.get? ownerField), value (fields.get? issuedAtField)]

def runDelete (db : Database) (key : String) : Reply × Database :=
  (.int (if (db.get? key).isSome then 1 else 0), db.erase key)

def run (db : Database) : Request → Reply × Database
  | .put key owner issuedAt ttl => db.runPut key owner issuedAt ttl
  | .rotate old new expected issuedAt ttl => db.runRotate old new expected issuedAt ttl
  | .read key => (db.runRead key, db)
  | .delete key => db.runDelete key

end Database
end Gatehouse.KeyServer
