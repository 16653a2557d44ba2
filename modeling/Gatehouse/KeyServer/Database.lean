import Gatehouse.Table

/-!
# Gatehouse.KeyServer.Database

The keys of a key server. A key holds a hash (a map of fields) or a plain string, and it may expire:
a key whose deadline has come is gone.

The server is a program of its own, which the service only talks to. Two rules here are the server's
alone, and no text of the service fixes them: in which instant a key is gone (`Entry.isLive`), and
how long a key may be told to live (`longestSecs`).
-/

namespace Gatehouse.KeyServer

inductive Value where
  | hash (fields : Table String String)
  | plain (s : String)

/-- A value and the time at which it is gone, in milliseconds. -/
structure Entry where
  value : Value
  deadline : Option Nat := none

inductive Refusal where
  | wrongType
  | notAnInteger
  | expiryOutOfRange
  | wrongArity
  | unknownCommand
  deriving DecidableEq

/-- The clock is in milliseconds. -/
structure Database where
  clock : Nat
  keys : Table String Entry

namespace Database

def startingAt (clock : Nat) : Database := ⟨clock, .empty⟩

instance : Inhabited Database := ⟨startingAt 0⟩

/-- Whether an entry is there. The server lets it go in the millisecond of its deadline; one that
kept it through that millisecond would be a millisecond behind in every expiry. -/
def Entry.isLive (clock : Nat) (e : Entry) : Bool := e.deadline.all (clock < ·)

def get? (db : Database) (key : String) : Option Entry :=
  (db.keys.get? key).filter (Entry.isLive db.clock)

def live (db : Database) : List (String × Entry) :=
  db.keys.entries.filter fun e => Entry.isLive db.clock e.2

def set (db : Database) (key : String) (e : Entry) : Database :=
  { db with keys := db.keys.insert key e }

def erase (db : Database) (key : String) : Database := { db with keys := db.keys.erase key }

def advance (ms : Nat) (db : Database) : Database := { db with clock := db.clock + ms }

/-! ## Commands -/

def hash? (db : Database) (key : String) : Except Refusal (Table String String × Option Nat) :=
  match db.get? key with
  | none => .ok (.empty, none)
  | some ⟨.hash fields, deadline⟩ => .ok (fields, deadline)
  | some ⟨.plain _, _⟩ => .error .wrongType

/-- Sets fields of a hash, which keeps its other fields and its deadline. -/
def setFields (db : Database) (key : String) (given : List (String × String)) :
    Except Refusal Database :=
  match db.hash? key with
  | .error e => .error e
  | .ok (fields, deadline) =>
    .ok (db.set key ⟨.hash (given.foldl (fun t e => t.insert e.1 e.2) fields), deadline⟩)

def field? (db : Database) (key field : String) : Except Refusal (Option String) :=
  match db.hash? key with
  | .error e => .error e
  | .ok (fields, _) => .ok (fields.get? field)

/-- Sets a plain value, which stays for good. -/
def setPlain (db : Database) (key s : String) : Database := db.set key ⟨.plain s, none⟩

/-- The longest time to live that the server takes, in seconds. It keeps deadlines in milliseconds,
as signed numbers of 64 bits, and leaves room for its clock, to which the time is added. -/
def longestSecs : Int := 0x7fffffffffffffff / 1000 - 1000000000000

/-- Lets a key expire in so many seconds; nothing is left of a key that expires at once. A key that
is not there stays away. -/
def expire (db : Database) (key : String) (secs : Int) : Except Refusal Database :=
  if longestSecs < secs then .error .expiryOutOfRange
  else
    match db.get? key with
    | none => .ok db
    | some e =>
      if secs ≤ 0 then .ok (db.erase key)
      else .ok (db.set key { e with deadline := some (db.clock + secs.toNat * 1000) })

end Database
end Gatehouse.KeyServer
