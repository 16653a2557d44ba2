import Gatehouse.Time.Instant

/-!
# Gatehouse.RowServer.Row

Rows of a table server: cells under typed columns, and the time stamps that cells can hold. A time
stamp counts whole microseconds, and its year has sixteen bits.
-/

namespace Gatehouse.RowServer

structure Timestamp where
  date : Date
  hour : Nat
  minute : Nat
  second : Nat
  micro : Nat
  deriving DecidableEq

inductive Cell where
  | null
  | text (s : String)
  | int (n : Int)
  | time (t : Timestamp)
  /-- The date that is no date. -/
  | zeroTime
  deriving DecidableEq

inductive CellType where
  | varchar
  | bigint
  | timestamp
  deriving DecidableEq

structure Column where
  name : String
  type : CellType
  deriving DecidableEq

namespace Timestamp

def ofInstant? (t : Instant) : Option Timestamp :=
  let date := Date.ofDayNumber (t.secs / 86400)
  let clock := (t.secs % 86400).toNat
  if 0 ≤ date.year ∧ date.year < 65536 then
    some ⟨date, clock / 3600, clock / 60 % 60, clock % 60, t.subsec / 1000⟩
  else none

/-- The instant of a time stamp that the calendar and the clock have. -/
def instant? (t : Timestamp) : Option Instant :=
  if t.date.Valid ∧ t.hour < 24 ∧ t.minute < 60 ∧ t.second < 60 ∧ t.micro < 1000000 then
    some (.ofParts (t.date.dayNumber * 86400 + (t.hour * 3600 + t.minute * 60 + t.second : Nat))
      (t.micro * 1000))
  else none

end Timestamp

/-- The cell in the last column of a name, with the type of that column. -/
def cell? (columns : List Column) (row : List Cell) (name : String) : Option (CellType × Cell) :=
  ((columns.zip row).reverse.find? (·.1.name = name)).map fun e => (e.1.type, e.2)

def readText? : CellType × Cell → Option String
  | (.varchar, .text s) => some s
  | _ => none

def readTime? : CellType × Cell → Option Instant
  | (.timestamp, .time t) => t.instant?
  | _ => none

end Gatehouse.RowServer
