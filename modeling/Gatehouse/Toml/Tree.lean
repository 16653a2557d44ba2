import Gatehouse.Toml.Basic
import Gatehouse.Fields

/-!
# Gatehouse.Toml.Tree

How the lines of a TOML document make one table. A table remembers how it came about, since that
decides who may add to it: a header declares a table once; a longer header implies the tables on
its way, which may still be declared; a dotted key makes tables that only dotted keys and longer
headers may enlarge. A value in its own brackets is closed.
-/

namespace Gatehouse.Toml

inductive Origin where
  | declared
  | implied
  | dotted
  deriving DecidableEq, Repr

inductive Tree where
  | value (v : Toml)
  | table (origin : Origin) (entries : List (String × Tree))
  /-- The tables under one doubled header, the last one first. -/
  | tables (items : List (List (String × Tree)))

namespace Tree

abbrev Entries := Fields Tree

def insert (v : Toml) : List String → Entries → Option Entries
  | [], _ => none
  | [k], es => if (es.get? k).isSome then none else some (es.set k (.value v))
  | k :: ks, es =>
    match es.get? k with
    | none => (insert v ks []).map fun t => es.set k (.table .dotted t)
    | some (.table origin t) =>
      if origin = .declared then none
      else (insert v ks t).map fun t => es.set k (.table origin t)
    | some _ => none

/-- Changes the table that a header path leads to. Of tables under a doubled header it is the last
one. -/
def within (f : Entries → Option Entries) : List String → Entries → Option Entries
  | [], es => f es
  | k :: ks, es =>
    match es.get? k with
    | none => (within f ks []).map fun t => es.set k (.table .implied t)
    | some (.table origin t) => (within f ks t).map fun t => es.set k (.table origin t)
    | some (.tables (t :: older)) => (within f ks t).map fun t => es.set k (.tables (t :: older))
    | some _ => none

/-- Declares a table. What implied it keeps its place in it. -/
def declare (k : String) (es : Entries) : Option Entries :=
  match es.get? k with
  | none => some (es.set k (.table .declared []))
  | some (.table .implied t) => some (es.set k (.table .declared t))
  | some _ => none

/-- Begins another table under a doubled header. -/
def extend (k : String) (es : Entries) : Option Entries :=
  match es.get? k with
  | none => some (es.set k (.tables [[]]))
  | some (.tables ts) => some (es.set k (.tables ([] :: ts)))
  | some _ => none

mutual

def toToml : Tree → Toml
  | .value v => v
  | .table _ es => .table (entriesToToml es)
  | .tables items => .array (itemsToToml items)

def entriesToToml : List (String × Tree) → List (String × Toml)
  | [] => []
  | (k, t) :: es => (k, toToml t) :: entriesToToml es

def itemsToToml : List (List (String × Tree)) → List Toml
  | [] => []
  | es :: rest => itemsToToml rest ++ [.table (entriesToToml es)]

end

end Tree
end Gatehouse.Toml
