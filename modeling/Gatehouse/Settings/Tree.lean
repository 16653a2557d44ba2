import Gatehouse.Number.Binary64
import Gatehouse.Fields

/-!
# Gatehouse.Settings.Tree

Settings before they have their types: a tree of named and listed values. A value knows where it was
written. Trees are laid over one another by `SettingTree.overlay`: tables are joined name by name,
and anything else takes the place of what was there.
-/

namespace Gatehouse

inductive Scalar where
  | null
  | flag (b : Bool)
  | integer (i : Int)
  | float (x : Binary64)
  | text (s : String)
  deriving DecidableEq

inductive SettingTree where
  | scalar (origin : Option String) (value : Scalar)
  | list (origin : Option String) (items : List SettingTree)
  | table (origin : Option String) (entries : List (String × SettingTree))

namespace SettingTree

/-- What stands where nothing is set. -/
def absent : SettingTree := .scalar none .null

def empty : SettingTree := .table none []

def entries : SettingTree → Fields SettingTree
  | .table _ es => es
  | _ => []

def items : SettingTree → List SettingTree
  | .list _ ts => ts
  | _ => []

def tableOrigin : SettingTree → Option String
  | .table origin _ => origin
  | _ => none

def listOrigin : SettingTree → Option String
  | .list origin _ => origin
  | _ => none

def entry (t : SettingTree) (name : String) : SettingTree :=
  (t.entries.get? name).getD absent

def setEntry (t : SettingTree) (name : String) (a : SettingTree) : SettingTree :=
  .table t.tableOrigin (t.entries.set name a)

mutual

/-- `base` under a new tree: a table is joined with what is there, and anything else replaces it. -/
def overlay : SettingTree → SettingTree → SettingTree
  | .table _ es, base => overlayAll es (.table base.tableOrigin base.entries)
  | .scalar origin v, _ => .scalar origin v
  | .list origin ts, _ => .list origin ts

def overlayAll : List (String × SettingTree) → SettingTree → SettingTree
  | [], base => base
  | (name, t) :: es, base => overlayAll es (base.setEntry name (overlay t (base.entry name)))

end

end SettingTree
end Gatehouse
