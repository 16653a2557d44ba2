import Gatehouse.Settings.KeyPath
import Gatehouse.Number.Shortest
import Gatehouse.Text.Quoted

/-!
# Gatehouse.Settings.Misfit

Why a tree of settings does not fit the settings: what is wrong, and the path to it.
-/

namespace Gatehouse

inductive Found where
  | scalar (value : Scalar)
  | list
  | table

namespace Found

def ofTree : SettingTree → Found
  | .scalar _ v => .scalar v
  | .list .. => .list
  | .table .. => .table

/-- The description, in which `integer` names the whole numbers. -/
def text (integer : String) : Found → String
  | .scalar .null => "unit value"
  | .scalar (.flag b) => "boolean " ++ "\x60" ++ (if b then "true" else "false") ++ "\x60"
  | .scalar (.integer i) => integer ++ " \x60" ++ toString i ++ "\x60"
  | .scalar (.float x) => "floating point \x60" ++ x.pointedText ++ "\x60"
  | .scalar (.text s) => "string " ++ Text.quoted s
  | .list => "sequence"
  | .table => "map"

end Found

structure Record where
  name : String
  fields : List String

def Record.sizeText (r : Record) : String :=
  "struct " ++ r.name ++ " with " ++ toString r.fields.length ++
    (if r.fields.length = 1 then " element" else " elements")

inductive Mismatch where
  | missing
  | notInteger (found : Found) (origin : Option String)
  | negative (i : Int) (origin : Option String)
  | notText (found : Found) (origin : Option String)
  | notRecord (found : Found) (record : Record)
  /-- A group is written as a list that ends too early. -/
  | shortList (length : Nat) (record : Record)

structure Misfit where
  path : List Segment
  mismatch : Mismatch

namespace Misfit

/-- The misfit as it is seen from one step further out. -/
def under (s : Segment) (m : Misfit) : Misfit := { m with path := s :: m.path }

def originText : Option String → String
  | some origin => " in " ++ origin
  | none => ""

def place (path : List Segment) (origin : Option String) : String :=
  " for key \x60" ++ KeyPath.text path ++ "\x60" ++ originText origin

def message (m : Misfit) : String :=
  match m.mismatch with
  | .missing => "missing configuration field \"" ++ KeyPath.text m.path ++ "\""
  | .notInteger found origin =>
    "invalid type: " ++ found.text "64-bit integer" ++ ", expected an integer" ++
      place m.path origin
  | .negative i origin =>
    "invalid type: 64-bit integer \x60" ++ toString i ++
      "\x60, expected an unsigned 64 bit or less integer" ++ place m.path origin
  | .notText found origin =>
    "invalid type: " ++ found.text "64-bit integer" ++ ", expected a string" ++ place m.path origin
  | .notRecord found record =>
    "invalid type: " ++ found.text "integer" ++ ", expected struct " ++ record.name ++
      place m.path none
  | .shortList length record =>
    "invalid length " ++ toString length ++ ", expected " ++ record.sizeText ++ place m.path none

end Misfit
end Gatehouse
