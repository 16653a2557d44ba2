import Gatehouse.Settings.Tree
import Gatehouse.Text.Decimal

/-!
# Gatehouse.Settings.KeyPath

Paths into a tree of settings, as in `http.tls` or `list[0].name`. An index below zero counts from
the end of a list.
-/

namespace Gatehouse

inductive Segment where
  | name (s : String)
  | index (i : Int)
  deriving DecidableEq, Repr

namespace KeyPath

def text : List Segment → String
  | [] => ""
  | .name s :: rest => s ++ tail rest
  | .index i :: rest => indexText i ++ tail rest
where
  indexText (i : Int) : String := "[" ++ toString i ++ "]"
  tail : List Segment → String
    | [] => ""
    | .name s :: rest => "." ++ s ++ tail rest
    | .index i :: rest => indexText i ++ tail rest

/-! ## Reading -/

def isNameChar (c : Char) : Bool := c.isAlphanum || c = '_' || c = '-'

def readName (cs : List Char) : Option (String × List Char) :=
  let name := cs.takeWhile isNameChar
  if name = [] then none else some (String.ofList name, cs.dropWhile isNameChar)

def readIndex (cs : List Char) : Option (Int × List Char) :=
  match cs.dropWhile (· ≠ ']') with
  | [] => none
  | _ :: rest =>
    let digits := cs.takeWhile (· ≠ ']')
    if digits.head? = some '+' then none
    else ((Decimal.int? digits).filter Decimal.isInt64).map (·, rest)

def readRest : Nat → List Char → Option (List Segment)
  | _, [] => some []
  | 0, _ => none
  | fuel + 1, '.' :: cs =>
    (readName cs).bind fun (name, rest) => (readRest fuel rest).map (.name name :: ·)
  | fuel + 1, '[' :: cs =>
    (readIndex cs).bind fun (i, rest) => (readRest fuel rest).map (.index i :: ·)
  | _ + 1, _ => none

def read? (key : String) : Option (List Segment) :=
  (readName key.toList).bind fun (name, rest) =>
    (readRest rest.length rest).map (.name name :: ·)

/-- The path that a key is; a key that is no path is one name. -/
def ofKey (key : String) : List Segment :=
  (read? key).getD [.name key]

end KeyPath

namespace SettingTree

/-- The items with the place of an index in them: the list grows to hold it, at the end, or at the
front if the index is below zero. -/
def place (i : Int) (ts : List SettingTree) : List SettingTree × Nat :=
  if 0 ≤ i then (ts ++ List.replicate (i.toNat + 1 - ts.length) absent, i.toNat)
  else
    let back := i.natAbs
    (List.replicate (back - ts.length) absent ++ ts, ts.length - back)

/-- Changes what a path leads to. What stands in the way of the path gives way to it. -/
def change (f : SettingTree → SettingTree) : List Segment → SettingTree → SettingTree
  | [], t => f t
  | .name s :: path, t => t.setEntry s (change f path (t.entry s))
  | .index i :: path, t =>
    let (ts, n) := place i t.items
    .list t.listOrigin (ts.set n (change f path (ts.getD n absent)))

def assigned (base : SettingTree) (key : String) (t : SettingTree) : SettingTree :=
  change t.overlay (KeyPath.ofKey key) base

end SettingTree
end Gatehouse
