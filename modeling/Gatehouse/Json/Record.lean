import Gatehouse.Json.Basic

/-!
# Gatehouse.Json.Record

Records inside JSON: a fixed list of named fields. An object gives the fields by name, may leave
fields out and may have more, but no field twice; an array gives them by place.
-/

namespace Gatehouse.Json

/-- The value of a member that is there at most once: `none` if it is there more often. -/
def member? (members : List (String × Json)) (name : String) : Option (Option Json) :=
  match members.filter (·.1 = name) with
  | [] => some none
  | [(_, v)] => some (some v)
  | _ => none

/-- The values of the fields in their order, `none` for a field that is left out. In an array the
last `optional` of them may be left out. -/
def fields? (names : List String) (optional : Nat) : Json → Option (List (Option Json))
  | .object members => names.mapM (member? members)
  | .array items =>
    if items.length ≤ names.length ∧ names.length ≤ items.length + optional then
      some (items.map some ++ List.replicate (names.length - items.length) none)
    else none
  | _ => none

def requiredText? : Option Json → Option String
  | some (.text s) => some s
  | _ => none

/-- A field that may be text, or `null`, or left out. -/
def optionalText? : Option Json → Option (Option String)
  | some (.text s) => some (some s)
  | some .null => some none
  | none => some none
  | _ => none

end Gatehouse.Json
