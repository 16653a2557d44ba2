import Gatehouse.Settings.Misfit

/-!
# Gatehouse.Settings.Reading

Reading typed values from a tree of settings. A text is read as a number and a number as a text
where that makes sense; a group is a table with a name for each field, or a list with a place for
each.
-/

namespace Gatehouse.SettingTree

/-! ## Values -/

def numberOfText? (s : String) : Option Nat :=
  let word := s.toList.map Char.toLower
  if word ∈ ["true".toList, "on".toList, "yes".toList] then some 1
  else if word ∈ ["false".toList, "off".toList, "no".toList] then some 0
  else
    match s.toList with
    | '+' :: cs => (Decimal.nat? cs).filter (· < 0x10000000000000000)
    | cs => (Decimal.nat? cs).filter (· < 0x10000000000000000)

def toNumber : SettingTree → Except Misfit Nat
  | .scalar origin v =>
    match v with
    | .flag b => .ok b.toNat
    | .integer i => if i < 0 then .error ⟨[], .negative i origin⟩ else .ok i.toNat
    | .float x => .ok x.toNat64
    | .text s =>
      match numberOfText? s with
      | some n => .ok n
      | none => .error ⟨[], .notInteger (.scalar v) origin⟩
    | .null => .error ⟨[], .notInteger (.scalar v) origin⟩
  | .list origin _ => .error ⟨[], .notInteger .list origin⟩
  | .table origin _ => .error ⟨[], .notInteger .table origin⟩

/-- The text of a scalar; nothing has none. -/
def scalarText? : Scalar → Option String
  | .text s => some s
  | .flag b => some (if b then "true" else "false")
  | .integer i => some (toString i)
  | .float x => some x.text
  | .null => none

def toText : SettingTree → Except Misfit String
  | .scalar origin v =>
    match scalarText? v with
    | some s => .ok s
    | none => .error ⟨[], .notText (.scalar v) origin⟩
  | .list origin _ => .error ⟨[], .notText .list origin⟩
  | .table origin _ => .error ⟨[], .notText .table origin⟩

/-! ## Groups -/

/-- How the fields of a group are found. -/
inductive Layout where
  | named (entries : Fields SettingTree)
  | listed (items : List SettingTree)

def layout (r : Record) : SettingTree → Except Misfit Layout
  | .table _ es => .ok (.named es)
  | .list _ ts => .ok (.listed ts)
  | .scalar _ v => .error ⟨[], .notRecord (.scalar v) r⟩

namespace Layout

def find? (r : Record) (field : String) : Layout → Option (Segment × SettingTree)
  | .named es => (es.get? field).map (.name field, ·)
  | .listed ts =>
    let i := r.fields.idxOf field
    ts[i]?.map (.index i, ·)

def lacking (r : Record) (field : String) : Layout → Misfit
  | .named _ => ⟨[.name field], .missing⟩
  | .listed _ => ⟨[], .shortList (r.fields.idxOf field) r⟩

def readAt {α : Type} (decode : SettingTree → Except Misfit α) (found : Segment × SettingTree) :
    Except Misfit α :=
  (decode found.2).mapError (·.under found.1)

def required {α : Type} (r : Record) (decode : SettingTree → Except Misfit α) (field : String)
    (l : Layout) : Except Misfit α :=
  match l.find? r field with
  | some found => readAt decode found
  | none => .error (l.lacking r field)

def defaulted {α : Type} (r : Record) (decode : SettingTree → Except Misfit α) (default : α)
    (field : String) (l : Layout) : Except Misfit α :=
  match l.find? r field with
  | some found => readAt decode found
  | none => .ok default

/-- A field that may be left out by name, or be null. A list has a place for it all the same. -/
def optional {α : Type} (r : Record) (decode : SettingTree → Except Misfit α) (field : String)
    (l : Layout) : Except Misfit (Option α) :=
  match l.find? r field, l with
  | some (_, .scalar _ .null), _ => .ok none
  | some found, _ => (readAt decode found).map some
  | none, .named _ => .ok none
  | none, .listed _ => .error (l.lacking r field)

end Layout
end Gatehouse.SettingTree
