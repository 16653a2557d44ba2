import Gatehouse.Settings.Folder
import Gatehouse.Settings.KeyPath
import Gatehouse.Toml.Reader
import Gatehouse.Json.Reader
import Gatehouse.Json.Sound
import Gatehouse.Number.Written

/-!
# Gatehouse.Settings.Sources

Where settings come from: a file in one of the formats, and the environment. Each source is a list
of keys with trees; a value bears the name of its source.
-/

namespace Gatehouse

namespace SettingTree

mutual

/-- A date is a text like any other. -/
def ofToml (origin : String) : Toml → SettingTree
  | .text s => .scalar origin (.text s)
  | .integer i => .scalar origin (.integer i)
  | .float x => .scalar origin (.float x)
  | .bool b => .scalar origin (.flag b)
  | .date s => .scalar origin (.text s)
  | .array items => .list origin (ofTomlItems origin items)
  | .table entries => .table origin (ofTomlEntries origin entries)

def ofTomlItems (origin : String) : List Toml → List SettingTree
  | [] => []
  | v :: vs => ofToml origin v :: ofTomlItems origin vs

def ofTomlEntries (origin : String) : List (String × Toml) → Fields SettingTree
  | [] => []
  | (k, v) :: es => (k, ofToml origin v) :: ofTomlEntries origin es

end

/-- A number of 64 bits and a sign is an integer, and any other is a binary64 number. -/
def ofNumeral? (n : Numeral) : Option Scalar :=
  match n.int64? with
  | some i => some (.integer i)
  | none => n.binary64?.map .float

mutual

/-- A document with garbled text, or with a number beyond all formats, is none. -/
def ofJson? (origin : String) : Json → Option SettingTree
  | .null => some (.scalar origin .null)
  | .bool b => some (.scalar origin (.flag b))
  | .number n => (ofNumeral? n).map (.scalar origin)
  | .text s => some (.scalar origin (.text s))
  | .garbled => none
  | .array items => (ofJsonItems? origin items).map (.list origin)
  | .object members => (ofJsonMembers? origin [] members).map (.table origin)

def ofJsonItems? (origin : String) : List Json → Option (List SettingTree)
  | [] => some []
  | v :: vs => do
    let t ← ofJson? origin v
    let ts ← ofJsonItems? origin vs
    some (t :: ts)

/-- Of members with one name the last one counts. -/
def ofJsonMembers? (origin : String) (es : Fields SettingTree) :
    List (String × Json) → Option (Fields SettingTree)
  | [] => some es
  | (k, v) :: members => do
    let t ← ofJson? origin v
    ofJsonMembers? origin (es.set k t) members

end

end SettingTree

namespace Folder.SettingsFile

def body (f : SettingsFile) : String :=
  match f.content.toList with
  | c :: cs => if c = '\ufeff' then String.ofList cs else f.content
  | [] => f.content

def deepest : Nat := 127

def read? (f : SettingsFile) : Option (Fields SettingTree) :=
  match f.format with
  | .toml => (Toml.read? f.body).map (SettingTree.ofTomlEntries f.path)
  | .json =>
    match ((Json.read? f.body).filter (Json.isSound deepest)).bind (SettingTree.ofJson? f.path) with
    | some (.table _ es) => some es
    | _ => none

end Folder.SettingsFile

/-! ## The environment -/

abbrev Environment := List (String × String)

namespace Environment

def origin : String := "the environment"

def namePrefix : List Char := "turnstile__".toList

/-- The lower case of a letter, as far as it matters for names: that of the letters A to Z, and that
of the sign for kelvin. -/
def lower (c : Char) : Char := if c = '\u212a' then 'k' else c.toLower

def dotted : List Char → List Char
  | '_' :: '_' :: cs => '.' :: dotted cs
  | c :: cs => c :: dotted cs
  | [] => []

def key? (name : String) : Option String :=
  let cs := name.toList.map lower
  if namePrefix.isPrefixOf cs then some (String.ofList (dotted (cs.drop namePrefix.length)))
  else none

def nameOf (key : String) : String :=
  "TURNSTILE__" ++ String.ofList (key.toList.flatMap fun c =>
    if c = '.' then ['_', '_'] else [c.toUpper])

/-- The value that a text is: a truth value, a number, or else itself. -/
def scalar (v : String) : Scalar :=
  let word := v.toList.map Char.toLower
  if word = "true".toList then .flag true
  else if word = "false".toList then .flag false
  else
    match Decimal.int64? v with
    | some i => .integer i
    | none =>
      match Binary64.read? v.toList with
      | some x => .float x
      | none => .text v

def read (e : Environment) : Fields SettingTree :=
  e.foldl
    (fun es (name, v) =>
      match key? name with
      | some key => Fields.set key (.scalar (some origin) (scalar v)) es
      | none => es)
    []

end Environment
end Gatehouse
