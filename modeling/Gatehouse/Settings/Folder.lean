/-!
# Gatehouse.Settings.Folder

Finding a settings file in a folder. A path that is a file is read in the format of its extension;
any other path is tried with each extension that has a format.
-/

namespace Gatehouse

inductive SettingsFormat where
  | toml
  | json
  deriving DecidableEq, Repr

namespace SettingsFormat

def extensions : List (String × SettingsFormat) := [("toml", .toml), ("json", .json)]

end SettingsFormat

/-- The files under a folder, and the folders under it that may hold no file. -/
structure Folder where
  files : List (List String × String)
  folders : List (List String) := []

namespace Folder

def isFolder (path : List String) (f : Folder) : Bool :=
  path = [] || f.folders.contains path ||
    f.files.any fun e => path.isPrefixOf e.1 && path.length < e.1.length

/-- One name further from a place. Two dots lead back, out of the folder if need be. -/
def step (place : List String) (name : String) : List String :=
  if name = ".." ∧ place ≠ [] ∧ place.getLast? ≠ some ".." then place.dropLast
  else place ++ [name]

def walk (f : Folder) : List String → List String → Option (List String)
  | place, [] => some place
  | place, name :: names =>
    if f.isFolder place then walk f (step place name) names else none

def content? (f : Folder) (names : List String) : Option String :=
  (f.walk [] names).bind (f.files.lookup ·)

def parts (path : String) : List String := (path.toList.splitOn '/').map String.ofList

/-- The names in a path that lead somewhere. A path from the root begins with an empty name. -/
def names (path : String) : List String :=
  let names := (parts path).filter fun name => name ≠ "" ∧ name ≠ "."
  if path.toList.head? = some '/' then "" :: names else names

def namesFolder (path : String) : Bool := ["", "."].contains ((parts path).getLastD "")

/-- What stands behind the last dot of a name, unless that dot is its first character. -/
def extension? (name : String) : Option String :=
  match (name.toList.splitOn '.').reverse with
  | ext :: stem :: rest => if rest = [] ∧ stem = [] then none else some (String.ofList ext)
  | _ => none

structure SettingsFile where
  path : String
  content : String
  format : SettingsFormat

/-- The file of this path and no other, `none` inside if nothing is known of its extension. -/
def fileAt? (f : Folder) (path : String) : Option (Option SettingsFile) :=
  if namesFolder path then none
  else (f.content? (names path)).map fun content =>
    match (extension? ((names path).getLastD "")).bind (SettingsFormat.extensions.lookup ·) with
    | some format => some ⟨"/".intercalate (names path), content, format⟩
    | none => none

def fileBeside? (f : Folder) (path : String) : Option SettingsFile :=
  match (names path).reverse with
  | [] => none
  | last :: before =>
    if last = "" ∨ last = ".." then none
    else SettingsFormat.extensions.findSome? fun (ext, format) =>
      let names := ((last ++ "." ++ ext) :: before).reverse
      (f.content? names).map fun content => ⟨"/".intercalate names, content, format⟩

def find? (f : Folder) (path : String) : Option SettingsFile :=
  match f.fileAt? path with
  | some found => found
  | none => f.fileBeside? path

end Folder
end Gatehouse
