import Gatehouse.Settings.Basic
import Gatehouse.Settings.Sources

/-!
# Gatehouse.Settings.Load

Loading the settings: those of a file, and over them those of the environment.
-/

namespace Gatehouse

inductive SettingsError where
  /-- There is no file, or nothing is known of its format. -/
  | noFile
  | badFile
  | misfit (m : Misfit)

namespace SettingsError

def message : SettingsError → String
  | .noFile => "configuration file not found"
  | .badFile => "configuration file cannot be read"
  | .misfit m => m.message

end SettingsError

namespace Settings

def defaultPath : String := "settings/dev.toml"

def withSource (t : SettingTree) (es : Fields SettingTree) : SettingTree :=
  es.foldl (fun t e => t.assigned e.1 e.2) t

def ofFile (environment : Environment) (file : Folder.SettingsFile) :
    Except SettingsError Settings :=
  match file.read? with
  | none => .error .badFile
  | some es =>
    let t := [es, environment.read].foldl withSource .empty
    (ofTree t).mapError .misfit

/-- The settings of the file that a path names in a folder, under the environment. -/
def load (folder : Folder) (environment : Environment) (path : Option String) :
    Except SettingsError Settings :=
  match folder.find? (path.getD defaultPath) with
  | none => .error .noFile
  | some file => ofFile environment file

end Settings
end Gatehouse
