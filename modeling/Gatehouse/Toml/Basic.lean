import Gatehouse.Number.Binary64

/-!
# Gatehouse.Toml.Basic

TOML values. Dates and times are kept as texts of one form.
-/

namespace Gatehouse

inductive Toml where
  | text (s : String)
  | integer (i : Int)
  | float (x : Binary64)
  | bool (b : Bool)
  | date (s : String)
  | array (items : List Toml)
  | table (entries : List (String × Toml))

end Gatehouse
