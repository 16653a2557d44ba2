import Gatehouse.Text.Decimal

/-!
# Gatehouse.Log.Level

How much a log shows: a name in letters of any case, or a number from 0 (nothing) to 5 (all).
-/

namespace Gatehouse.Log

inductive Level where
  | off
  | error
  | warn
  | info
  | debug
  | trace
  deriving DecidableEq, Repr

namespace Level

def all : List Level := [.off, .error, .warn, .info, .debug, .trace]

def name : Level → String
  | .off => "off"
  | .error => "error"
  | .warn => "warn"
  | .info => "info"
  | .debug => "debug"
  | .trace => "trace"

def number? : List Char → Option Nat
  | '+' :: cs => Decimal.nat? cs
  | cs => Decimal.nat? cs

/-- The level that a text names. The empty text is the level of errors. -/
def read? (cs : List Char) : Option Level :=
  match number? cs with
  | some n => all[n]?
  | none =>
    if cs = [] then some .error
    else all.find? fun level => level.name.toList = cs.map Char.toLower

theorem read?_name (level : Level) : read? level.name.toList = some level := by
  cases level <;> decide +kernel

end Level

end Gatehouse.Log
