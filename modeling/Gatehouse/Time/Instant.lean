import Gatehouse.Time.Span
import Gatehouse.Time.Calendar

/-!
# Gatehouse.Time.Instant

Instants of the wall clock, counted in nanoseconds from 1970-01-01 UTC, and the range of the
calendar: an instant that a span leads out of it does not exist.
-/

namespace Gatehouse

structure Instant where
  nanos : Int
  deriving DecidableEq, Inhabited

namespace Instant

def ofParts (secs : Int) (nanos : Nat) : Instant := ⟨secs * Span.second + nanos⟩

/-- The whole seconds, rounded down. -/
def secs (t : Instant) : Int := t.nanos / Span.second

def subsec (t : Instant) : Nat := (t.nanos % Span.second).toNat

/-- Seconds of the first instant, the start of the year -262143. -/
def firstSecs : Int := -8334601228800

/-- Seconds of the last instant, the end of the year 262142. -/
def lastSecs : Int := 8210266876799

def inCalendar (secs : Int) : Bool := firstSecs ≤ secs && secs ≤ lastSecs

def ofSecs? (secs : Int) : Option Instant :=
  if inCalendar secs then some (ofParts secs 0) else none

/-- The instant a span later, whether or not the calendar has it. -/
def after (t : Instant) (s : Span) : Instant := ⟨t.nanos + s.nanos⟩

/-- The instant a span later, if the calendar has it. -/
def later? (t : Instant) (s : Span) : Option Instant :=
  let u : Instant := ⟨t.nanos + s.nanos⟩
  if inCalendar u.secs then some u else none

/-- The fraction of the second in the fewest of 0, 3, 6 or 9 digits. -/
def fractionText (n : Nat) : String :=
  if n = 0 then ""
  else if n % 1000000 = 0 then "." ++ Date.padded 3 (n / 1000000)
  else if n % 1000 = 0 then "." ++ Date.padded 6 (n / 1000)
  else "." ++ Date.padded 9 n

def text (t : Instant) : String :=
  let date := Date.ofDayNumber (t.secs / 86400)
  let clock := (t.secs % 86400).toNat
  date.text ++ "T" ++ Date.padded 2 (clock / 3600) ++ ":" ++ Date.padded 2 (clock / 60 % 60) ++
    ":" ++ Date.padded 2 (clock % 60) ++ fractionText t.subsec ++ "Z"

end Instant
end Gatehouse
