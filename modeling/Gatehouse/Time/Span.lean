/-!
# Gatehouse.Time.Span

Lengths of time, counted in nanoseconds, and their written form: the largest unit that is not above
the length, with as many decimals as the length needs.
-/

namespace Gatehouse

structure Span where
  nanos : Nat
  deriving DecidableEq, Inhabited

namespace Span

def second : Nat := 1000000000

def ofSecs (n : Nat) : Span := ⟨n * second⟩

def ofMillis (n : Nat) : Span := ⟨n * 1000000⟩

def ofParts (secs nanos : Nat) : Span := ⟨secs * second + nanos⟩

def isZero (s : Span) : Bool := s.nanos == 0

def secs (s : Span) : Nat := s.nanos / second

def subsec (s : Span) : Nat := s.nanos % second

def millis (s : Span) : Nat := s.nanos / 1000000

/-- A count in units of `10 ^ places`, with the decimals that are not zero at the end. -/
def decimal (places n : Nat) : String :=
  let fraction := n % Nat.pow 10 places
  let digits := (Nat.toDigits 10 fraction)
  let padded := List.replicate (places - digits.length) '0' ++ digits
  let kept := (padded.reverse.dropWhile (· = '0')).reverse
  let whole := toString (n / Nat.pow 10 places)
  if fraction = 0 then whole else whole ++ "." ++ String.ofList kept

def text (s : Span) : String :=
  if second ≤ s.nanos then decimal 9 s.nanos ++ "s"
  else if 1000000 ≤ s.nanos then decimal 6 s.nanos ++ "ms"
  else if 1000 ≤ s.nanos then decimal 3 s.nanos ++ "µs"
  else toString s.nanos ++ "ns"

/-- The longest length that can be added to an instant: the largest signed count of milliseconds. -/
def longest : Nat := 0x7fffffffffffffff * 1000000

end Span
end Gatehouse
