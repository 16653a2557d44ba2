import Gatehouse.Log.Level
import Gatehouse.Log.Pattern
import Gatehouse.Number.Written
import Gatehouse.Text.Blank

/-!
# Gatehouse.Log.Filter

Which texts are log filters. A filter is a list of directives between commas, and a directive is
read letter by letter: a target, then a span with its fields in brackets, then an equals sign and a
level, each part but one being optional.

The letters that drive the reading are those of the directive without its blank ends, but the parts
are cut from the directive as it stands, at the same distances in bytes. A directive with a blank
start is therefore cut too early, and one with a blank end keeps that blank in its level.
-/

namespace Gatehouse.Log

inductive FilterFault where
  | invalid
  /-- A part would begin or end inside a character. -/
  | misaligned
  deriving DecidableEq, Repr

namespace Filter

/-- What is being read of a directive. A part that is looked at as a whole keeps the byte at which
it began. -/
inductive Phase where
  | start
  | target
  | span (first : Nat)
  | field (first : Nat)
  | fields
  | afterSpan
  | level (first : Nat)
  deriving DecidableEq, Repr

def drop? (bytes : Nat) : List Char → Option (List Char)
  | [] => if bytes = 0 then some [] else none
  | c :: cs =>
    if bytes = 0 then some (c :: cs)
    else if c.utf8Size ≤ bytes then drop? (bytes - c.utf8Size) cs
    else none

def take? (bytes : Nat) : List Char → Option (List Char)
  | [] => if bytes = 0 then some [] else none
  | c :: cs =>
    if bytes = 0 then some []
    else if c.utf8Size ≤ bytes then (take? (bytes - c.utf8Size) cs).map (c :: ·)
    else none

def cut (first last : Nat) (cs : List Char) : Except FilterFault (List Char) :=
  match (drop? first cs).bind (take? (last - first)) with
  | some part => .ok part
  | none => .error .misaligned

def isValue (cs : List Char) : Bool := (Binary64.read? cs).isSome || Pattern.isValid cs

/-- A field is a name, or a name and a value between equals signs. What stands behind a second
equals sign is not looked at. -/
def checkField (part : List Char) : Except FilterFault Unit :=
  if part = [] then .error .invalid
  else
    match part.dropWhile (· ≠ '=') with
    | _ :: rest => if isValue (rest.takeWhile (· ≠ '=')) then .ok () else .error .invalid
    | [] => .ok ()

/-- A level may be left out after its equals sign. -/
def checkLevel (part : List Char) : Except FilterFault Unit :=
  if part = [] ∨ (Level.read? part).isSome then .ok () else .error .invalid

/-- The phase after letter `c`, which stands `offset` bytes into a directive without its blank
ends; `text` is the directive as it stands. -/
def Phase.step (text : List Char) (offset : Nat) (c : Char) : Phase → Except FilterFault Phase
  | .start =>
    if c = '[' then .ok (.span (offset + 1))
    else if c = '-' ∨ c = ':' ∨ c = '_' ∨ Text.isAlphanumeric c then .ok .target
    else .error .invalid
  | .target =>
    if c = '=' then (cut 0 offset text).map fun _ => .level (offset + 1)
    else if c = '[' then (cut 0 offset text).map fun _ => .span (offset + 1)
    else .ok .target
  | .span first =>
    if c = ']' then (cut first offset text).map fun _ => .afterSpan
    else if c = '\x7b' then (cut first offset text).map fun _ => .field (offset + 1)
    else .ok (.span first)
  | .field first =>
    if c = '\x7d' then ((cut first offset text).bind checkField).map fun _ => .fields
    else .ok (.field first)
  | .fields => if c = ']' then .ok .afterSpan else .error .invalid
  | .afterSpan => if c = '=' then .ok (.level (offset + 1)) else .error .invalid
  | .level first => .ok (.level first)

def Phase.finish (text : List Char) : Phase → Except FilterFault Unit
  | .target => .ok ()
  | .afterSpan => .ok ()
  | .level first =>
    match drop? first text with
    | some part => checkLevel part
    | none => .error .misaligned
  | _ => .error .invalid

def Phase.run (text : List Char) : Phase → Nat → List Char → Except FilterFault Unit
  | phase, _, [] => phase.finish text
  | phase, offset, c :: cs =>
    (phase.step text offset c).bind fun next => next.run text (offset + c.utf8Size) cs

def checkDirective (text : List Char) : Except FilterFault Unit :=
  Phase.run text .start 0 (Text.trimmed text)

def directives (filter : String) : List (List Char) :=
  (filter.toList.splitOn ',').filter (· ≠ [])

def check (filter : String) : Except FilterFault Unit :=
  (directives filter).forM checkDirective

end Filter
end Gatehouse.Log
