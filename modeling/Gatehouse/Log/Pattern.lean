import Gatehouse.Bytes.Hex
import Gatehouse.Text.Alphanumeric

/-!
# Gatehouse.Log.Pattern

Which texts are patterns for the values of fields: regular expressions with groups, classes,
alternatives and signs of repetition. Counts in braces, references to groups, looks ahead or back,
and edges of words are no part of a pattern here.
-/

namespace Gatehouse.Log.Pattern

/-! ## Behind a backslash -/

inductive Escape where
  | char (c : Char)
  | set
  | edge
  deriving DecidableEq, Repr

def code? (count : Nat) (cs : List Char) : Option (Escape × List Char) :=
  if cs.length < count then none
  else
    (Hex.number? (cs.take count)).bind fun n =>
      if n.isValidChar then some (.char (.ofNat n), cs.drop count) else none

def categories : List Char := "CLMNPSZclmnpsz".toList

def isSign (c : Char) : Bool :=
  c.toNat < 128 && !c.isAlphanum && c ≠ '<' && c ≠ '>'

def escape? : List Char → Option (Escape × List Char)
  | [] => none
  | c :: cs =>
    if "dDsSwW".toList.contains c then some (.set, cs)
    else if c = 'A' ∨ c = 'z' then some (.edge, cs)
    else if c = 'p' ∨ c = 'P' then
      if cs.head?.any categories.contains then some (.set, cs.tail) else none
    else if c = 'x' then code? 2 cs
    else if c = 'u' then code? 4 cs
    else if c = 'U' then code? 8 cs
    else if isSign c then some (.char c, cs)
    else
      match c with
      | 'a' => some (.char '\x07', cs)
      | 'f' => some (.char '\x0c', cs)
      | 'n' => some (.char '\n', cs)
      | 'r' => some (.char '\r', cs)
      | 't' => some (.char '\t', cs)
      | 'v' => some (.char '\x0b', cs)
      | _ => none

/-! ## Classes -/

def classNames : List String :=
  ["alnum", "alpha", "ascii", "blank", "cntrl", "digit", "graph", "lower", "print", "punct",
    "space", "upper", "word", "xdigit"]

def named? : List Char → Option (List Char)
  | ':' :: cs =>
    let cs := if cs.head? = some '^' then cs.tail else cs
    match cs.dropWhile (· ≠ ':') with
    | ':' :: ']' :: rest =>
      if classNames.contains (String.ofList (cs.takeWhile (· ≠ ':'))) then some rest else none
    | _ => none
  | _ => none

/-- The content of a class behind its opening bracket, without what may stand at its start: a sign
of negation, and then dashes or a closing bracket that stand for themselves. -/
def openClass (cs : List Char) : List Char :=
  let cs := if cs.head? = some '^' then cs.tail else cs
  match cs with
  | ']' :: rest => rest
  | cs => cs.dropWhile (· = '-')

def item? : List Char → Option (Option Char × List Char)
  | '\\' :: cs =>
    match escape? cs with
    | some (.char c, rest) => some (some c, rest)
    | some (.set, rest) => some (none, rest)
    | _ => none
  | c :: cs => some (some c, cs)
  | [] => none

def range? (cs : List Char) : Option (List Char) :=
  match item? cs with
  | some (first, '-' :: rest) =>
    if rest.head? = some ']' ∨ rest.head? = some '-' then some ('-' :: rest)
    else
      match first, item? rest with
      | some a, some (some b, rest) => if a ≤ b then some rest else none
      | _, _ => none
  | some (_, rest) => some rest
  | none => none

def closeClass? : Nat → Nat → List Char → Option (List Char)
  | 0, _, _ => none
  | fuel + 1, depth, cs =>
    match cs with
    | '[' :: rest =>
      match named? rest with
      | some rest => closeClass? fuel depth rest
      | none => closeClass? fuel (depth + 1) (openClass rest)
    | ']' :: rest => if depth = 0 then some rest else closeClass? fuel (depth - 1) rest
    | '&' :: '&' :: rest => closeClass? fuel depth rest
    | '-' :: '-' :: rest => closeClass? fuel depth rest
    | '~' :: '~' :: rest => closeClass? fuel depth rest
    | cs => (range? cs).bind (closeClass? fuel depth)

/-! ## Groups -/

def groupName? (cs : List Char) : Option (List Char) :=
  match cs.takeWhile (· ≠ '>'), cs.dropWhile (· ≠ '>') with
  | c :: name, '>' :: rest =>
    if (c = '_' ∨ (Text.isAlphanumeric c ∧ !c.isDigit)) ∧
        name.all (fun c => Text.isAlphanumeric c || "_.[]".toList.contains c) then
      some rest
    else none
  | _, _ => none

/-- Letters that change how a pattern is read, each at most once. A dash takes back those after it.
-/
def areFlags (cs : List Char) : Bool :=
  cs.all "imsUuRx-".toList.contains && cs.eraseDups.length = cs.length && cs.getLast? ≠ some '-'

/-- What follows an opening parenthesis with its name or its flags, and whether it opens a group:
flags that are closed at once do not. -/
def openGroup? : List Char → Option (Bool × List Char)
  | '?' :: 'P' :: '<' :: cs => (groupName? cs).map (true, ·)
  | '?' :: '<' :: cs => (groupName? cs).map (true, ·)
  | '?' :: cs =>
    let flags := cs.takeWhile fun c => c ≠ ':' && c ≠ ')'
    match cs.drop flags.length with
    | ':' :: rest => if areFlags flags then some (true, rest) else none
    | ')' :: rest => if areFlags flags ∧ flags ≠ [] then some (false, rest) else none
    | _ => none
  | cs => some (true, cs)

/-! ## Patterns -/

/-- Whether a pattern goes on well inside `depth` groups; `repeatable` tells whether there is
something before that a sign of repetition can mean. -/
def goesOn : Nat → Nat → Bool → List Char → Bool
  | 0, _, _, _ => false
  | fuel + 1, depth, repeatable, cs =>
    match cs with
    | [] => depth = 0
    | '(' :: rest =>
      match openGroup? rest with
      | some (true, rest) => goesOn fuel (depth + 1) false rest
      | some (false, rest) => goesOn fuel depth false rest
      | none => false
    | ')' :: rest => depth ≠ 0 && goesOn fuel (depth - 1) true rest
    | '|' :: rest => goesOn fuel depth false rest
    | '[' :: rest => (closeClass? (rest.length + 1) 0 (openClass rest)).any (goesOn fuel depth true)
    | '\\' :: rest => (escape? rest).any fun e => goesOn fuel depth true e.2
    | '\x7b' :: _ => false
    | c :: rest => (!("*+?".toList.contains c) || repeatable) && goesOn fuel depth true rest

def isValid (cs : List Char) : Bool := goesOn (cs.length + 1) 0 false cs

end Gatehouse.Log.Pattern
