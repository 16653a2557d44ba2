import Gatehouse.Bytes.Hex

/-!
# Gatehouse.Toml.Quoted

TOML texts in quotes. Double quotes allow escapes, single ones take every character as it stands;
three of a kind enclose a text of several lines, whose first line break is dropped when nothing
stands before it.
-/

namespace Gatehouse.Toml

def isPlain (c : Char) : Bool := c = '\t' || (' ' ≤ c && c ≠ '\x7f')

def isGap (c : Char) : Bool := c = ' ' || c = '\t'

/-! ## Escapes -/

def escaped? : Char → Option Char
  | 'b' => some '\x08'
  | 't' => some '\t'
  | 'n' => some '\n'
  | 'f' => some '\x0c'
  | 'r' => some '\r'
  | 'e' => some '\x1b'
  | '"' => some '"'
  | '\\' => some '\\'
  | _ => none

def codePoint? (digits : List Char) : Option Char :=
  match Hex.number? digits with
  | some n => if h : n.isValidChar then some (Char.ofNatAux n h) else none
  | none => none

def escape? : List Char → Option (Char × List Char)
  | 'x' :: a :: b :: rest => (codePoint? [a, b]).map (·, rest)
  | 'u' :: a :: b :: c :: d :: rest => (codePoint? [a, b, c, d]).map (·, rest)
  | 'U' :: a :: b :: c :: d :: e :: f :: g :: h :: rest =>
    (codePoint? [a, b, c, d, e, f, g, h]).map (·, rest)
  | c :: rest => (escaped? c).map (·, rest)
  | [] => none

/-! ## Texts of one line -/

/-- The text up to its closing double quote, and what follows. Each character takes one of the
`fuel`. -/
def readBasic : Nat → List Char → Option (List Char × List Char)
  | 0, _ => none
  | fuel + 1, cs =>
    match cs with
    | '"' :: rest => some ([], rest)
    | '\\' :: rest =>
      match escape? rest with
      | some (c, rest) => (readBasic fuel rest).map fun (s, rest) => (c :: s, rest)
      | none => none
    | c :: rest =>
      if isPlain c then (readBasic fuel rest).map fun (s, rest) => (c :: s, rest) else none
    | [] => none

def readLiteral : List Char → Option (List Char × List Char)
  | '\x27' :: rest => some ([], rest)
  | c :: rest =>
    if isPlain c then (readLiteral rest).map fun (s, rest) => (c :: s, rest) else none
  | [] => none

/-! ## Texts of several lines -/

/-- What follows the gaps and line breaks behind a backslash that ends a line. -/
def skipFold : List Char → List Char
  | '\n' :: rest => skipFold rest
  | '\r' :: '\n' :: rest => skipFold rest
  | ' ' :: rest => skipFold rest
  | '\t' :: rest => skipFold rest
  | rest => rest

def endsLine (cs : List Char) : Bool :=
  match cs.dropWhile isGap with
  | '\n' :: _ => true
  | '\r' :: '\n' :: _ => true
  | _ => false

/-- Three closing quotes; one or two more of them before belong to the text. -/
def closing? (quote : Char) : List Char → Option (List Char × List Char)
  | a :: b :: c :: rest =>
    if a = quote ∧ b = quote ∧ c = quote then
      match rest with
      | d :: e :: more =>
        if d = quote ∧ e = quote then some ([quote, quote], more)
        else if d = quote then some ([quote], e :: more)
        else some ([], d :: e :: more)
      | [d] => if d = quote then some ([quote], []) else some ([], [d])
      | [] => some ([], [])
    else none
  | _ => none

/-- The text up to its three closing quotes, and what follows. A line break is written as a line
feed, with or without a carriage return before it. -/
def readLines (quote : Char) (escapes : Bool) : Nat → List Char → Option (List Char × List Char)
  | 0, _ => none
  | fuel + 1, cs =>
    match closing? quote cs with
    | some r => some r
    | none =>
      match cs with
      | '\r' :: '\n' :: rest =>
        (readLines quote escapes fuel rest).map fun (s, rest) => ('\n' :: s, rest)
      | c :: rest =>
        if c = '\\' ∧ escapes then
          if endsLine rest then readLines quote escapes fuel (skipFold rest)
          else match escape? rest with
            | some (c, rest) =>
              (readLines quote escapes fuel rest).map fun (s, rest) => (c :: s, rest)
            | none => none
        else if isPlain c ∨ c = '\n' then
          (readLines quote escapes fuel rest).map fun (s, rest) => (c :: s, rest)
        else none
      | [] => none

def dropBreak : List Char → List Char
  | '\n' :: rest => rest
  | '\r' :: '\n' :: rest => rest
  | cs => cs

def readQuoted : List Char → Option (List Char × List Char)
  | '"' :: '"' :: '"' :: rest => readLines '"' true (rest.length + 1) (dropBreak rest)
  | '"' :: rest => readBasic (rest.length + 1) rest
  | '\x27' :: '\x27' :: '\x27' :: rest => readLines '\x27' false (rest.length + 1) (dropBreak rest)
  | '\x27' :: rest => readLiteral rest
  | _ => none

end Gatehouse.Toml
