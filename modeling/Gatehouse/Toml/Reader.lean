import Gatehouse.Toml.Scalar
import Gatehouse.Toml.Quoted
import Gatehouse.Toml.Tree

/-!
# Gatehouse.Toml.Reader

Reading a TOML document. Each line is a header, a key with its value, or nothing; values in
brackets may go over several lines.
-/

namespace Gatehouse.Toml

/-! ## Gaps, comments and line ends -/

def skipGap (cs : List Char) : List Char := cs.dropWhile isGap

/-- What follows gaps, line breaks and comments; `comment` tells whether one is being read. -/
def skipLines : Bool → List Char → Option (List Char)
  | _, [] => some []
  | _, '\n' :: cs => skipLines false cs
  | _, '\r' :: '\n' :: cs => skipLines false cs
  | true, c :: cs => if isPlain c then skipLines true cs else none
  | false, c :: cs =>
    if isGap c then skipLines false cs
    else if c = '#' then skipLines true cs
    else some (c :: cs)

def endLine? (cs : List Char) : Option (List Char) :=
  match skipGap cs with
  | [] => some []
  | '\n' :: rest => some rest
  | '\r' :: '\n' :: rest => some rest
  | '#' :: rest =>
    match rest.dropWhile isPlain with
    | [] => some []
    | '\n' :: rest => some rest
    | '\r' :: '\n' :: rest => some rest
    | _ => none
  | _ => none

/-! ## Keys -/

def isBareKey (c : Char) : Bool := c.isAlphanum || c = '_' || c = '-'

/-- One part of a key: bare, or in quotes on one line. -/
def readPart : List Char → Option (String × List Char)
  | '"' :: rest =>
    (readBasic (rest.length + 1) rest).map fun (s, rest) => (String.ofList s, rest)
  | '\x27' :: rest => (readLiteral rest).map fun (s, rest) => (String.ofList s, rest)
  | cs =>
    let name := cs.takeWhile isBareKey
    if name = [] then none else some (String.ofList name, cs.dropWhile isBareKey)

def readKey : Nat → List Char → Option (List String × List Char)
  | 0, _ => none
  | fuel + 1, cs =>
    match readPart (skipGap cs) with
    | none => none
    | some (part, rest) =>
      match skipGap rest with
      | '.' :: rest => (readKey fuel rest).map fun (parts, rest) => (part :: parts, rest)
      | rest => some ([part], rest)

/-! ## Values -/

def isScalar (c : Char) : Bool :=
  c.isAlphanum || c = '+' || c = '-' || c = '_' || c = '.' || c = ':'

/-- The characters of an unquoted value, and what follows. A date may have its time behind one
blank. -/
def spanScalar (cs : List Char) : List Char × List Char :=
  let first := cs.takeWhile isScalar
  let rest := cs.dropWhile isScalar
  match date? first, rest with
  | some (_, []), ' ' :: d :: more =>
    if d.isDigit then
      (first ++ ' ' :: (d :: more).takeWhile isScalar, (d :: more).dropWhile isScalar)
    else (first, rest)
  | _, _ => (first, rest)

def readScalar (cs : List Char) : Option (Toml × List Char) :=
  (scalar? (spanScalar cs).1).map (·, (spanScalar cs).2)

mutual

/-- The value at the front, and what follows. Each value and each step along brackets takes one of
the `fuel`; brackets nest at most `room` deep. -/
def readValue : Nat → Nat → List Char → Option (Toml × List Char)
  | 0, _, _ => none
  | fuel + 1, room, cs =>
    match room, cs with
    | room + 1, '[' :: rest =>
      (readItems fuel room rest).map fun (items, rest) => (.array items, rest)
    | room + 1, '\x7b' :: rest =>
      (readEntries fuel room [] rest).map fun (es, rest) => (.table (Tree.entriesToToml es), rest)
    | _, c :: rest =>
      if c = '"' ∨ c = '\x27' then
        (readQuoted (c :: rest)).map fun (s, rest) => (.text (String.ofList s), rest)
      else readScalar (c :: rest)
    | _, [] => none

/-- The items of an array up to its closing bracket. A comma may stand behind the last one. -/
def readItems : Nat → Nat → List Char → Option (List Toml × List Char)
  | 0, _, _ => none
  | fuel + 1, room, cs =>
    match skipLines false cs with
    | some (']' :: rest) => some ([], rest)
    | some cs =>
      match readValue fuel room cs with
      | none => none
      | some (v, rest) =>
        match skipLines false rest with
        | some (']' :: rest) => some ([v], rest)
        | some (',' :: rest) => (readItems fuel room rest).map fun (vs, rest) => (v :: vs, rest)
        | _ => none
    | none => none

def readEntries : Nat → Nat → Tree.Entries → List Char → Option (Tree.Entries × List Char)
  | 0, _, _, _ => none
  | fuel + 1, room, es, cs =>
    match skipLines false cs with
    | some ('\x7d' :: rest) => some (es, rest)
    | some cs =>
      match readKey (cs.length + 1) cs with
      | some (key, '=' :: rest) =>
        match readValue fuel room (skipGap rest) with
        | none => none
        | some (v, rest) =>
          match Tree.insert v key es with
          | none => none
          | some es =>
            match skipLines false rest with
            | some ('\x7d' :: rest) => some (es, rest)
            | some (',' :: rest) => readEntries fuel room es rest
            | _ => none
      | _ => none
    | none => none

end

/-! ## Documents -/

def deepest : Nat := 80

/-- A document in the making: its table, and the path of the last header. -/
structure Draft where
  entries : Tree.Entries := []
  path : List String := []

def splitLast : List String → Option (List String × String)
  | [] => none
  | [k] => some ([], k)
  | k :: ks => (splitLast ks).map fun (path, last) => (k :: path, last)

/-- Adds a header; `doubled` tells whether it stands in doubled brackets. -/
def Draft.header (doubled : Bool) (key : List String) (d : Draft) : Option Draft := do
  let (path, last) ← splitLast key
  let entries ← Tree.within (if doubled then Tree.extend last else Tree.declare last) path d.entries
  some { entries, path := key }

def Draft.insert (key : List String) (v : Toml) (d : Draft) : Option Draft := do
  let entries ← Tree.within (Tree.insert v key) d.path d.entries
  some { d with entries }

/-- What the statement at the front makes of a document, and what follows its line. -/
def readStatement (cs : List Char) (d : Draft) : Option (Draft × List Char) :=
  match cs with
  | '[' :: '[' :: rest =>
    match readKey (rest.length + 1) rest with
    | some (key, ']' :: ']' :: rest) => do
      let d ← d.header true key
      (endLine? rest).map (d, ·)
    | _ => none
  | '[' :: rest =>
    match readKey (rest.length + 1) rest with
    | some (key, ']' :: rest) => do
      let d ← d.header false key
      (endLine? rest).map (d, ·)
    | _ => none
  | cs =>
    match readKey (cs.length + 1) cs with
    | some (key, '=' :: rest) => do
      let (v, rest) ← readValue (2 * rest.length + 2) deepest (skipGap rest)
      let d ← d.insert key v
      (endLine? rest).map (d, ·)
    | _ => none

def readStatements : Nat → List Char → Draft → Option Draft
  | 0, _, _ => none
  | fuel + 1, cs, d =>
    match skipLines false cs with
    | none => none
    | some [] => some d
    | some cs =>
      match readStatement cs d with
      | some (d, rest) => readStatements fuel rest d
      | none => none

def read? (document : String) : Option (Fields Toml) :=
  let cs := document.toList
  (readStatements (cs.length + 1) cs {}).map fun d => Tree.entriesToToml d.entries

end Gatehouse.Toml
