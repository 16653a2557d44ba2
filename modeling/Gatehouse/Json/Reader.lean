import Gatehouse.Json.Basic
import Gatehouse.Text.Utf8
import Gatehouse.Bytes.Hex

/-!
# Gatehouse.Json.Reader

Reading JSON from letters, that is, from characters among which stray bytes may stand. The grammar
decides whether there is a value (`read?`); what a string is worth is decided per string, so a
stray byte inside a string that nobody reads does no harm.
-/

namespace Gatehouse.Json

abbrev Letters := List (Option Char)

def skipBlank (ls : Letters) : Letters :=
  ls.dropWhile fun l => l = some ' ' || l = some '\t' || l = some '\n' || l = some '\r'

/-! ## Strings -/

/-- What stands between the quotes: letters, characters behind a backslash, and code units. -/
inductive Piece where
  | char (c : Char)
  | unit (n : Nat)
  | stray

def escaped? : Char → Option Char
  | '"' => some '"'
  | '\\' => some '\\'
  | '/' => some '/'
  | 'b' => some '\x08'
  | 'f' => some '\x0c'
  | 'n' => some '\n'
  | 'r' => some '\r'
  | 't' => some '\t'
  | _ => none

def unit? (a b c d : Option Char) : Option Nat := do
  let digits ← [a, b, c, d].mapM id
  Hex.number? digits

/-- The pieces of a string up to its closing quote, and the letters after that. -/
def readPieces : Letters → Option (List Piece × Letters)
  | some '"' :: rest => some ([], rest)
  | some '\\' :: some 'u' :: a :: b :: c :: d :: rest => do
    let n ← unit? a b c d
    let (ps, rest) ← readPieces rest
    some (.unit n :: ps, rest)
  | some '\\' :: some e :: rest => do
    let c ← escaped? e
    let (ps, rest) ← readPieces rest
    some (.char c :: ps, rest)
  | some c :: rest =>
    if c = '\\' ∨ c < ' ' then none
    else do
      let (ps, rest) ← readPieces rest
      some (.char c :: ps, rest)
  | none :: rest => do
    let (ps, rest) ← readPieces rest
    some (.stray :: ps, rest)
  | [] => none

def isHigh (n : Nat) : Bool := 0xD800 ≤ n && n < 0xDC00

def isLow (n : Nat) : Bool := 0xDC00 ≤ n && n < 0xE000

/-- The text of pieces: a high and a low half side by side are one character, and a half alone is
none. -/
def textOf : List Piece → Option (List Char)
  | [] => some []
  | .char c :: ps => (textOf ps).map (c :: ·)
  | .stray :: _ => none
  | .unit h :: .unit l :: ps =>
    if isHigh h then
      if isLow l then
        (textOf ps).map (Char.ofNat (0x10000 + (h - 0xD800) * 0x400 + (l - 0xDC00)) :: ·)
      else none
    else if isLow h then none
    else (textOf (.unit l :: ps)).map (Char.ofNat h :: ·)
  | .unit n :: ps =>
    if isHigh n || isLow n then none else (textOf ps).map (Char.ofNat n :: ·)

/-- The text of a string behind its opening quote, `none` inside if it is garbled. -/
def readString (ls : Letters) : Option (Option String × Letters) :=
  match readPieces ls with
  | some (ps, rest) => some ((textOf ps).map String.ofList, rest)
  | none => none

/-! ## Numbers -/

def isDigit (c : Char) : Bool := '0' ≤ c && c ≤ '9'

def spanDigits : Letters → List Char × Letters
  | some c :: rest =>
    if isDigit c then
      let (ds, rest) := spanDigits rest
      (c :: ds, rest)
    else ([], some c :: rest)
  | ls => ([], ls)

/-- The whole part: one digit, or digits of which the first is not zero. -/
def readWhole (ls : Letters) : Option (List Char × Letters) :=
  match spanDigits ls with
  | ([], _) => none
  | ('0' :: _ :: _, _) => none
  | (ds, rest) => some (ds, rest)

def readDecimals : Letters → Option (List Char × Letters)
  | some '.' :: rest =>
    match spanDigits rest with
    | ([], _) => none
    | (ds, rest) => some (ds, rest)
  | ls => some ([], ls)

def readExponentDigits (minus : Bool) (ls : Letters) :
    Option (Option (Bool × List Char) × Letters) :=
  match spanDigits ls with
  | ([], _) => none
  | (ds, rest) => some (some (minus, ds), rest)

def readExponent : Letters → Option (Option (Bool × List Char) × Letters)
  | some e :: rest =>
    if e = 'e' ∨ e = 'E' then
      match rest with
      | some '+' :: rest => readExponentDigits false rest
      | some '-' :: rest => readExponentDigits true rest
      | rest => readExponentDigits false rest
    else some (none, some e :: rest)
  | ls => some (none, ls)

def readUnsigned (negative : Bool) (ls : Letters) : Option (Json × Letters) := do
  let (whole, ls) ← readWhole ls
  let (decimals, ls) ← readDecimals ls
  let (exponent, ls) ← readExponent ls
  some (.number { negative, whole, decimals, exponent }, ls)

/-! ## Values -/

def ofMembers (members : List (Option String × Json)) : Json :=
  match members.mapM fun (name, v) => name.map (·, v) with
  | some ms => .object ms
  | none => .garbled

mutual

/-- The value at the front. Each value and each step along an array or an object takes one of the
`fuel`. -/
def readValue : Nat → Letters → Option (Json × Letters)
  | 0, _ => none
  | fuel + 1, ls =>
    match skipBlank ls with
    | some 'n' :: some 'u' :: some 'l' :: some 'l' :: rest => some (.null, rest)
    | some 't' :: some 'r' :: some 'u' :: some 'e' :: rest => some (.bool true, rest)
    | some 'f' :: some 'a' :: some 'l' :: some 's' :: some 'e' :: rest => some (.bool false, rest)
    | some '"' :: rest =>
      match readString rest with
      | some (some s, rest) => some (.text s, rest)
      | some (none, rest) => some (.garbled, rest)
      | none => none
    | some '[' :: rest =>
      match skipBlank rest with
      | some ']' :: rest => some (.array [], rest)
      | rest =>
        match readItems fuel rest with
        | some (items, rest) => some (.array items, rest)
        | none => none
    | some '\x7b' :: rest =>
      match skipBlank rest with
      | some '\x7d' :: rest => some (.object [], rest)
      | rest =>
        match readMembers fuel rest with
        | some (members, rest) => some (ofMembers members, rest)
        | none => none
    | some '-' :: rest => readUnsigned true rest
    | rest => readUnsigned false rest

def readItems : Nat → Letters → Option (List Json × Letters)
  | 0, _ => none
  | fuel + 1, ls =>
    match readValue fuel ls with
    | none => none
    | some (v, rest) =>
      match skipBlank rest with
      | some ']' :: rest => some ([v], rest)
      | some ',' :: rest =>
        match readItems fuel rest with
        | some (vs, rest) => some (v :: vs, rest)
        | none => none
      | _ => none

def readMembers : Nat → Letters → Option (List (Option String × Json) × Letters)
  | 0, _ => none
  | fuel + 1, ls =>
    match skipBlank ls with
    | some '"' :: rest =>
      match readString rest with
      | none => none
      | some (name, rest) =>
        match skipBlank rest with
        | some ':' :: rest =>
          match readValue fuel rest with
          | none => none
          | some (v, rest) =>
            match skipBlank rest with
            | some '\x7d' :: rest => some ([(name, v)], rest)
            | some ',' :: rest =>
              match readMembers fuel rest with
              | some (ms, rest) => some ((name, v) :: ms, rest)
              | none => none
            | _ => none
        | _ => none
    | _ => none

end

def readLetters? (ls : Letters) : Option Json :=
  match readValue (2 * ls.length + 2) ls with
  | some (v, rest) => if skipBlank rest = [] then some v else none
  | none => none

def readBytes? (bytes : List UInt8) : Option Json := readLetters? (Utf8.letters bytes)

def read? (s : String) : Option Json := readLetters? (s.toList.map some)

end Gatehouse.Json
