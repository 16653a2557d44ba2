import Gatehouse.Json.Basic
import Gatehouse.Bytes.Hex

/-!
# Gatehouse.Json.Writer

Writing JSON without blanks, members in their order. In a string only quotes, backslashes and
control characters are escaped.
-/

namespace Gatehouse.Json

def escapeChar (c : Char) : List Char :=
  if c = '"' then ['\\', '"']
  else if c = '\\' then ['\\', '\\']
  else if c = '\x08' then ['\\', 'b']
  else if c = '\t' then ['\\', 't']
  else if c = '\n' then ['\\', 'n']
  else if c = '\x0c' then ['\\', 'f']
  else if c = '\r' then ['\\', 'r']
  else if c < ' ' then '\\' :: 'u' :: '0' :: '0' :: Hex.ofByte (.ofNat c.toNat)
  else [c]

def writeString (s : String) : List Char :=
  '"' :: s.toList.flatMap escapeChar ++ ['"']

def writeNumeral (n : Numeral) : List Char :=
  (if n.negative then ['-'] else []) ++ n.whole ++
    (if n.decimals.isEmpty then [] else '.' :: n.decimals) ++
    (match n.exponent with
      | some (minus, digits) => 'e' :: (if minus then ['-'] else []) ++ digits
      | none => [])

mutual

/-- The characters of a value. What is garbled has no text to write, and `null` stands for it. -/
def write : Json → List Char
  | .null => ['n', 'u', 'l', 'l']
  | .bool true => ['t', 'r', 'u', 'e']
  | .bool false => ['f', 'a', 'l', 's', 'e']
  | .number n => writeNumeral n
  | .text s => writeString s
  | .garbled => ['n', 'u', 'l', 'l']
  | .array items => '[' :: writeItems items ++ [']']
  | .object members => '\x7b' :: writeMembers members ++ ['\x7d']

def writeItems : List Json → List Char
  | [] => []
  | [v] => write v
  | v :: w :: vs => write v ++ ',' :: writeItems (w :: vs)

def writeMembers : List (String × Json) → List Char
  | [] => []
  | [(name, v)] => writeString name ++ ':' :: write v
  | (name, v) :: m :: ms => writeString name ++ ':' :: write v ++ ',' :: writeMembers (m :: ms)

end

def render (v : Json) : String := String.ofList v.write

end Gatehouse.Json
