import Gatehouse.Text.Unprintable
import Gatehouse.Text.Combining
import Gatehouse.Bytes.Hex

/-!
# Gatehouse.Text.Quoted

Text in double quotes, as diagnostics show it: what would not be seen, or would change the look of
its neighbour, is written as an escape.
-/

namespace Gatehouse.Text

/-- The code point in hexadecimal, between braces. -/
def codePointEscape (c : Char) : List Char :=
  '\\' :: 'u' :: '\x7b' :: Hex.ofNat c.toNat ++ ['\x7d']

def escapeChar (c : Char) : List Char :=
  if c = '\x00' then ['\\', '0']
  else if c = '\t' then ['\\', 't']
  else if c = '\n' then ['\\', 'n']
  else if c = '\r' then ['\\', 'r']
  else if c = '"' then ['\\', '"']
  else if c = '\\' then ['\\', '\\']
  else if ' ' ≤ c ∧ c ≤ '~' then [c]
  else if isUnprintable c || isCombining c then codePointEscape c
  else [c]

def quoted (s : String) : String :=
  "\"" ++ String.ofList (s.toList.flatMap escapeChar) ++ "\""

end Gatehouse.Text
