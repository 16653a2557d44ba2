import Gatehouse.Json.Binary64

/-!
# Gatehouse.Json.Sound

Which JSON values can be kept whole. A value that is only passed over may hold anything that the
grammar admits; one that is kept has a limit on its depth, on its numbers and on its texts.
-/

namespace Gatehouse.Json

mutual

/-- The value can be kept as it is: every text in it is a text, every number a binary64 number, and
it nests at most `room` deep. -/
def isSound : Nat → Json → Bool
  | _, .null => true
  | _, .bool _ => true
  | _, .number n => n.binary64?.isSome
  | _, .text _ => true
  | _, .garbled => false
  | 0, .array _ => false
  | room + 1, .array items => areSound room items
  | 0, .object _ => false
  | room + 1, .object members => membersSound room members

def areSound : Nat → List Json → Bool
  | _, [] => true
  | room, v :: vs => isSound room v && areSound room vs

def membersSound : Nat → List (String × Json) → Bool
  | _, [] => true
  | room, (_, v) :: ms => isSound room v && membersSound room ms

end

end Gatehouse.Json
