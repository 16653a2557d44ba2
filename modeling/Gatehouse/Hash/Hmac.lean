import Gatehouse.Hash.Sha256

/-!
# Gatehouse.Hash.Hmac

HMAC over SHA-256: the keyed hash that authenticates a message.
-/

namespace Gatehouse.Hmac

/-- A key of one block: a longer key is hashed first, a shorter one is filled with zeros. -/
def blockKey (key : List UInt8) : List UInt8 :=
  let k := if key.length ≤ 64 then key else Sha256.hash key
  k ++ List.replicate (64 - k.length) 0

def sha256 (key message : List UInt8) : List UInt8 :=
  let k := blockKey key
  let inner := Sha256.hash (k.map (· ^^^ 0x36) ++ message)
  Sha256.hash (k.map (· ^^^ 0x5c) ++ inner)

end Gatehouse.Hmac
