import Gatehouse.Json.Record
import Gatehouse.Json.Sound

/-!
# Gatehouse.Access.Header

The header of a signed token. It names the algorithm of the signature; its other fields are not
used, but a field that is known has to have its type.
-/

namespace Gatehouse.Access

def algorithms : List String :=
  ["HS256", "HS384", "HS512", "ES256", "ES384", "RS256", "RS384", "RS512", "PS256", "PS384",
    "PS512", "EdDSA"]

/-- One of a list of names: the name as text, or an object whose only member has that name and holds
nothing. -/
def choice? (names : List String) : Json → Option String
  | .text s => if s ∈ names then some s else none
  | .object [(name, .null)] => if name ∈ names then some name else none
  | _ => none

/-- The field is left out, `null`, or a value that `ok` accepts. -/
def optional (ok : Json → Bool) : Option Json → Bool
  | none => true
  | some .null => true
  | some v => ok v

def isText (v : Json) : Bool := v.text?.isSome

def isTexts : Json → Bool
  | .array items => items.all isText
  | _ => false

/-! ## Keys inside a header -/

def keyAlgorithms : List String := algorithms ++ ["RSA1_5", "RSA-OAEP", "RSA-OAEP-256"]

def curves : List String := ["P-256", "P-384", "P-521", "Ed25519"]

/-- A key algorithm; the object form may also hold an empty object. -/
def isKeyAlgorithm : Json → Bool
  | .object [(name, .object [])] => name ∈ keyAlgorithms
  | v => (choice? keyAlgorithms v).isSome

def sharedKeyFields : List (String × (Json → Bool)) :=
  [("use", isText), ("key_ops", isTexts), ("alg", isKeyAlgorithm), ("kid", isText), ("x5u", isText),
    ("x5c", isTexts), ("x5t", isText), ("x5t#S256", isText)]

def keyKinds : List (List (String × (Json → Bool))) :=
  let named (names : List String) (v : Json) := (choice? names v).isSome
  [[("kty", named ["EC"]), ("crv", named curves), ("x", isText), ("y", isText)],
    [("kty", named ["RSA"]), ("n", isText), ("e", isText)],
    [("kty", named ["oct"]), ("k", isText)],
    [("kty", named ["OKP"]), ("crv", named curves), ("x", isText)]]

def hasField (members : List (String × Json)) (field : String × (Json → Bool)) : Bool :=
  match Json.member? members field.1 with
  | some (some v) => field.2 v
  | _ => false

/-- The members have the field at most once, and then with a value that `ok` accepts. -/
def mayHaveField (members : List (String × Json)) (field : String × (Json → Bool)) : Bool :=
  match Json.member? members field.1 with
  | some v => optional field.2 v
  | none => false

def isKey : Json → Bool
  | .object members =>
    Json.membersSound 125 members && sharedKeyFields.all (mayHaveField members) &&
      keyKinds.any fun fields => fields.all (hasField members)
  | _ => false

/-! ## Headers -/

def headerFields : List String :=
  ["typ", "alg", "cty", "jku", "jwk", "kid", "x5u", "x5c", "x5t", "x5t#S256"]

/-- The algorithm that a header names, if the header is in order. -/
def headerAlgorithm? (v : Json) : Option String :=
  match v.fields? headerFields 0 with
  | some [typ, some alg, cty, jku, jwk, kid, x5u, x5c, x5t, x5t256] =>
    if [typ, cty, jku, kid, x5u, x5t, x5t256].all (optional isText) && optional isTexts x5c &&
        optional isKey jwk then
      choice? algorithms alg
    else none
  | _ => none

end Gatehouse.Access
