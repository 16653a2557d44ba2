import Gatehouse.Bytes.Base64
import Gatehouse.Password.Error
import Gatehouse.Text.Decimal
import Gatehouse.Text.Utf8

/-!
# Gatehouse.Password.Phc

The text form of password hashes: fields that each follow a dollar sign, namely the algorithm, its
version, its parameters, the salt and the output. All but the algorithm may be missing.
-/

namespace Gatehouse

structure PasswordHash where
  algorithm : String
  version : Option Nat := none
  params : List (String × String) := []
  /-- The salt in base64. -/
  salt : Option String := none
  output : Option (List UInt8) := none
  deriving DecidableEq

namespace PasswordHash

/-! ## Parts of a field -/

def isNameChar (c : Char) : Bool := ('a' ≤ c && c ≤ 'z') || c.isDigit || c = '-'

def isValueChar (c : Char) : Bool := c.isAlphanum || c ∈ ['/', '+', '.', '-']

def readName (cs : List Char) : Except HashFault String :=
  if 1 ≤ cs.length ∧ cs.length ≤ 32 ∧ cs.all isNameChar then .ok (String.ofList cs)
  else .error .parameterName

def readValue (cs : List Char) : Except ValueFault String :=
  if 64 < Utf8.size (String.ofList cs) then .error .tooLong
  else
    match cs.find? (!isValueChar ·) with
    | some c => .error (.badCharacter c)
    | none => .ok (String.ofList cs)

/-- A number of thirty-two bits, without leading zeros. -/
def readDecimal (cs : List Char) : Except ValueFault Nat :=
  if cs = [] then .error .malformed
  else
    match cs.find? (!Char.isDigit ·) with
    | some c => .error (.badCharacter c)
    | none =>
      if cs.head? = some '0' ∧ 1 < cs.length then .error .badFormat
      else if 0x100000000 ≤ Decimal.value cs then .error .badFormat
      else .ok (Decimal.value cs)

def readBytes (most : Nat) (cs : List Char) : Except HashFault (List UInt8) :=
  if most < cs.length * 3 / 4 then .error .base64Length
  else
    match Base64.standard.decodeChars? cs with
    | some bytes => .ok bytes
    | none => .error .base64Encoding

/-! ## Fields -/

def readParam (cs : List Char) : Except HashFault (String × String) :=
  match cs.splitOnP (· = '=') with
  | [] => .error .parameterName
  | name :: rest => do
    let name ← readName name
    match rest with
    | [] => .error (.parameterValue .malformed)
    | value :: more =>
      let value ← (readValue value).mapError .parameterValue
      if more = [] then .ok (name, value) else .error (.parameterValue .malformed)

/-- Parameters with commas between them, in at most 127 bytes. -/
def readParams (cs : List Char) : Except HashFault (List (String × String)) :=
  if 127 < Utf8.size (String.ofList cs) then .error .tooManyParameters
  else (cs.splitOnP (· = ',')).mapM readParam

def readVersion (cs : List Char) : Except HashFault Nat := do
  let _ ← (readValue cs).mapError .parameterValue
  (readDecimal cs).mapError .parameterValue

def readSalt (cs : List Char) : Except HashFault String :=
  let size := Utf8.size (String.ofList cs)
  if size < 4 then .error (.salt .tooShort)
  else if 64 < size then .error (.salt .tooLong)
  else (readValue cs).mapError .salt

def readOutput (cs : List Char) : Except HashFault (List UInt8) := do
  let bytes ← readBytes 64 cs
  if bytes.length < 10 then .error (.outputTooShort 10) else .ok bytes

def isVersion : List Char → Bool
  | 'v' :: '=' :: cs => ',' ∉ cs
  | _ => false

/-- The version, if the first field gives it, and the fields after it. -/
def takeVersion : List (List Char) → Except HashFault (Option Nat × List (List Char))
  | field :: fields =>
    if isVersion field then (readVersion (field.drop 2)).map fun v => (some v, fields)
    else .ok (none, field :: fields)
  | [] => .ok (none, [])

/-- The parameters, if the first field has an equals sign, and the fields after it. -/
def takeParams : List (List Char) → Except HashFault (List (String × String) × List (List Char))
  | field :: fields =>
    if '=' ∈ field then (readParams field).map fun ps => (ps, fields)
    else .ok ([], field :: fields)
  | [] => .ok ([], [])

def readEnd : List (List Char) → Except HashFault (Option String × Option (List UInt8))
  | [] => .ok (none, none)
  | [salt] => (readSalt salt).map fun s => (some s, none)
  | salt :: output :: more => do
    let salt ← readSalt salt
    let output ← readOutput output
    if more = [] then .ok (some salt, some output) else .error .trailingCharacters

/-- The password hash that a text writes. Faults are told in the order of the fields. -/
def read (s : String) : Except HashFault PasswordHash :=
  match s.toList.splitOnP (· = '$') with
  | [] :: algorithm :: fields => do
    let algorithm ← readName algorithm
    let (version, fields) ← takeVersion fields
    let (params, fields) ← takeParams fields
    let (salt, output) ← readEnd fields
    .ok { algorithm, version, params, salt, output }
  | _ => .error .missingField

def render (h : PasswordHash) : String :=
  let version := match h.version with
    | some v => "$v=" ++ toString v
    | none => ""
  let params :=
    if h.params.isEmpty then ""
    else "$" ++ ",".intercalate (h.params.map fun p => p.1 ++ "=" ++ p.2)
  let salt := match h.salt with
    | some s => "$" ++ s
    | none => ""
  let output := match h.output with
    | some bytes => "$" ++ Base64.standard.encode bytes
    | none => ""
  "$" ++ h.algorithm ++ version ++ params ++ salt ++ output

end PasswordHash
end Gatehouse
