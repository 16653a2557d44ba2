import Gatehouse.Password.Argon2
import Gatehouse.Password.Hasher
import Gatehouse.Password.Phc

/-!
# Gatehouse.Password.Argon2Hasher

Password hashes made with Argon2. A new hash is made at fixed costs with a salt of its own; an old
hash is checked with the variant, the version and the costs that its text tells.
-/

namespace Gatehouse

namespace Argon2

def newCosts : Costs := ⟨19456, 2, 1⟩

def newSaltSize : Nat := 16

def newOutputSize : Nat := 32

def fewestSaltBytes : Nat := 8

/-- The most bytes of a password: their number is part of the first hash, as a word. -/
def longestPassword : Nat := 0xffffffff

def Variant.name : Variant → String
  | .d => "argon2d"
  | .i => "argon2i"
  | .id => "argon2id"

def Variant.ofName (s : String) : Except HashFault Variant :=
  match s with
  | "argon2d" => .ok .d
  | "argon2i" => .ok .i
  | "argon2id" => .ok .id
  | _ => .error .algorithm

/-- The version of a number; the later one if there is none. -/
def Version.ofNumber : Option Nat → Except HashFault Version
  | none => .ok .v19
  | some 16 => .ok .v16
  | some 19 => .ok .v19
  | some _ => .error .version

structure Params where
  costs : Costs := newCosts
  data : List UInt8 := []

/-- Sets a parameter. The name of a key is read and not used. -/
def Params.set (p : Params) : String × String → Except HashFault Params
  | ("m", value) => do
    let n ← (PasswordHash.readDecimal value.toList).mapError .parameterValue
    .ok { p with costs := { p.costs with memory := n } }
  | ("t", value) => do
    let n ← (PasswordHash.readDecimal value.toList).mapError .parameterValue
    .ok { p with costs := { p.costs with passes := n } }
  | ("p", value) => do
    let n ← (PasswordHash.readDecimal value.toList).mapError .parameterValue
    .ok { p with costs := { p.costs with lanes := n } }
  | ("keyid", value) => do
    let _ ← PasswordHash.readBytes 8 value.toList
    .ok p
  | ("data", value) => do
    let data ← PasswordHash.readBytes 32 value.toList
    .ok { p with data }
  | _ => .error .parameterName

/-- Every lane has eight blocks or more, and there is a pass and a lane. -/
def Costs.check (c : Costs) : Except HashFault Unit :=
  if c.memory < 8 ∨ c.memory < c.lanes * 8 ∨ c.passes < 1 ∨ c.lanes < 1 then
    .error (.parameterValue .tooShort)
  else if 0x1000000 ≤ c.lanes then .error (.parameterValue .tooLong)
  else .ok ()

def Params.ofList (params : List (String × String)) : Except HashFault Params := do
  let p ← params.foldlM Params.set {}
  p.costs.check
  .ok p

namespace Derivation

variable (d : Derivation)

def newOutput (password : String) (salt : List UInt8) : List UInt8 :=
  d.output ⟨.id, .v19, newCosts, Utf8.encode password, salt, [], newOutputSize⟩

def newHash (password : String) (salt : List UInt8) : PasswordHash where
  algorithm := Variant.id.name
  version := some Version.v19.number
  params := [("m", toString newCosts.memory), ("t", toString newCosts.passes),
    ("p", toString newCosts.lanes)]
  salt := some (Base64.standard.encode salt)
  output := some (d.newOutput password salt)

/-- Whether a password has a hash. A hash without salt or output is nobody's, and a password that is
too long has none. -/
def verify (password : String) (h : PasswordHash) : Except HashFault Bool :=
  match h.salt, h.output with
  | some salt, some output => do
    let params ← Params.ofList h.params
    let variant ← Variant.ofName h.algorithm
    let version ← Version.ofNumber h.version
    let salt ← PasswordHash.readBytes 64 salt.toList
    if longestPassword < Utf8.size password then .ok false
    else if salt.length < fewestSaltBytes then .error (.salt .tooShort)
    else
      .ok (d.output ⟨variant, version, params.costs, Utf8.encode password, salt, params.data,
        output.length⟩ = output)
  | _, _ => .ok false

def check (password text : String) : Except HasherError Bool := do
  let h ← (PasswordHash.read text).mapError .unreadable
  (d.verify password h).mapError .unusable

end Derivation
end Argon2

namespace PasswordHasher

variable {τ σ : Type} [ByteSource τ]

def argon2With (d : Argon2.Derivation) : PasswordHasher τ σ where
  hash password w :=
    match w.onEntropy (ByteSource.draw Argon2.newSaltSize) with
    | (none, w) => (.error (.hasher (.reported SecretError.noEntropy.message)), w)
    | (some salt, w) =>
      if Argon2.longestPassword < Utf8.size password then
        (.error (.hasher (.reported "invalid password")), w)
      else (.ok (d.newHash password salt).render, w)
  check password hash w := ((d.check password hash).mapError .hasher, w)

def argon2 : PasswordHasher τ σ := argon2With Argon2.derivation

end PasswordHasher
end Gatehouse
