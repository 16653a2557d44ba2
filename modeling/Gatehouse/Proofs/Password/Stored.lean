import Gatehouse.Password.Argon2Hasher
import Gatehouse.Proofs.Bytes.Base64

/-!
# Gatehouse.Proofs.Password.Stored

The text of a new password hash is read again (`read_stored`), and so a password can always be
checked against it: the check answers whether the two outputs are the same (`check_stored`). What
makes the outputs is a `Derivation` throughout, and nothing but their length is used of it. A hasher
therefore always knows again the password that it has made a hash of (`argon2_round_trip`).
-/

namespace Gatehouse

/-! ## Characters of base64 -/

theorem Base64.isValueChar_of_mem {bytes : List UInt8} {c : Char}
    (hc : c ∈ standard.encodeChars bytes) :
    PasswordHash.isValueChar c = true ∧ c.toNat < 0x80 := by
  have hdigits : ∀ m : Fin 64, PasswordHash.isValueChar (standard.digit m) = true ∧
      (standard.digit m).toNat < 0x80 := by decide
  exact forall_mem_encodeChars (P := fun c => PasswordHash.isValueChar c = true ∧ c.toNat < 0x80)
    hdigits hc

theorem Utf8.size_ofList {cs : List Char} (h : ∀ c ∈ cs, c.toNat < 0x80) :
    size (String.ofList cs) = cs.length := by
  rw [size, encode, String.toList_ofList]
  induction cs with
  | nil => rfl
  | cons c cs ih =>
    have hc := h c List.mem_cons_self
    rw [List.flatMap_cons, List.length_append, ih fun c hc => h c (List.mem_cons_of_mem _ hc),
      encodeChar, if_pos hc, List.length_singleton, List.length_cons, Nat.add_comm]

theorem Base64.size_encode (bytes : List UInt8) :
    Utf8.size (standard.encode bytes) = (standard.encodeChars bytes).length := by
  refine Utf8.size_ofList fun c hc => ?_
  exact (isValueChar_of_mem hc).2

namespace PasswordHash

theorem readValue_encode {bytes : List UInt8}
    (hlen : (Base64.standard.encodeChars bytes).length ≤ 64) :
    readValue (Base64.standard.encodeChars bytes) = .ok (Base64.standard.encode bytes) := by
  have hfind : (Base64.standard.encodeChars bytes).find? (!isValueChar ·) = none := by
    rw [List.find?_eq_none]
    intro c hc
    simp [(Base64.isValueChar_of_mem hc).1]
  have hsize := Base64.size_encode bytes
  rw [Base64.encode] at hsize
  rw [readValue, hsize, if_neg (Nat.not_lt.mpr hlen), hfind]
  rfl

theorem readSalt_encode {salt : List UInt8} (hfew : 3 ≤ salt.length) (hmany : salt.length ≤ 48) :
    readSalt (Base64.standard.encodeChars salt) = .ok (Base64.standard.encode salt) := by
  have hlen := Base64.length_encodeChars (A := Base64.standard) salt
  have hsize := Base64.size_encode salt
  rw [Base64.encode] at hsize
  rw [readSalt, hsize, if_neg (by omega), if_neg (by omega), readValue_encode (by omega)]
  rfl

theorem readBytes_encode {bytes : List UInt8} {most : Nat} (hmost : bytes.length ≤ most) :
    readBytes most (Base64.standard.encodeChars bytes) = .ok bytes := by
  have hletters := Base64.length_encodeChars (A := Base64.standard) bytes
  rw [readBytes, if_neg (by omega), Base64.decodeChars?_encodeChars Base64.lawful_standard]

theorem readOutput_encode {output : List UInt8} (hfew : 10 ≤ output.length)
    (hmany : output.length ≤ 64) :
    readOutput (Base64.standard.encodeChars output) = .ok output := by
  simp only [readOutput, readBytes_encode hmany]
  exact if_neg (Nat.not_lt.mpr hfew)

/-! ## New hashes -/

/-- A hash as new ones are, with any output. -/
def stored (salt output : List UInt8) : PasswordHash where
  algorithm := Argon2.Variant.id.name
  version := some Argon2.Version.v19.number
  params := [("m", toString Argon2.newCosts.memory), ("t", toString Argon2.newCosts.passes),
    ("p", toString Argon2.newCosts.lanes)]
  salt := some (Base64.standard.encode salt)
  output := some output

theorem toList_render_stored (salt output : List UInt8) :
    (stored salt output).render.toList = [] ++ '$' :: ("argon2id".toList ++ '$' ::
      ("v=19".toList ++ '$' :: ("m=19456,t=2,p=1".toList ++ '$' ::
        (Base64.standard.encodeChars salt ++ '$' :: Base64.standard.encodeChars output)))) := by
  have hhead : "$" ++ Argon2.Variant.id.name ++ ("$v=" ++ toString Argon2.Version.v19.number) ++
      ("$" ++ ",".intercalate ((stored [] []).params.map fun p => p.1 ++ "=" ++ p.2)) =
        "$argon2id$v=19$m=19456,t=2,p=1" := by decide +kernel
  have hrender : (stored salt output).render = "$argon2id$v=19$m=19456,t=2,p=1" ++
      ("$" ++ Base64.standard.encode salt) ++ ("$" ++ Base64.standard.encode output) := by
    rw [← hhead]
    rfl
  rw [hrender]
  simp [Base64.encode]

theorem isDollar_encodeChars (bytes : List UInt8) :
    ∀ c ∈ Base64.standard.encodeChars bytes, decide (c = '$') = false := by
  intro c hc
  have hvalue := (Base64.isValueChar_of_mem hc).1
  rw [decide_eq_false_iff_not]
  intro hdollar
  rw [hdollar] at hvalue
  exact absurd hvalue (by decide)

theorem splitOnP_stored (salt output : List UInt8) :
    (stored salt output).render.toList.splitOnP (· = '$') =
      [] :: "argon2id".toList :: "v=19".toList :: "m=19456,t=2,p=1".toList ::
        Base64.standard.encodeChars salt :: [Base64.standard.encodeChars output] := by
  have hsalt := isDollar_encodeChars salt
  have cut {field : List Char} (hfield : (field.all fun c => !decide (c = '$')) = true)
      (rest : List Char) : (field ++ '$' :: rest).splitOnP (· = '$') =
        field :: rest.splitOnP (· = '$') := by
    have hfield : ∀ c ∈ field, decide (c = '$') = false := by simpa using hfield
    exact List.splitOnP_append_cons_of_forall_mem hfield '$' (by decide) rest
  rw [toList_render_stored, cut (by decide), cut (by decide), cut (by decide), cut (by decide),
    cut (by simpa using hsalt), List.splitOnP_eq_singleton (isDollar_encodeChars output)]

theorem read_stored {salt output : List UInt8} (hsalt : salt.length = 16)
    (houtput : output.length = 32) :
    read (stored salt output).render = .ok (stored salt output) := by
  have hname : readName "argon2id".toList = .ok Argon2.Variant.id.name := rfl
  have hversion (fields : List (List Char)) :
      takeVersion ("v=19".toList :: fields) = .ok (some Argon2.Version.v19.number, fields) := rfl
  have hparams (fields : List (List Char)) : takeParams ("m=19456,t=2,p=1".toList :: fields) =
      .ok ((stored [] []).params, fields) := rfl
  have hend : readEnd [Base64.standard.encodeChars salt, Base64.standard.encodeChars output] =
      .ok (some (Base64.standard.encode salt), some output) := by
    have hread : readSalt (Base64.standard.encodeChars salt) = .ok (Base64.standard.encode salt) :=
      readSalt_encode (by omega) (by omega)
    have hread' : readOutput (Base64.standard.encodeChars output) = .ok output :=
      readOutput_encode (by omega) (by omega)
    simp only [readEnd, hread, hread']
    rfl
  simp only [read, splitOnP_stored, bind, Except.bind, hname, hversion, hparams, hend]
  rfl

end PasswordHash

namespace Argon2.Derivation

open PasswordHash (stored)

variable (d : Derivation)

theorem length_newOutput (password : String) (salt : List UInt8) :
    (d.newOutput password salt).length = newOutputSize :=
  d.length_output _ (show newOutputSize ≤ 64 by decide)

/-- Whatever password is tried on a new hash, the answer is whether it makes the same output. A
password that is too long is tried in vain. -/
theorem check_stored {salt output : List UInt8} (hsalt : salt.length = newSaltSize)
    (houtput : output.length = newOutputSize) (attempt : String) :
    d.check attempt (stored salt output).render =
      .ok (decide (Utf8.size attempt ≤ longestPassword ∧ d.newOutput attempt salt = output)) := by
  have hparams : Params.ofList (stored salt output).params = .ok ⟨newCosts, []⟩ := rfl
  have hvariant : Variant.ofName (stored salt output).algorithm = .ok .id := rfl
  have hversion : Version.ofNumber (stored salt output).version = .ok .v19 := rfl
  have hencoded : (stored salt output).salt = some (Base64.standard.encode salt) := rfl
  have hstored : (stored salt output).output = some output := rfl
  have hbytes : PasswordHash.readBytes 64 (Base64.standard.encode salt).toList = .ok salt := by
    rw [Base64.encode, String.toList_ofList]
    refine PasswordHash.readBytes_encode ?_
    rw [hsalt]
    decide
  have hfew : ¬ salt.length < fewestSaltBytes := by
    rw [hsalt]
    decide
  have hverify : d.verify attempt (stored salt output) =
      .ok (decide (Utf8.size attempt ≤ longestPassword ∧ d.newOutput attempt salt = output)) := by
    simp only [verify, hencoded, hstored, hparams, hvariant, hversion, hbytes, bind, Except.bind,
      if_neg hfew, houtput]
    by_cases hlong : longestPassword < Utf8.size attempt
    · rw [if_pos hlong, decide_eq_false fun h => Nat.not_lt.mpr h.1 hlong]
    · rw [if_neg hlong]
      simp only [Nat.not_lt.mp hlong, true_and]
      rfl
  simp only [check, PasswordHash.read_stored hsalt houtput, Except.mapError, bind, Except.bind,
    hverify]

theorem check_newHash (password : String) {salt : List UInt8} (hsalt : salt.length = newSaltSize)
    (attempt : String) : d.check attempt (d.newHash password salt).render =
      .ok (decide (Utf8.size attempt ≤ longestPassword ∧
        d.newOutput attempt salt = d.newOutput password salt)) :=
  d.check_stored hsalt (d.length_newOutput password salt) attempt

end Argon2.Derivation

/-! ## The hasher -/

namespace PasswordHasher

open Argon2 (newSaltSize newOutputSize longestPassword)
open PasswordHash (stored)

section Checks

variable {τ σ : Type} [ByteSource τ] (d : Argon2.Derivation) {salt : List UInt8}
  (hsalt : salt.length = newSaltSize) (password : String) {attempt : String} (w : World τ σ)
include hsalt

theorem check_argon2With (hattempt : Utf8.size attempt ≤ longestPassword) :
    (argon2With d).check attempt (d.newHash password salt).render w =
      (.ok (decide (d.newOutput attempt salt = d.newOutput password salt)), w) := by
  simp only [argon2With, d.check_newHash password hsalt attempt, Except.mapError, hattempt,
    true_and]

theorem check_argon2With_long (hattempt : longestPassword < Utf8.size attempt) :
    (argon2With d).check attempt (d.newHash password salt).render w = (.ok false, w) := by
  have hlong : ¬ Utf8.size attempt ≤ longestPassword := Nat.not_le.mpr hattempt
  simp only [argon2With, d.check_newHash password hsalt attempt, Except.mapError, hlong,
    false_and, decide_false]

end Checks

/-- Whatever makes the outputs, a hash of any password with any salt tells the salt and the output
in base64, it is read again as it was written, and every attempt at it is answered: whether it makes
the same output. An attempt that is too long for a password is never right. -/
theorem argon2_round_trip {τ σ : Type} [ByteSource τ] (d : Argon2.Derivation) {password : String}
    (hpassword : Utf8.size password ≤ longestPassword) {salt : List UInt8}
    (hsalt : salt.length = newSaltSize) :
    ∃ text, text = "$argon2id$v=19$m=19456,t=2,p=1$" ++ Base64.standard.encode salt ++ "$" ++
        Base64.standard.encode (d.newOutput password salt) ∧
      (∀ (w : World τ σ) e, ByteSource.draw newSaltSize w.entropy = (some salt, e) →
        (argon2With d).hash password w = (.ok text, { w with entropy := e })) ∧
      PasswordHash.read text = .ok (d.newHash password salt) ∧
      (∀ attempt (w : World τ σ), Utf8.size attempt ≤ longestPassword →
        (argon2With d).check attempt text w =
          (.ok (decide (d.newOutput attempt salt = d.newOutput password salt)), w)) ∧
      (∀ attempt (w : World τ σ), longestPassword < Utf8.size attempt →
        (argon2With d).check attempt text w = (.ok false, w)) ∧
      (∀ w : World τ σ, (argon2With d).check password text w = (.ok true, w)) ∧
      ∀ output, output.length = newOutputSize →
        PasswordHash.read (stored salt output).render = .ok (stored salt output) ∧
        ∀ attempt, Utf8.size attempt ≤ longestPassword →
          d.check attempt (stored salt output).render =
            .ok (decide (d.newOutput attempt salt = output)) := by
  have hlength := d.length_newOutput password salt
  have hnew : d.newHash password salt = stored salt (d.newOutput password salt) := rfl
  refine ⟨(d.newHash password salt).render, ?_, fun w e hdraw => ?_, ?_, fun attempt w => ?_,
    fun attempt w => ?_, fun w => ?_, fun output houtput => ?_⟩
  · rw [← String.toList_inj, hnew, PasswordHash.toList_render_stored]
    simp [Base64.encode]
  · simp only [argon2With, World.onEntropy, hdraw, if_neg (Nat.not_lt.mpr hpassword)]
  · rw [hnew]
    exact PasswordHash.read_stored hsalt hlength
  · exact check_argon2With d hsalt password w
  · exact check_argon2With_long d hsalt password w
  · rw [check_argon2With d hsalt password w hpassword, decide_eq_true rfl]
  · refine ⟨PasswordHash.read_stored hsalt houtput, fun attempt hattempt => ?_⟩
    simp only [d.check_stored hsalt houtput, hattempt, true_and]

theorem argon2_round_trip_empty : Utf8.size "" ≤ longestPassword ∧ ∃ text,
    argon2.hash "" ⟨⟨0⟩, Entropy.mk 0 false, ()⟩ =
      (.ok text, ⟨⟨0⟩, ((⟨0, false⟩ : Entropy).draw newSaltSize).2, ()⟩) ∧
    argon2.check "" text ⟨⟨0⟩, Entropy.mk 0 false, ()⟩ = (.ok true, ⟨⟨0⟩, ⟨0, false⟩, ()⟩) := by
  have hpassword : Utf8.size "" ≤ longestPassword := by decide
  have hsalt : (Entropy.bytesAfter newSaltSize 0).1.length = newSaltSize := by decide
  obtain ⟨text, -, hmade, -, -, -, hright, -⟩ :=
    @argon2_round_trip Entropy Unit _ Argon2.derivation _ hpassword _ hsalt
  exact ⟨hpassword, text, hmade _ _ rfl, hright _⟩

end PasswordHasher
end Gatehouse
