import Gatehouse.Secret

/-!
# Gatehouse.Proofs.Hash.Digest

The form of digests. A hash has thirty-two bytes whatever its message is, and a byte is written in
two digits, so the digest of a secret is sixty-four hexadecimal digits in small letters.
-/

namespace Gatehouse

theorem Sha256.length_bigEndian (k n : Nat) : (bigEndian k n).length = k := by
  induction k generalizing n with
  | zero => rfl
  | succ k ih => rw [bigEndian, List.length_append, ih, List.length_singleton]

theorem Sha256.length_hash (message : List UInt8) : (hash message).length = 32 := by
  simp [hash, State.words, length_bigEndian]

namespace Hex

def digits : List Char :=
  ['0', '1', '2', '3', '4', '5', '6', '7', '8', '9', 'a', 'b', 'c', 'd', 'e', 'f']

theorem digit_mem {n : Nat} (h : n < 16) : digit n ∈ digits := by
  have hall : ∀ m : Fin 16, digit m ∈ digits := by decide
  exact hall ⟨n, h⟩

theorem mem_digits_of_mem_ofByte {b : UInt8} {c : Char} (h : c ∈ ofByte b) : c ∈ digits := by
  have hb := b.toNat_lt
  simp only [ofByte, List.mem_cons, List.not_mem_nil, or_false] at h
  rcases h with rfl | rfl
  · exact digit_mem (by omega)
  · exact digit_mem (by omega)

theorem length_encode (bytes : List UInt8) : (encode bytes).toList.length = 2 * bytes.length := by
  rw [encode, String.toList_ofList]
  induction bytes with
  | nil => rfl
  | cons b bytes ih =>
    rw [List.flatMap_cons, List.length_append, ih, List.length_cons]
    simp only [ofByte, List.length_cons, List.length_nil]
    omega

theorem mem_digits_of_mem_encode {bytes : List UInt8} {c : Char} (h : c ∈ (encode bytes).toList) :
    c ∈ digits := by
  rw [encode, String.toList_ofList, List.mem_flatMap] at h
  obtain ⟨b, -, hc⟩ := h
  exact mem_digits_of_mem_ofByte hc

end Hex

/-- Sixty-four hexadecimal digits in small letters. -/
structure SecretDigest.IsHex (d : SecretDigest) : Prop where
  length : d.hex.toList.length = 64
  digits : ∀ c ∈ d.hex.toList, c ∈ Hex.digits

theorem RefreshSecret.isHex_digest (s : RefreshSecret) : s.digest.IsHex where
  length := by rw [digest, Hex.length_encode, Sha256.length_hash]
  digits _ h := Hex.mem_digits_of_mem_encode h

end Gatehouse
