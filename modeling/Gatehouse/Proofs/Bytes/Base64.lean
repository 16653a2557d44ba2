import Mathlib.Tactic.SplitIfs
import Gatehouse.Bytes.Base64

/-!
# Gatehouse.Proofs.Bytes.Base64

Writing and reading base64 are inverse to each other (`decodeChars?_eq_some_iff`): what is read is
what was written, and there is no other text that is read as the same bytes.
-/

namespace Gatehouse.Base64

/-- The sixty-four digits have sixty-four values. -/
structure Lawful (A : Base64) : Prop where
  value_digit : ∀ {n}, n < 64 → A.value? (A.digit n) = some n
  digit_value : ∀ {c n}, A.value? c = some n → n < 64 ∧ A.digit n = c

theorem toNat_le_of_le {a b : Char} (h : a ≤ b) : a.toNat ≤ b.toNat := h

/-- An alphabet whose last two digits are no others of its digits is lawful. -/
theorem lawful_of_value_digit {A : Base64}
    (h : ∀ m : Fin 64, A.value? (A.digit m) = some m.val) : A.Lawful where
  value_digit {n} hn := h ⟨n, hn⟩
  digit_value {c n} h := by
    unfold value? at h
    split_ifs at h with hupper hlower hdigit h62 h63 <;> cases h
    · have hlow : 65 ≤ c.toNat := toNat_le_of_le hupper.1
      have hhigh : c.toNat ≤ 90 := toNat_le_of_le hupper.2
      refine ⟨by omega, ?_⟩
      rw [digit, if_pos (by omega), show 65 + (c.toNat - 65) = c.toNat by omega, Char.ofNat_toNat]
    · have hlow : 97 ≤ c.toNat := toNat_le_of_le hlower.1
      have hhigh : c.toNat ≤ 122 := toNat_le_of_le hlower.2
      refine ⟨by omega, ?_⟩
      rw [digit, if_neg (by omega), if_pos (by omega), show 71 + (c.toNat - 71) = c.toNat by omega,
        Char.ofNat_toNat]
    · have hlow : 48 ≤ c.toNat := toNat_le_of_le hdigit.1
      have hhigh : c.toNat ≤ 57 := toNat_le_of_le hdigit.2
      refine ⟨by omega, ?_⟩
      rw [digit, if_neg (by omega), if_neg (by omega), if_pos (by omega), Nat.add_sub_cancel,
        Char.ofNat_toNat]
    · exact ⟨by decide, h62.symm⟩
    · exact ⟨by decide, h63.symm⟩

theorem lawful_url : url.Lawful := lawful_of_value_digit (by decide)

theorem lawful_standard : standard.Lawful := lawful_of_value_digit (by decide)

variable {A : Base64}

theorem forall_digit {P : Char → Prop} (h : ∀ m : Fin 64, P (A.digit m)) (n : Nat) :
    P (A.digit n) := by
  by_cases hn : n < 64
  · exact h ⟨n, hn⟩
  · -- Every number from 63 on has the last digit.
    have hlast : A.digit n = A.digit 63 := by
      rw [digit, if_neg (by omega), if_neg (by omega), if_neg (by omega), if_neg (by omega)]
      rfl
    rw [hlast]
    exact h 63

theorem exists_digit_of_mem {c : Char} {bytes : List UInt8} (h : c ∈ A.encodeChars bytes) :
    ∃ n, c = A.digit n := by
  fun_induction encodeChars A bytes with
  | case1 x y z rest n ih =>
    simp only [List.mem_cons] at h
    obtain h | h | h | h | h := h
    · exact ⟨_, h⟩
    · exact ⟨_, h⟩
    · exact ⟨_, h⟩
    · exact ⟨_, h⟩
    · exact ih h
  | case2 x y n =>
    simp only [List.mem_cons, List.not_mem_nil, or_false] at h
    obtain h | h | h := h
    · exact ⟨_, h⟩
    · exact ⟨_, h⟩
    · exact ⟨_, h⟩
  | case3 x n =>
    simp only [List.mem_cons, List.not_mem_nil, or_false] at h
    obtain h | h := h
    · exact ⟨_, h⟩
    · exact ⟨_, h⟩
  | case4 => cases h

theorem forall_mem_encodeChars {P : Char → Prop} (h : ∀ m : Fin 64, P (A.digit m))
    {bytes : List UInt8} {c : Char} (hc : c ∈ A.encodeChars bytes) : P c := by
  obtain ⟨n, rfl⟩ := exists_digit_of_mem hc
  exact forall_digit h n

theorem length_encodeChars (bytes : List UInt8) :
    (A.encodeChars bytes).length = (4 * bytes.length + 2) / 3 := by
  fun_induction encodeChars A bytes with
  | case1 x y z rest n ih =>
    simp only [List.length_cons, ih]
    omega
  | case2 => simp
  | case3 => simp
  | case4 => simp

theorem dot_notMem_encodeChars (bytes : List UInt8) : '.' ∉ url.encodeChars bytes := by
  intro h
  have hne : ∀ m : Fin 64, url.digit m ≠ '.' := by decide
  exact forall_mem_encodeChars (P := (· ≠ '.')) hne h rfl

theorem ofNat_eq_of_toNat {n : Nat} {x : UInt8} (h : n = x.toNat) : UInt8.ofNat n = x := by
  rw [h, UInt8.ofNat_toNat]

/-- What is written is read again. -/
theorem decodeChars?_encodeChars (hA : A.Lawful) (bytes : List UInt8) :
    A.decodeChars? (A.encodeChars bytes) = some bytes := by
  fun_induction encodeChars A bytes with
  | case1 x y z rest n ih =>
    have hx := x.toNat_lt
    have hy := y.toNat_lt
    have hz := z.toNat_lt
    have hn : ((n / 0x40000 * 64 + n / 0x1000 % 64) * 64 + n / 64 % 64) * 64 + n % 64 = n := by
      omega
    simp only [decodeChars?, hA.value_digit (show n / 0x40000 < 64 by omega),
      hA.value_digit (show n / 0x1000 % 64 < 64 by omega),
      hA.value_digit (show n / 64 % 64 < 64 by omega),
      hA.value_digit (show n % 64 < 64 by omega), ih, Option.bind_eq_bind, Option.bind_some, hn]
    rw [ofNat_eq_of_toNat (show n / 0x10000 = x.toNat by omega),
      ofNat_eq_of_toNat (show n / 256 % 256 = y.toNat by omega),
      ofNat_eq_of_toNat (show n % 256 = z.toNat by omega)]
  | case2 x y n =>
    have hx := x.toNat_lt
    have hy := y.toNat_lt
    have hn : (n / 0x1000 * 64 + n / 64 % 64) * 64 + n % 64 = n := by omega
    simp only [decodeChars?, hA.value_digit (show n / 0x1000 < 64 by omega),
      hA.value_digit (show n / 64 % 64 < 64 by omega),
      hA.value_digit (show n % 64 < 64 by omega), Option.bind_eq_bind, Option.bind_some, hn]
    rw [if_pos (by omega), ofNat_eq_of_toNat (show n / 1024 = x.toNat by omega),
      ofNat_eq_of_toNat (show n / 4 % 256 = y.toNat by omega)]
  | case3 x n =>
    have hx := x.toNat_lt
    have hn : n / 64 * 64 + n % 64 = n := by omega
    simp only [decodeChars?, hA.value_digit (show n / 64 < 64 by omega),
      hA.value_digit (show n % 64 < 64 by omega), Option.bind_eq_bind, Option.bind_some, hn]
    rw [if_pos (by omega), ofNat_eq_of_toNat (show n / 16 = x.toNat by omega)]
  | case4 => rfl

theorem toNat_ofNat {n : Nat} (h : n < 256) : (UInt8.ofNat n).toNat = n :=
  UInt8.toNat_ofNat_of_lt' h

/-- What is read is written again: no two texts are read as the same bytes. -/
theorem encodeChars_of_decodeChars? (hA : A.Lawful) {cs : List Char} {bytes : List UInt8}
    (h : A.decodeChars? cs = some bytes) : A.encodeChars bytes = cs := by
  fun_induction decodeChars? A cs generalizing bytes with
  | case1 a b c d rest ih =>
    simp only [Option.bind_eq_bind, Option.bind_eq_some_iff] at h
    obtain ⟨i, hi, j, hj, k, hk, l, hl, tail, htail, h⟩ := h
    cases h
    obtain ⟨hi, rfl⟩ := hA.digit_value hi
    obtain ⟨hj, rfl⟩ := hA.digit_value hj
    obtain ⟨hk, rfl⟩ := hA.digit_value hk
    obtain ⟨hl, rfl⟩ := hA.digit_value hl
    obtain ⟨n, hn⟩ : ∃ n, n = ((i * 64 + j) * 64 + k) * 64 + l := ⟨_, rfl⟩
    simp only [encodeChars, ← hn, ih htail]
    rw [toNat_ofNat (show n / 0x10000 < 256 by omega),
      toNat_ofNat (show n / 256 % 256 < 256 by omega), toNat_ofNat (show n % 256 < 256 by omega),
      show (n / 0x10000 * 256 + n / 256 % 256) * 256 + n % 256 = n by omega,
      show n / 0x40000 = i by omega, show n / 0x1000 % 64 = j by omega,
      show n / 64 % 64 = k by omega, show n % 64 = l by omega]
  | case2 a b c =>
    simp only [Option.bind_eq_bind, Option.bind_eq_some_iff] at h
    obtain ⟨i, hi, j, hj, k, hk, h⟩ := h
    obtain ⟨hi, rfl⟩ := hA.digit_value hi
    obtain ⟨hj, rfl⟩ := hA.digit_value hj
    obtain ⟨hk, rfl⟩ := hA.digit_value hk
    split_ifs at h with hzero
    cases h
    obtain ⟨n, hn⟩ : ∃ n, n = (i * 64 + j) * 64 + k := ⟨_, rfl⟩
    simp only [encodeChars, ← hn] at hzero ⊢
    rw [toNat_ofNat (show n / 1024 < 256 by omega), toNat_ofNat (show n / 4 % 256 < 256 by omega),
      show (n / 1024 * 256 + n / 4 % 256) * 4 = n by omega,
      show n / 0x1000 = i by omega, show n / 64 % 64 = j by omega, show n % 64 = k by omega]
  | case3 a b =>
    simp only [Option.bind_eq_bind, Option.bind_eq_some_iff] at h
    obtain ⟨i, hi, j, hj, h⟩ := h
    obtain ⟨hi, rfl⟩ := hA.digit_value hi
    obtain ⟨hj, rfl⟩ := hA.digit_value hj
    split_ifs at h with hzero
    cases h
    obtain ⟨n, hn⟩ : ∃ n, n = i * 64 + j := ⟨_, rfl⟩
    simp only [encodeChars, ← hn] at hzero ⊢
    rw [toNat_ofNat (show n / 16 < 256 by omega), show n / 16 * 16 = n by omega,
      show n / 64 = i by omega, show n % 64 = j by omega]
  | case4 _ => cases h
  | case5 =>
    cases h
    rfl

/-- Each sequence of bytes is read from just one text. -/
theorem decodeChars?_eq_some_iff (hA : A.Lawful) {cs : List Char} {bytes : List UInt8} :
    A.decodeChars? cs = some bytes ↔ cs = A.encodeChars bytes := by
  constructor
  · intro h
    exact (encodeChars_of_decodeChars? hA h).symm
  · rintro rfl
    exact decodeChars?_encodeChars hA bytes

/-! ## Texts -/

theorem decode?_encode (hA : A.Lawful) (bytes : List UInt8) :
    A.decode? (A.encode bytes) = some bytes := by
  rw [decode?, encode, String.toList_ofList, decodeChars?_encodeChars hA]

theorem encode_injective (hA : A.Lawful) : Function.Injective A.encode := by
  intro bytes bytes' h
  have hread := congrArg A.decode? h
  rw [decode?_encode hA, decode?_encode hA] at hread
  exact Option.some.inj hread

theorem length_encode (bytes : List UInt8) :
    (A.encode bytes).length = (4 * bytes.length + 2) / 3 := by
  rw [encode, String.length_ofList, length_encodeChars]

/-- A character that may stand in a URL: an ASCII letter or digit, a hyphen or an underscore. -/
def UrlSafe (c : Char) : Prop := c.isAlphanum = true ∨ c = '-' ∨ c = '_'

instance (c : Char) : Decidable (UrlSafe c) := inferInstanceAs (Decidable (_ ∨ _))

theorem urlSafe_encode {bytes : List UInt8} {c : Char} (hc : c ∈ (url.encode bytes).toList) :
    UrlSafe c := by
  have hdigits : ∀ m : Fin 64, UrlSafe (url.digit m) := by decide
  rw [encode, String.toList_ofList] at hc
  exact forall_mem_encodeChars hdigits hc

end Gatehouse.Base64
