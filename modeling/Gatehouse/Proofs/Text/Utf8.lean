import Gatehouse.Text.Utf8
import Mathlib.Data.List.Basic

/-!
# Gatehouse.Proofs.Text.Utf8

The bytes of a text are read back as its characters, and no byte of them stands apart.
-/

namespace Gatehouse.Utf8

theorem charOf?_toNat {c : Char} {lowest : Nat} (h : lowest ≤ c.toNat) :
    charOf? lowest c.toNat = some c := by
  rw [charOf?, dif_pos ⟨h, c.valid⟩]
  rfl

theorem toNat_ofNat {n : Nat} (h : n < 0x100) : (UInt8.ofNat n).toNat = n := by
  rw [UInt8.toNat_ofNat']
  exact Nat.mod_eq_of_lt h

theorem continuation?_ofNat {n : Nat} (h : n < 0x40) :
    continuation? (.ofNat (0x80 + n)) = some n := by
  simp only [continuation?, toNat_ofNat (show 0x80 + n < 0x100 by omega)]
  rw [if_pos (by omega), Nat.add_sub_cancel_left]

theorem toNat_lt (c : Char) : c.toNat < 0x110000 := by
  have h := c.valid
  simp only [UInt32.isValidChar, Nat.isValidChar] at h
  have : c.toNat = c.val.toNat := rfl
  omega

/-- A character is found where its bytes stand, whatever bytes come after them. -/
theorem charAt?_encodeChar (c : Char) (more : List UInt8) :
    ∃ b bs, encodeChar c = b :: bs ∧ charAt? b (bs ++ more) = some (c, bs.length) := by
  have hlt := toNat_lt c
  simp only [encodeChar]
  generalize hn : c.toNat = n at hlt
  have hchar {lowest m : Nat} (hm : m = n) (hlow : lowest ≤ n) : charOf? lowest m = some c := by
    rw [hm, ← hn]
    exact charOf?_toNat (hn ▸ hlow)
  split_ifs with h₁ h₂ h₃
  · have hb : (UInt8.ofNat n).toNat = n := toNat_ofNat (by omega)
    refine ⟨_, [], rfl, ?_⟩
    simp only [charAt?, hb]
    rw [if_pos h₁, hchar rfl (Nat.zero_le _)]
    rfl
  · have hb : (UInt8.ofNat (0xC0 + n / 0x40)).toNat = 0xC0 + n / 0x40 := toNat_ofNat (by omega)
    refine ⟨_, [_], rfl, ?_⟩
    simp only [charAt?, hb]
    rw [if_neg (by omega), if_neg (by omega), if_pos (by omega)]
    simp only [List.cons_append, List.nil_append, continuation?_ofNat (Nat.mod_lt n (by decide)),
      Option.bind_eq_bind, Option.bind_some]
    rw [hchar (by omega) (by omega)]
    rfl
  · have hb : (UInt8.ofNat (0xE0 + n / 0x1000)).toNat = 0xE0 + n / 0x1000 :=
      toNat_ofNat (by omega)
    refine ⟨_, [_, _], rfl, ?_⟩
    simp only [charAt?, hb]
    rw [if_neg (by omega), if_neg (by omega), if_neg (by omega), if_pos (by omega)]
    simp only [List.cons_append, List.nil_append, continuation?_ofNat (Nat.mod_lt _ (by decide)),
      Option.bind_eq_bind, Option.bind_some]
    rw [hchar (by omega) (by omega)]
    rfl
  · have hb : (UInt8.ofNat (0xF0 + n / 0x40000)).toNat = 0xF0 + n / 0x40000 :=
      toNat_ofNat (by omega)
    refine ⟨_, [_, _, _], rfl, ?_⟩
    simp only [charAt?, hb]
    rw [if_neg (by omega), if_neg (by omega), if_neg (by omega), if_neg (by omega),
      if_pos (by omega)]
    simp only [List.cons_append, List.nil_append, continuation?_ofNat (Nat.mod_lt _ (by decide)),
      Option.bind_eq_bind, Option.bind_some]
    rw [hchar (by omega) (by omega)]
    rfl

theorem lettersAfter_length (bs more : List UInt8) :
    lettersAfter bs.length (bs ++ more) = lettersAfter 0 more := by
  induction bs with
  | nil => rfl
  | cons b bs ih => exact ih

theorem lettersAfter_encodeChar (c : Char) (more : List UInt8) :
    lettersAfter 0 (encodeChar c ++ more) = some c :: lettersAfter 0 more := by
  obtain ⟨b, bs, hbytes, hchar⟩ := charAt?_encodeChar c more
  rw [hbytes, List.cons_append, lettersAfter, hchar]
  exact congrArg (some c :: ·) (lettersAfter_length bs more)

/-- The letters of a text's bytes are its characters. -/
theorem letters_encode (s : String) : letters (encode s) = s.toList.map some := by
  unfold letters encode
  induction s.toList with
  | nil => rfl
  | cons c cs ih =>
    rw [List.flatMap_cons, lettersAfter_encodeChar, ih, List.map_cons]

theorem encode_ascii {s : String} (h : ∀ c ∈ s.toList, c.toNat < 0x80) :
    encode s = s.toList.map fun c => .ofNat c.toNat := by
  unfold encode
  generalize s.toList = cs at h
  induction cs with
  | nil => rfl
  | cons c cs ih =>
    have hc : c.toNat < 0x80 := h c List.mem_cons_self
    have hcs := ih fun c' hc' => h c' (List.mem_cons_of_mem c hc')
    rw [List.flatMap_cons, List.map_cons, hcs, encodeChar, if_pos hc]
    rfl

/-! ## Sizes -/

theorem size_le (s : String) : size s ≤ 4 * s.length := by
  rw [size, encode, ← String.length_toList]
  induction s.toList with
  | nil => exact Nat.le_refl 0
  | cons c cs ih =>
    have hchar : (encodeChar c).length ≤ 4 := by
      simp only [encodeChar]
      split_ifs <;> simp
    rw [List.flatMap_cons, List.length_append, List.length_cons]
    omega

theorem length_letters_le (bytes : List UInt8) : (letters bytes).length ≤ bytes.length := by
  unfold letters
  fun_induction lettersAfter 0 bytes with
  | case1 => exact Nat.le_refl _
  | case2 skip b rest ih => exact Nat.le_succ_of_le ih
  | case3 b rest c k _ ih => exact Nat.succ_le_succ ih
  | case4 b rest _ ih => exact Nat.succ_le_succ ih

end Gatehouse.Utf8
