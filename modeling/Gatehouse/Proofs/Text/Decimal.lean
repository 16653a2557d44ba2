import Gatehouse.Text.Decimal

/-!
# Gatehouse.Proofs.Text.Decimal

Whole numbers that are written in decimal digits are read again.

* `int64?_toString`: every number of sixty-three bits and a sign is read as it was written.
-/

namespace Gatehouse.Decimal

theorem value_toDigits (n : Nat) : value (Nat.toDigits 10 n) = n := by
  have h : value (Nat.toDigits 10 n) = Nat.ofDigitChars 10 (Nat.toDigits 10 n) 0 := by
    rw [value, Nat.ofDigitChars_eq_foldl]
    congr 1
    funext m c
    rw [Nat.mul_comm]
    rfl
  rw [h, Nat.ofDigitChars_ten_toDigits]

theorem nat?_toDigits (n : Nat) : nat? (Nat.toDigits 10 n) = some n := by
  have hdigits : (Nat.toDigits 10 n).all Char.isDigit = true := by
    rw [List.all_eq_true]
    intro c hc
    exact Nat.isDigit_of_mem_toDigits (by decide) (by decide) hc
  rw [nat?, if_pos ⟨Nat.toDigits_ne_nil, hdigits⟩, value_toDigits]

theorem int?_toDigits (n : Nat) : int? (Nat.toDigits 10 n) = some (n : Int) := by
  have h := nat?_toDigits n
  unfold int?
  split
  · rename_i cs hcs
    have hd : Char.isDigit '-' = true :=
      Nat.isDigit_of_mem_toDigits (n := n) (b := 10) (by decide) (by decide) (by rw [hcs]; simp)
    simp at hd
  · rename_i cs hcs
    have hd : Char.isDigit '+' = true :=
      Nat.isDigit_of_mem_toDigits (n := n) (b := 10) (by decide) (by decide) (by rw [hcs]; simp)
    simp at hd
  · rw [h]
    rfl

theorem int64?_toString {i : Int} (h : isInt64 i = true) : int64? (toString i) = some i := by
  have hint : int? (toString i).toList = some i := by
    rw [Int.toString_eq_repr, Int.repr_eq_if]
    split
    · rename_i hi
      rw [Nat.toList_repr, int?_toDigits, Int.toNat_of_nonneg hi]
    · rename_i hi
      have hsign : "-".toList = ['-'] := by decide
      rw [String.toList_append, Nat.toList_repr, hsign, List.singleton_append, int?,
        nat?_toDigits]
      change some (-((-i).toNat : Int)) = some i
      rw [Int.toNat_of_nonneg (by omega), Int.neg_neg]
  rw [int64?, hint]
  simp [Option.filter, h]

end Gatehouse.Decimal
