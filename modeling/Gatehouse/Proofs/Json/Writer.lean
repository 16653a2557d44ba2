import Gatehouse.Json.Writer
import Gatehouse.Proofs.Json.Reader

/-!
# Gatehouse.Proofs.Json.Writer

A value that is written is read again. The letters that `write` makes of a value spell it
(`spells_write`), so the reader of the grammar takes them for that value and for no other
(`read?_render`). Garbled values cannot be written, and numbers have to be digits (`Writable`).
-/

namespace Gatehouse.Json

/-! ## Strings -/

def lettered : List Char := ['\x08', '\t', '\n', '\x0c', '\r']

/-- The piece that a character is written as: only control characters are written by number. -/
def pieceOf (c : Char) : Piece :=
  if c < ' ' ∧ c ∉ lettered then .unit c.toNat else .char c

theorem unit?_ofByte : ∀ n < 32, unit? (some '0') (some '0')
    (some (Hex.digit ((UInt8.ofNat n).toNat / 16)))
    (some (Hex.digit ((UInt8.ofNat n).toNat % 16))) = some n := by decide

theorem toNat_lt_of_control {c : Char} (h : c < ' ') : c.toNat < 32 := h

theorem spells_escapeChar (c : Char) {ps : List Piece} {s : Letters} (h : SpellsPieces ps s) :
    SpellsPieces (pieceOf c :: ps) ((escapeChar c).map some ++ s) := by
  by_cases hquote : c = '"'
  · subst hquote
    exact .escaped rfl h
  by_cases hslash : c = '\\'
  · subst hslash
    exact .escaped rfl h
  by_cases hl : c ∈ lettered
  · have hpiece : pieceOf c = .char c := if_neg fun hc => hc.2 hl
    rw [hpiece]
    simp only [lettered, List.mem_cons, List.not_mem_nil, or_false] at hl
    rcases hl with rfl | rfl | rfl | rfl | rfl <;> exact .escaped rfl h
  have hothers := hl
  simp only [lettered, List.mem_cons, List.not_mem_nil, or_false, not_or] at hothers
  obtain ⟨hb, ht, hn, hf, hr⟩ := hothers
  by_cases hcontrol : c < ' '
  · have hpiece : pieceOf c = .unit c.toNat := if_pos ⟨hcontrol, hl⟩
    have hescape : escapeChar c = '\\' :: 'u' :: '0' :: '0' :: Hex.ofByte (.ofNat c.toNat) := by
      simp only [escapeChar, hb, ht, hn, hf, hr, hquote, hslash, hcontrol, if_true, if_false]
    rw [hpiece, hescape]
    exact .unit (unit?_ofByte _ (toNat_lt_of_control hcontrol)) h
  · have hpiece : pieceOf c = .char c := if_neg fun hc => hcontrol hc.1
    have hescape : escapeChar c = [c] := by
      simp only [escapeChar, hb, ht, hn, hf, hr, hquote, hslash, hcontrol, if_false]
    rw [hpiece, hescape]
    exact .char hquote hslash hcontrol h

theorem spells_pieces (cs : List Char) :
    SpellsPieces (cs.map pieceOf) ((cs.flatMap escapeChar).map some) := by
  induction cs with
  | nil => exact .nil
  | cons c cs ih =>
    rw [List.map_cons, List.flatMap_cons, List.map_append]
    exact spells_escapeChar c ih

/-- A unit that is no half of a pair is a character, whatever follows it. -/
theorem textOf_unit {n : Nat} (hhigh : isHigh n = false) (hlow : isLow n = false)
    (ps : List Piece) : textOf (.unit n :: ps) = (textOf ps).map (Char.ofNat n :: ·) := by
  cases ps with
  | nil => simp [textOf, hhigh, hlow]
  | cons p ps => cases p <;> simp [textOf, hhigh, hlow]

theorem textOf_pieces (cs : List Char) : textOf (cs.map pieceOf) = some cs := by
  induction cs with
  | nil => rfl
  | cons c cs ih =>
    rw [List.map_cons, pieceOf]
    split
    · rename_i hc
      have hlt := toNat_lt_of_control hc.1
      have hhigh : isHigh c.toNat = false := by
        simp only [isHigh, Bool.and_eq_false_iff, decide_eq_false_iff_not]
        omega
      have hlow : isLow c.toNat = false := by
        simp only [isLow, Bool.and_eq_false_iff, decide_eq_false_iff_not]
        omega
      rw [textOf_unit hhigh hlow, ih, Option.map_some, Char.ofNat_toNat]
    · rw [textOf, ih, Option.map_some]

theorem spells_writeString (s : String) : Spells (.text s) ((writeString s).map some) := by
  have h := Spells.text (spells_pieces s.toList) (textOf_pieces s.toList)
  rw [String.ofList_toList] at h
  simpa [writeString] using h

/-! ## Numbers -/

/-- A number whose parts are digits where a number has digits. -/
structure Proper (n : Numeral) : Prop where
  whole : Whole n.whole
  decimals : n.decimals = [] ∨ Digits n.decimals
  exponent : ∀ minus ds, n.exponent = some (minus, ds) → Digits ds

theorem digits_toDigits (n : Nat) : Digits (Nat.toDigits 10 n) := by
  refine ⟨Nat.toDigits_ne_nil, fun c hc => ?_⟩
  have hdigit : c.isDigit = true := Nat.isDigit_of_mem_toDigits (by decide) (by decide) hc
  simpa [isDigit, Char.isDigit, Char.le_def] using hdigit

theorem digitChar_ne_zero : ∀ n < 10, n ≠ 0 → Nat.digitChar n ≠ '0' := by decide

theorem head?_toDigits {n : Nat} (hn : n ≠ 0) : (Nat.toDigits 10 n).head? ≠ some '0' := by
  induction n using Nat.strongRecOn with
  | _ n ih =>
    by_cases hlt : n < 10
    · rw [Nat.toDigits_of_lt_base hlt, List.head?_cons]
      exact fun h => digitChar_ne_zero n hlt hn (Option.some.inj h)
    · have hne : n / 10 ≠ 0 := by omega
      rw [Nat.toDigits_of_base_le (by decide) (by omega),
        List.head?_append_of_ne_nil _ Nat.toDigits_ne_nil]
      exact ih (n / 10) (by omega) hne

theorem whole_toDigits (n : Nat) : Whole (Nat.toDigits 10 n) := by
  refine ⟨digits_toDigits n, fun rest hrest => ?_⟩
  by_cases hn : n = 0
  · subst hn
    exact (List.cons.inj hrest).2.symm
  · exact absurd (congrArg List.head? hrest) (head?_toDigits hn)

theorem proper_ofInt (i : Int) : Proper (.ofInt i) where
  whole := whole_toDigits i.natAbs
  decimals := .inl rfl
  exponent _ _ h := by cases h

def unsignedLetters (n : Numeral) : Letters :=
  (writeNumeral { n with negative := false }).map some

theorem spells_unsignedLetters {n : Numeral} (h : Proper n) :
    SpellsUnsigned n (unsignedLetters n) := by
  have hdecimals : SpellsDecimals n.decimals
      ((if n.decimals.isEmpty then [] else '.' :: n.decimals).map some) := by
    rcases h.decimals with hnil | hd
    · rw [hnil]
      exact .none
    · rw [if_neg (by simpa using hd.1)]
      exact .digits hd
  have hparts (t : List Char) (ht : SpellsExponent n.exponent (t.map some))
      (hletters : writeNumeral { n with negative := false } =
        n.whole ++ (if n.decimals.isEmpty then [] else '.' :: n.decimals) ++ t) :
      SpellsUnsigned n (unsignedLetters n) := by
    rw [unsignedLetters, hletters, List.map_append, List.map_append]
    exact .parts h.whole hdecimals ht
  cases hx : n.exponent with
  | none =>
    refine hparts [] (hx ▸ .none) ?_
    simp [writeNumeral, hx]
  | some x =>
    obtain ⟨minus, ds⟩ := x
    have hd := h.exponent minus ds hx
    cases minus with
    | false =>
      refine hparts ('e' :: ds) (hx ▸ .bare (.inl rfl) hd) ?_
      simp [writeNumeral, hx]
    | true =>
      refine hparts ('e' :: '-' :: ds) (hx ▸ .minus (.inl rfl) hd) ?_
      simp [writeNumeral, hx]

theorem spells_writeNumeral {n : Numeral} (h : Proper n) :
    Spells (.number n) ((writeNumeral n).map some) := by
  cases hn : n.negative with
  | false =>
    have hletters : (writeNumeral n).map some = unsignedLetters n := by
      rw [unsignedLetters, ← hn]
    exact hletters ▸ .plain hn (spells_unsignedLetters h)
  | true =>
    have hletters : (writeNumeral n).map some = some '-' :: unsignedLetters n := by
      simp [unsignedLetters, writeNumeral, hn]
    exact hletters ▸ .minus hn (spells_unsignedLetters h)

/-! ## Values -/

mutual

def Writable : Json → Prop
  | .null => True
  | .bool _ => True
  | .number n => Proper n
  | .text _ => True
  | .garbled => False
  | .array items => WritableItems items
  | .object members => WritableMembers members

def WritableItems : List Json → Prop
  | [] => True
  | v :: vs => Writable v ∧ WritableItems vs

def WritableMembers : List (String × Json) → Prop
  | [] => True
  | (_, v) :: ms => Writable v ∧ WritableMembers ms

end

theorem blanks_nil : Blanks [] := fun _ h => nomatch h

theorem ofMembers_named (ms : List (String × Json)) :
    ofMembers (ms.map fun m => (some m.1, m.2)) = .object ms := by
  have h : (ms.map fun m => (some m.1, m.2)).mapM
      (fun (m : Option String × Json) => m.1.map (·, m.2)) = some ms := by
    induction ms with
    | nil => rfl
    | cons m ms ih => simp [ih]
  simp only [ofMembers, h]

theorem spells_member (name : String) {v : Json} {s : Letters} (hs : Spells v s) :
    SpellsMember (some name, v) ((writeString name).map some ++ some ':' :: s) := by
  have h := SpellsMember.parts blanks_nil (spells_pieces name.toList) blanks_nil blanks_nil hs
    blanks_nil
  rw [textOf_pieces, Option.map_some, String.ofList_toList] at h
  simpa [writeString] using h

mutual

theorem spells_write : ∀ v : Json, Writable v → Spells v ((write v).map some)
  | .null, _ => .null
  | .bool true, _ => .yes
  | .bool false, _ => .no
  | .number _, h => spells_writeNumeral h
  | .text s, _ => spells_writeString s
  | .garbled, h => h.elim
  | .array items, h => by
    by_cases hnil : items = []
    · subst hnil
      exact .nothing blanks_nil
    · simpa [write] using Spells.array (spells_writeItems items h hnil)
  | .object members, h => by
    by_cases hnil : members = []
    · subst hnil
      exact .empty blanks_nil
    · have hs := Spells.object (spells_writeMembers members h hnil)
      rw [ofMembers_named] at hs
      simpa [write] using hs

theorem spells_writeItems : ∀ vs : List Json, WritableItems vs → vs ≠ [] →
    SpellsItems vs ((writeItems vs).map some)
  | [], _, hnil => absurd rfl hnil
  | [v], h, _ => by
    simpa [writeItems] using SpellsItems.last blanks_nil (spells_write v h.1) blanks_nil
  | v :: w :: vs, h, _ => by
    have hmore := SpellsItems.more blanks_nil (spells_write v h.1) blanks_nil
      (spells_writeItems (w :: vs) h.2 (List.cons_ne_nil w vs))
    simpa [writeItems] using hmore

theorem spells_writeMembers : ∀ ms : List (String × Json), WritableMembers ms → ms ≠ [] →
    SpellsMembers (ms.map fun m => (some m.1, m.2)) ((writeMembers ms).map some)
  | [], _, hnil => absurd rfl hnil
  | [(name, v)], h, _ => by
    simpa [writeMembers] using SpellsMembers.last (spells_member name (spells_write v h.1))
  | (name, v) :: m :: ms, h, _ => by
    have hmore := SpellsMembers.more (spells_member name (spells_write v h.1))
      (spells_writeMembers (m :: ms) h.2 (List.cons_ne_nil m ms))
    simpa [writeMembers] using hmore

end

/-- A value that is written is read again. -/
theorem read?_render {v : Json} (h : Writable v) : read? v.render = some v := by
  rw [read?, render, String.toList_ofList, readLetters?_eq_some_iff]
  exact ⟨[], _, [], blanks_nil, spells_write v h, blanks_nil, by simp⟩

end Gatehouse.Json
