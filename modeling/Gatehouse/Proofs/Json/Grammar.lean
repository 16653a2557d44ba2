import Mathlib.Data.List.DropRight
import Mathlib.Data.List.TakeWhile
import Mathlib.Tactic.SplitIfs
import Gatehouse.Json.Reader

/-!
# Gatehouse.Proofs.Json.Grammar

The grammar of JSON over letters, apart from any reader: which letters are blanks, which spell the
inside of a string, a number, and a value (`Blanks`, `SpellsPieces`, `SpellsUnsigned`, `Spells`).

The readers of the parts follow their grammar. `readPieces_sound` and `readUnsigned_sound` say that
what they take is of the grammar, `readPieces_complete` and `readUnsigned_complete` that they take
all of it.
-/

namespace Gatehouse.Json

/-! ## Blanks -/

def isBlankLetter (l : Option Char) : Bool :=
  l = some ' ' || l = some '\t' || l = some '\n' || l = some '\r'

def Blanks (b : Letters) : Prop := ∀ l ∈ b, isBlankLetter l = true

def Solid (ls : Letters) : Prop := ∀ l ∈ ls.head?, isBlankLetter l = false

theorem skipBlank_append {b : Letters} (hb : Blanks b) (ls : Letters) :
    skipBlank (b ++ ls) = skipBlank ls :=
  List.dropWhile_append_of_pos hb

theorem skipBlank_of_solid {ls : Letters} (h : Solid ls) : skipBlank ls = ls := by
  cases ls with
  | nil => rfl
  | cons l ls => exact List.dropWhile_cons_of_neg (by simpa [isBlankLetter] using h l rfl)

theorem exists_blanks (ls : Letters) : ∃ b, Blanks b ∧ ls = b ++ skipBlank ls := by
  refine ⟨ls.takeWhile isBlankLetter, fun l hl => List.mem_takeWhile_imp hl, ?_⟩
  exact (List.takeWhile_append_dropWhile).symm

theorem skipBlank_skipBlank (ls : Letters) : skipBlank (skipBlank ls) = skipBlank ls :=
  List.dropWhile_idempotent _ _

/-! ## Strings -/

/-- Letters between the quotes of a string, and the pieces that they spell. -/
inductive SpellsPieces : List Piece → Letters → Prop where
  | nil : SpellsPieces [] []
  | char {c : Char} {ps : List Piece} {s : Letters} (hquote : c ≠ '"') (hslash : c ≠ '\\')
      (hplain : ¬ c < ' ') (h : SpellsPieces ps s) : SpellsPieces (.char c :: ps) (some c :: s)
  | escaped {e c : Char} {ps : List Piece} {s : Letters} (he : escaped? e = some c)
      (h : SpellsPieces ps s) : SpellsPieces (.char c :: ps) (some '\\' :: some e :: s)
  | unit {a b c d : Option Char} {n : Nat} {ps : List Piece} {s : Letters}
      (hn : unit? a b c d = some n) (h : SpellsPieces ps s) :
      SpellsPieces (.unit n :: ps) (some '\\' :: some 'u' :: a :: b :: c :: d :: s)
  | stray {ps : List Piece} {s : Letters} (h : SpellsPieces ps s) :
      SpellsPieces (.stray :: ps) (none :: s)

theorem readPieces_sound {ls rest : Letters} {ps : List Piece}
    (h : readPieces ls = some (ps, rest)) :
    ∃ s, ls = s ++ some '"' :: rest ∧ SpellsPieces ps s := by
  fun_induction readPieces ls generalizing ps with
  | case1 =>
    cases h
    exact ⟨[], rfl, .nil⟩
  | case2 a b c d ls ih =>
    simp only [Option.bind_eq_bind, Option.bind_eq_some_iff] at h
    obtain ⟨n, hn, ⟨ps, rest⟩, hread, h⟩ := h
    cases h
    obtain ⟨s, rfl, hs⟩ := ih hread
    exact ⟨_, rfl, .unit hn hs⟩
  | case3 e ls _ ih =>
    simp only [Option.bind_eq_bind, Option.bind_eq_some_iff] at h
    obtain ⟨c, hc, ⟨ps, rest⟩, hread, h⟩ := h
    cases h
    obtain ⟨s, rfl, hs⟩ := ih hread
    exact ⟨_, rfl, .escaped hc hs⟩
  | case4 => cases h
  | case5 c ls hquote _ _ hplain ih =>
    simp only [Option.bind_eq_bind, Option.bind_eq_some_iff] at h
    obtain ⟨⟨ps, rest⟩, hread, h⟩ := h
    cases h
    obtain ⟨s, rfl, hs⟩ := ih hread
    exact ⟨_, rfl, .char hquote (fun h => hplain (.inl h)) (fun h => hplain (.inr h)) hs⟩
  | case6 ls ih =>
    simp only [Option.bind_eq_bind, Option.bind_eq_some_iff] at h
    obtain ⟨⟨ps, rest⟩, hread, h⟩ := h
    cases h
    obtain ⟨s, rfl, hs⟩ := ih hread
    exact ⟨_, rfl, .stray hs⟩
  | case7 => cases h

theorem readPieces_complete {ps : List Piece} {s : Letters} (h : SpellsPieces ps s)
    (rest : Letters) : readPieces (s ++ some '"' :: rest) = some (ps, rest) := by
  induction h with
  | nil => rfl
  | char hquote hslash hplain h ih =>
    rw [List.cons_append, readPieces.eq_4, if_neg (not_or.mpr ⟨hslash, hplain⟩), ih]
    · rfl
    · exact hquote
    · exact fun _ _ _ _ _ _ h => hslash h
    · exact fun _ _ _ h => hslash h
  | @escaped e c ps s he h ih =>
    rw [List.cons_append, List.cons_append, readPieces.eq_3, he, ih]
    · rfl
    · -- The letter u stands for no character.
      rintro _ _ _ _ _ - rfl
      cases he
  | unit hn h ih =>
    simp only [List.cons_append, readPieces, hn, ih]
    rfl
  | stray h ih =>
    rw [List.cons_append, readPieces, ih]
    rfl

/-! ## Numbers -/

def Digits (ds : List Char) : Prop := ds ≠ [] ∧ ∀ c ∈ ds, isDigit c = true

theorem Digits.isDigit_head {ds : List Char} (hd : Digits ds) {rest t : Letters} {c : Char}
    (h : ds.map some ++ rest = some c :: t) : isDigit c = true := by
  obtain ⟨hnil, hall⟩ := hd
  cases ds with
  | nil => exact absurd rfl hnil
  | cons d ds =>
    obtain rfl : d = c := Option.some.inj (List.cons.inj h).1
    exact hall d List.mem_cons_self

/-- Digits of which the first is not zero, or one digit. -/
def Whole (ds : List Char) : Prop := Digits ds ∧ ∀ rest, ds = '0' :: rest → rest = []

inductive SpellsDecimals : List Char → Letters → Prop where
  | none : SpellsDecimals [] []
  | digits {ds : List Char} (hd : Digits ds) : SpellsDecimals ds (some '.' :: ds.map some)

inductive SpellsExponent : Option (Bool × List Char) → Letters → Prop where
  | none : SpellsExponent none []
  | bare {e : Char} {ds : List Char} (he : e = 'e' ∨ e = 'E') (hd : Digits ds) :
      SpellsExponent (some (false, ds)) (some e :: ds.map some)
  | plus {e : Char} {ds : List Char} (he : e = 'e' ∨ e = 'E') (hd : Digits ds) :
      SpellsExponent (some (false, ds)) (some e :: some '+' :: ds.map some)
  | minus {e : Char} {ds : List Char} (he : e = 'e' ∨ e = 'E') (hd : Digits ds) :
      SpellsExponent (some (true, ds)) (some e :: some '-' :: ds.map some)

inductive SpellsUnsigned : Numeral → Letters → Prop where
  | parts {n : Numeral} {s t : Letters} (hw : Whole n.whole) (hd : SpellsDecimals n.decimals s)
      (hx : SpellsExponent n.exponent t) : SpellsUnsigned n (n.whole.map some ++ s ++ t)

/-- A number goes no further than these letters. -/
def EndsNumber (rest : Letters) : Prop :=
  ∀ c, rest.head? = some (some c) → isDigit c = false ∧ c ≠ '.' ∧ c ≠ 'e' ∧ c ≠ 'E'

theorem spanDigits_sound {ls rest : Letters} {ds : List Char} (h : spanDigits ls = (ds, rest)) :
    ls = ds.map some ++ rest ∧ ∀ c ∈ ds, isDigit c = true := by
  fun_induction spanDigits ls generalizing ds with
  | case1 c ls hc ds' rest' hspan ih =>
    cases h
    obtain ⟨rfl, hall⟩ := ih hspan
    refine ⟨rfl, fun x hx => ?_⟩
    rcases List.mem_cons.mp hx with rfl | hx
    · exact hc
    · exact hall x hx
  | case2 c ls hc =>
    cases h
    exact ⟨rfl, fun x hx => nomatch hx⟩
  | case3 ls _ =>
    cases h
    exact ⟨rfl, fun x hx => nomatch hx⟩

theorem spanDigits_complete {ds : List Char} (hd : ∀ c ∈ ds, isDigit c = true) {rest : Letters}
    (hrest : ∀ c, rest.head? = some (some c) → isDigit c = false) :
    spanDigits (ds.map some ++ rest) = (ds, rest) := by
  induction ds with
  | nil =>
    match rest with
    | [] => rfl
    | none :: _ => rfl
    | some c :: _ => simp [spanDigits, hrest c rfl]
  | cons c ds ih =>
    have hspan := ih fun x hx => hd x (List.mem_cons_of_mem c hx)
    simp [spanDigits, hd c List.mem_cons_self, hspan]

theorem readWhole_sound {ls rest : Letters} {ds : List Char} (h : readWhole ls = some (ds, rest)) :
    ls = ds.map some ++ rest ∧ Whole ds := by
  unfold readWhole at h
  split at h
  · cases h
  · cases h
  · rename_i hnil hzero hspan
    cases h
    obtain ⟨hls, hall⟩ := spanDigits_sound hspan
    refine ⟨hls, ⟨fun hds => hnil hds, hall⟩, fun tail htail => ?_⟩
    cases tail with
    | nil => rfl
    | cons c tail => exact absurd htail fun htail => hzero c tail htail

theorem readWhole_complete {ds : List Char} (hd : Whole ds) {rest : Letters}
    (hrest : ∀ c, rest.head? = some (some c) → isDigit c = false) :
    readWhole (ds.map some ++ rest) = some (ds, rest) := by
  obtain ⟨⟨hnil, hall⟩, hzero⟩ := hd
  rw [readWhole, spanDigits_complete hall hrest]
  split
  · rename_i h
    exact absurd (congrArg Prod.fst h) hnil
  · rename_i h
    cases hzero _ (congrArg Prod.fst h)
  · rename_i h
    exact congrArg some h.symm

theorem readDecimals_sound {ls rest : Letters} {ds : List Char}
    (h : readDecimals ls = some (ds, rest)) : ∃ s, ls = s ++ rest ∧ SpellsDecimals ds s := by
  unfold readDecimals at h
  split at h
  · split at h
    · cases h
    · rename_i hnil hspan
      cases h
      obtain ⟨rfl, hall⟩ := spanDigits_sound hspan
      exact ⟨_, rfl, .digits ⟨hnil, hall⟩⟩
  · cases h
    exact ⟨[], rfl, .none⟩

theorem readDecimals_complete {ds : List Char} {s rest : Letters} (h : SpellsDecimals ds s)
    (hrest : ∀ c, rest.head? = some (some c) → isDigit c = false ∧ c ≠ '.') :
    readDecimals (s ++ rest) = some (ds, rest) := by
  cases h with
  | none =>
    rw [List.nil_append]
    unfold readDecimals
    split
    · exact absurd rfl (hrest '.' rfl).2
    · rfl
  | digits hd =>
    have hspan := spanDigits_complete hd.2 fun c hc => (hrest c hc).1
    rw [List.cons_append]
    simp only [readDecimals, hspan]
    split
    · rename_i h
      exact absurd (congrArg Prod.fst h) hd.1
    · rename_i h
      exact congrArg some h.symm

theorem readExponentDigits_sound {minus : Bool} {ls rest : Letters} {x : Option (Bool × List Char)}
    (h : readExponentDigits minus ls = some (x, rest)) :
    ∃ ds, ls = ds.map some ++ rest ∧ x = some (minus, ds) ∧ Digits ds := by
  unfold readExponentDigits at h
  split at h
  · cases h
  · rename_i hnil hspan
    cases h
    obtain ⟨rfl, hall⟩ := spanDigits_sound hspan
    exact ⟨_, rfl, rfl, hnil, hall⟩

theorem readExponentDigits_complete {ds : List Char} (hd : Digits ds) (minus : Bool)
    {rest : Letters} (hrest : ∀ c, rest.head? = some (some c) → isDigit c = false) :
    readExponentDigits minus (ds.map some ++ rest) = some (some (minus, ds), rest) := by
  rw [readExponentDigits, spanDigits_complete hd.2 hrest]
  split
  · rename_i h
    exact absurd (congrArg Prod.fst h) hd.1
  · rename_i h
    cases h
    rfl

theorem readExponent_sound {ls rest : Letters} {x : Option (Bool × List Char)}
    (h : readExponent ls = some (x, rest)) : ∃ s, ls = s ++ rest ∧ SpellsExponent x s := by
  unfold readExponent at h
  split at h
  · split_ifs at h with he
    · split at h
      · obtain ⟨ds, rfl, rfl, hd⟩ := readExponentDigits_sound h
        exact ⟨_, rfl, .plus he hd⟩
      · obtain ⟨ds, rfl, rfl, hd⟩ := readExponentDigits_sound h
        exact ⟨_, rfl, .minus he hd⟩
      · obtain ⟨ds, rfl, rfl, hd⟩ := readExponentDigits_sound h
        exact ⟨_, rfl, .bare he hd⟩
    · cases h
      exact ⟨[], rfl, .none⟩
  · cases h
    exact ⟨[], rfl, .none⟩

theorem readExponent_complete {x : Option (Bool × List Char)} {s rest : Letters}
    (h : SpellsExponent x s) (hrest : EndsNumber rest) :
    readExponent (s ++ rest) = some (x, rest) := by
  have hdigit : ∀ c, rest.head? = some (some c) → isDigit c = false := fun c hc => (hrest c hc).1
  cases h with
  | none =>
    rw [List.nil_append]
    unfold readExponent
    split
    · rename_i e ls
      obtain ⟨-, -, he, hE⟩ := hrest e rfl
      exact if_neg (not_or.mpr ⟨he, hE⟩)
    · rfl
  | @bare e ds he hd =>
    have hread := readExponentDigits_complete hd false hdigit
    rw [List.cons_append, readExponent, if_pos he]
    · exact hread
    · exact fun t ht => absurd (hd.isDigit_head ht) (by decide)
    · exact fun t ht => absurd (hd.isDigit_head ht) (by decide)
  | plus he hd =>
    simp only [List.cons_append, readExponent, if_pos he]
    exact readExponentDigits_complete hd false hdigit
  | minus he hd =>
    simp only [List.cons_append, readExponent, if_pos he]
    exact readExponentDigits_complete hd true hdigit

theorem SpellsExponent.head {x : Option (Bool × List Char)} {s rest : Letters}
    (h : SpellsExponent x s) (hrest : EndsNumber rest) (c : Char)
    (hc : (s ++ rest).head? = some (some c)) : isDigit c = false ∧ c ≠ '.' := by
  have hletter {e : Char} (he : e = 'e' ∨ e = 'E') : isDigit e = false ∧ e ≠ '.' := by
    rcases he with rfl | rfl <;> decide
  cases h with
  | none => exact ⟨(hrest c hc).1, (hrest c hc).2.1⟩
  | bare he =>
    cases hc
    exact hletter he
  | plus he =>
    cases hc
    exact hletter he
  | minus he =>
    cases hc
    exact hletter he

theorem SpellsDecimals.head {ds : List Char} {s rest : Letters} (h : SpellsDecimals ds s)
    (hrest : ∀ c, rest.head? = some (some c) → isDigit c = false) (c : Char)
    (hc : (s ++ rest).head? = some (some c)) : isDigit c = false := by
  cases h with
  | none => exact hrest c hc
  | digits =>
    cases hc
    decide

theorem readUnsigned_sound {negative : Bool} {ls rest : Letters} {v : Json}
    (h : readUnsigned negative ls = some (v, rest)) :
    ∃ n s, v = .number n ∧ n.negative = negative ∧ ls = s ++ rest ∧ SpellsUnsigned n s := by
  simp only [readUnsigned, Option.bind_eq_bind, Option.bind_eq_some_iff] at h
  obtain ⟨⟨whole, ls₁⟩, hwhole, ⟨decimals, ls₂⟩, hdecimals, ⟨x, ls₃⟩, hexponent, h⟩ := h
  cases h
  obtain ⟨rfl, hw⟩ := readWhole_sound hwhole
  obtain ⟨s, rfl, hd⟩ := readDecimals_sound hdecimals
  obtain ⟨t, rfl, hx⟩ := readExponent_sound hexponent
  exact ⟨⟨negative, whole, decimals, x⟩, whole.map some ++ s ++ t, rfl, rfl, by simp,
    .parts hw hd hx⟩

theorem readUnsigned_complete {n : Numeral} {s rest : Letters} (h : SpellsUnsigned n s)
    (hrest : EndsNumber rest) : readUnsigned n.negative (s ++ rest) = some (.number n, rest) := by
  cases h with
  | @parts s t hw hd hx =>
    have hexponent := readExponent_complete hx hrest
    have hdecimals := readDecimals_complete hd (hx.head hrest)
    have hwhole := readWhole_complete hw (hd.head fun c hc => (hx.head hrest c hc).1)
    simp only [List.append_assoc, readUnsigned, hwhole, hdecimals, hexponent,
      Option.bind_eq_bind, Option.bind_some]

/-! ## Values -/

mutual

/-- Letters that spell a value, without blanks around it. -/
inductive Spells : Json → Letters → Prop where
  | null : Spells .null [some 'n', some 'u', some 'l', some 'l']
  | yes : Spells (.bool true) [some 't', some 'r', some 'u', some 'e']
  | no : Spells (.bool false) [some 'f', some 'a', some 'l', some 's', some 'e']
  | text {ps : List Piece} {s : Letters} {cs : List Char} (hs : SpellsPieces ps s)
      (ht : textOf ps = some cs) : Spells (.text (String.ofList cs)) (some '"' :: s ++ [some '"'])
  | garbled {ps : List Piece} {s : Letters} (hs : SpellsPieces ps s) (ht : textOf ps = none) :
      Spells .garbled (some '"' :: s ++ [some '"'])
  | plain {n : Numeral} {s : Letters} (hn : n.negative = false) (hs : SpellsUnsigned n s) :
      Spells (.number n) s
  | minus {n : Numeral} {s : Letters} (hn : n.negative = true) (hs : SpellsUnsigned n s) :
      Spells (.number n) (some '-' :: s)
  | nothing {b : Letters} (hb : Blanks b) : Spells (.array []) (some '[' :: b ++ [some ']'])
  | array {vs : List Json} {s : Letters} (hs : SpellsItems vs s) :
      Spells (.array vs) (some '[' :: s ++ [some ']'])
  | empty {b : Letters} (hb : Blanks b) : Spells (.object []) (some '\x7b' :: b ++ [some '\x7d'])
  | object {ms : List (Option String × Json)} {s : Letters} (hs : SpellsMembers ms s) :
      Spells (ofMembers ms) (some '\x7b' :: s ++ [some '\x7d'])

inductive SpellsItems : List Json → Letters → Prop where
  | last {b s b' : Letters} {v : Json} (hb : Blanks b) (hs : Spells v s) (hb' : Blanks b') :
      SpellsItems [v] (b ++ s ++ b')
  | more {b s b' t : Letters} {v : Json} {vs : List Json} (hb : Blanks b) (hs : Spells v s)
      (hb' : Blanks b') (ht : SpellsItems vs t) :
      SpellsItems (v :: vs) (b ++ s ++ b' ++ some ',' :: t)

/-- Letters that spell a name and a value. A name may be garbled, too. -/
inductive SpellsMember : Option String × Json → Letters → Prop where
  | parts {b s b' b₁ t b₂ : Letters} {ps : List Piece} {v : Json} (hb : Blanks b)
      (hs : SpellsPieces ps s) (hb' : Blanks b') (hb₁ : Blanks b₁) (ht : Spells v t)
      (hb₂ : Blanks b₂) :
      SpellsMember ((textOf ps).map String.ofList, v)
        (b ++ some '"' :: s ++ some '"' :: b' ++ some ':' :: b₁ ++ t ++ b₂)

/-- Letters that spell the members of an object, with a comma between any two. -/
inductive SpellsMembers : List (Option String × Json) → Letters → Prop where
  | last {m : Option String × Json} {s : Letters} (hs : SpellsMember m s) : SpellsMembers [m] s
  | more {m : Option String × Json} {ms : List (Option String × Json)} {s t : Letters}
      (hs : SpellsMember m s) (ht : SpellsMembers ms t) :
      SpellsMembers (m :: ms) (s ++ some ',' :: t)

end

/-- The letters spell a value, and nothing else but blanks around it. -/
def IsTextOf (ls : Letters) (v : Json) : Prop :=
  ∃ b s b', Blanks b ∧ Spells v s ∧ Blanks b' ∧ ls = b ++ s ++ b'

end Gatehouse.Json
