import Gatehouse.Proofs.Json.Grammar

/-!
# Gatehouse.Proofs.Json.Reader

The reader of JSON reads what the grammar admits, and all of it: letters are read as a value just if
they spell it (`readLetters?_eq_some_iff`). In particular the reader never stops for want of fuel.
-/

namespace Gatehouse.Json

/-! ## What is read is spelled -/

/-- What is read with this much fuel is spelled by the letters that are taken. -/
structure SoundAt (fuel : Nat) : Prop where
  value : ∀ {ls v rest}, readValue fuel ls = some (v, rest) →
    ∃ b s, Blanks b ∧ Spells v s ∧ ls = b ++ s ++ rest
  items : ∀ {ls vs rest}, readItems fuel ls = some (vs, rest) →
    ∃ s, SpellsItems vs s ∧ ls = s ++ some ']' :: rest
  members : ∀ {ls ms rest}, readMembers fuel ls = some (ms, rest) →
    ∃ s, SpellsMembers ms s ∧ ls = s ++ some '\x7d' :: rest

theorem readString_sound {ls rest : Letters} {t : Option String}
    (h : readString ls = some (t, rest)) :
    ∃ ps s, ls = s ++ some '"' :: rest ∧ SpellsPieces ps s ∧ t = (textOf ps).map String.ofList := by
  unfold readString at h
  split at h
  · rename_i hread
    cases h
    obtain ⟨s, rfl, hs⟩ := readPieces_sound hread
    exact ⟨_, s, rfl, hs, rfl⟩
  · cases h

theorem readItems_skipBlank (fuel : Nat) (ls : Letters) :
    readItems fuel (skipBlank ls) = readItems fuel ls := by
  cases fuel with
  | zero => rfl
  | succ fuel =>
    have hvalue : readValue fuel (skipBlank ls) = readValue fuel ls := by
      cases fuel with
      | zero => rfl
      | succ fuel => rw [readValue, readValue, skipBlank_skipBlank]
    rw [readItems, readItems, hvalue]

theorem readMembers_skipBlank (fuel : Nat) (ls : Letters) :
    readMembers fuel (skipBlank ls) = readMembers fuel ls := by
  cases fuel with
  | zero => rfl
  | succ fuel => rw [readMembers, readMembers, skipBlank_skipBlank]

theorem sound_string {ls rest : Letters} {v : Json}
    (h : (match readString ls with
      | some (some s, rest) => some (text s, rest)
      | some (none, rest) => some (garbled, rest)
      | none => none) = some (v, rest)) :
    ∃ s, Spells v s ∧ some '"' :: ls = s ++ rest := by
  split at h
  · rename_i hread
    cases h
    obtain ⟨ps, s, rfl, hs, ht⟩ := readString_sound hread
    obtain ⟨cs, hcs, rfl⟩ := Option.map_eq_some_iff.mp ht.symm
    exact ⟨_, .text hs hcs, by simp⟩
  · rename_i hread
    cases h
    obtain ⟨ps, s, rfl, hs, ht⟩ := readString_sound hread
    exact ⟨_, .garbled hs (Option.map_eq_none_iff.mp ht.symm), by simp⟩
  · cases h

theorem sound_array {fuel : Nat} (ih : SoundAt fuel) {ls rest : Letters} {v : Json}
    (h : (match skipBlank ls with
      | some ']' :: rest => some (array [], rest)
      | rest =>
        match readItems fuel rest with
        | some (items, rest) => some (array items, rest)
        | none => none) = some (v, rest)) :
    ∃ s, Spells v s ∧ some '[' :: ls = s ++ rest := by
  obtain ⟨b, hb, hls⟩ := exists_blanks ls
  split at h
  · rename_i hclose
    cases h
    exact ⟨_, .nothing hb, by rw [hls, hclose]; simp⟩
  · rw [readItems_skipBlank] at h
    split at h
    · rename_i hread
      cases h
      obtain ⟨s, hs, rfl⟩ := ih.items hread
      exact ⟨_, .array hs, by simp⟩
    · cases h

theorem sound_object {fuel : Nat} (ih : SoundAt fuel) {ls rest : Letters} {v : Json}
    (h : (match skipBlank ls with
      | some '\x7d' :: rest => some (object [], rest)
      | rest =>
        match readMembers fuel rest with
        | some (members, rest) => some (ofMembers members, rest)
        | none => none) = some (v, rest)) :
    ∃ s, Spells v s ∧ some '\x7b' :: ls = s ++ rest := by
  obtain ⟨b, hb, hls⟩ := exists_blanks ls
  split at h
  · rename_i hclose
    cases h
    exact ⟨_, .empty hb, by rw [hls, hclose]; simp⟩
  · rw [readMembers_skipBlank] at h
    split at h
    · rename_i hread
      cases h
      obtain ⟨s, hs, rfl⟩ := ih.members hread
      exact ⟨_, .object hs, by simp⟩
    · cases h

theorem sound_value {fuel : Nat} (ih : SoundAt fuel) {ls rest : Letters} {v : Json}
    (h : readValue (fuel + 1) ls = some (v, rest)) :
    ∃ b s, Blanks b ∧ Spells v s ∧ ls = b ++ s ++ rest := by
  obtain ⟨b, hb, hls⟩ := exists_blanks ls
  suffices hs : ∃ s, Spells v s ∧ skipBlank ls = s ++ rest by
    obtain ⟨s, hs, hrest⟩ := hs
    exact ⟨b, s, hb, hs, by rw [hls, hrest, List.append_assoc]⟩
  rw [readValue] at h
  split at h
  · rename_i hletters
    cases h
    exact ⟨_, .null, hletters⟩
  · rename_i hletters
    cases h
    exact ⟨_, .yes, hletters⟩
  · rename_i hletters
    cases h
    exact ⟨_, .no, hletters⟩
  · rename_i hletters
    rw [hletters]
    exact sound_string h
  · rename_i hletters
    rw [hletters]
    exact sound_array ih h
  · rename_i hletters
    rw [hletters]
    exact sound_object ih h
  · rename_i hletters
    obtain ⟨n, s, rfl, hn, rfl, hs⟩ := readUnsigned_sound h
    exact ⟨_, .minus hn hs, hletters⟩
  · obtain ⟨n, s, rfl, hn, hrest, hs⟩ := readUnsigned_sound h
    exact ⟨s, .plain hn hs, hrest⟩

theorem sound_items {fuel : Nat} (ih : SoundAt fuel) {ls rest : Letters} {vs : List Json}
    (h : readItems (fuel + 1) ls = some (vs, rest)) :
    ∃ s, SpellsItems vs s ∧ ls = s ++ some ']' :: rest := by
  rw [readItems] at h
  split at h
  · cases h
  · rename_i v ls₁ hread
    obtain ⟨b, s, hb, hs, rfl⟩ := ih.value hread
    obtain ⟨b', hb', hls₁⟩ := exists_blanks ls₁
    split at h
    · rename_i hclose
      cases h
      exact ⟨_, .last hb hs hb', by rw [hls₁, hclose]; simp⟩
    · rename_i hcomma
      split at h
      · rename_i hmore
        cases h
        obtain ⟨t, ht, rfl⟩ := ih.items hmore
        exact ⟨_, .more hb hs hb' ht, by rw [hls₁, hcomma]; simp⟩
      · cases h
    · cases h

theorem sound_members {fuel : Nat} (ih : SoundAt fuel) {ls rest : Letters}
    {ms : List (Option String × Json)} (h : readMembers (fuel + 1) ls = some (ms, rest)) :
    ∃ s, SpellsMembers ms s ∧ ls = s ++ some '\x7d' :: rest := by
  obtain ⟨b, hb, hls⟩ := exists_blanks ls
  rw [readMembers] at h
  split at h
  · rename_i hquote
    split at h
    · cases h
    · rename_i name ls₁ hname
      obtain ⟨ps, s, rfl, hs, rfl⟩ := readString_sound hname
      obtain ⟨b', hb', hls₁⟩ := exists_blanks ls₁
      split at h
      · rename_i hcolon
        split at h
        · cases h
        · rename_i v ls₂ hread
          obtain ⟨b₁, t, hb₁, ht, rfl⟩ := ih.value hread
          obtain ⟨b₂, hb₂, hls₂⟩ := exists_blanks ls₂
          have hmember := SpellsMember.parts hb hs hb' hb₁ ht hb₂
          split at h
          · rename_i hclose
            cases h
            refine ⟨_, .last hmember, ?_⟩
            rw [hls, hquote, hls₁, hcolon, hls₂, hclose]
            simp
          · rename_i hcomma
            split at h
            · rename_i hmore
              cases h
              obtain ⟨u, hu, rfl⟩ := ih.members hmore
              refine ⟨_, .more hmember hu, ?_⟩
              rw [hls, hquote, hls₁, hcolon, hls₂, hcomma]
              simp
            · cases h
          · cases h
      · cases h
  · cases h

theorem soundAt (fuel : Nat) : SoundAt fuel := by
  induction fuel with
  | zero => exact ⟨fun h => (nomatch h), fun h => (nomatch h), fun h => (nomatch h)⟩
  | succ fuel ih => exact ⟨sound_value ih, sound_items ih, sound_members ih⟩

/-! ## What is spelled is read -/

theorem EndsNumber.append {b rest : Letters} (hb : Blanks b) (h : EndsNumber rest) :
    EndsNumber (b ++ rest) := by
  cases b with
  | nil => exact h
  | cons l b =>
    intro c hc
    cases hc
    have hblank := hb (some c) List.mem_cons_self
    simp only [isBlankLetter, Bool.or_eq_true, decide_eq_true_eq, Option.some.injEq] at hblank
    rcases hblank with ((rfl | rfl) | rfl) | rfl <;> decide

theorem SpellsUnsigned.head {n : Numeral} {s : Letters} (h : SpellsUnsigned n s) :
    ∃ c t, s = some c :: t ∧ isDigit c = true := by
  cases h with
  | @parts s t hw =>
    obtain ⟨⟨hnil, hall⟩, -⟩ := hw
    obtain ⟨c, ds, hds⟩ := List.exists_cons_of_ne_nil hnil
    refine ⟨c, ds.map some ++ s ++ t, by simp [hds], hall c ?_⟩
    rw [hds]
    exact List.mem_cons_self

/-- A value begins with a character that is no blank and closes no array. -/
theorem Spells.head {v : Json} {s : Letters} (h : Spells v s) :
    ∃ c t, s = some c :: t ∧ isBlankLetter (some c) = false ∧ c ≠ ']' := by
  cases h with
  | plain _ hs =>
    obtain ⟨c, t, rfl, hc⟩ := hs.head
    refine ⟨c, t, rfl, ?_, ?_⟩
    · cases hblank : isBlankLetter (some c) with
      | false => rfl
      | true =>
        simp only [isBlankLetter, Bool.or_eq_true, decide_eq_true_eq, Option.some.injEq] at hblank
        rcases hblank with ((rfl | rfl) | rfl) | rfl <;> cases hc
    · rintro rfl
      cases hc
  | _ => exact ⟨_, _, rfl, rfl, by decide⟩

theorem Spells.solid {v : Json} {s : Letters} (h : Spells v s) (rest : Letters) :
    Solid (s ++ rest) := by
  obtain ⟨c, t, rfl, hc, -⟩ := h.head
  intro l hl
  cases hl
  exact hc

theorem SpellsItems.opens {vs : List Json} {s : Letters} (h : SpellsItems vs s) (rest : Letters) :
    ∃ c t, skipBlank (s ++ rest) = some c :: t ∧ c ≠ ']' := by
  have hopens {b s : Letters} {v : Json} (hb : Blanks b) (hs : Spells v s) (rest : Letters) :
      ∃ c t, skipBlank (b ++ (s ++ rest)) = some c :: t ∧ c ≠ ']' := by
    rw [skipBlank_append hb, skipBlank_of_solid (hs.solid rest)]
    obtain ⟨c, t, rfl, -, hc⟩ := hs.head
    exact ⟨c, t ++ rest, rfl, hc⟩
  cases h with
  | last hb hs => simpa only [List.append_assoc] using hopens hb hs _
  | more hb hs => simpa only [List.append_assoc] using hopens hb hs _

theorem SpellsMember.opens {m : Option String × Json} {s : Letters} (h : SpellsMember m s)
    (rest : Letters) : ∃ t, skipBlank (s ++ rest) = some '"' :: t := by
  cases h with
  | parts hb =>
    simp only [List.append_assoc, skipBlank_append hb]
    exact ⟨_, rfl⟩

theorem SpellsMembers.opens {ms : List (Option String × Json)} {s : Letters}
    (h : SpellsMembers ms s) (rest : Letters) : ∃ t, skipBlank (s ++ rest) = some '"' :: t := by
  cases h with
  | last hs => exact hs.opens rest
  | more hs =>
    rw [List.append_assoc]
    exact hs.opens _

theorem readString_complete {ps : List Piece} {s : Letters} (h : SpellsPieces ps s)
    (rest : Letters) :
    readString (s ++ some '"' :: rest) = some ((textOf ps).map String.ofList, rest) := by
  rw [readString, readPieces_complete h]

theorem Spells.length_pos {v : Json} {s : Letters} (h : Spells v s) : 0 < s.length := by
  obtain ⟨c, t, rfl, -⟩ := h.head
  exact Nat.succ_pos _

theorem SpellsItems.length_pos {vs : List Json} {s : Letters} (h : SpellsItems vs s) :
    0 < s.length := by
  cases h with
  | last _ hs =>
    have := hs.length_pos
    simp only [List.length_append]
    omega
  | more =>
    simp only [List.length_append, List.length_cons]
    omega

theorem SpellsMembers.length_pos {ms : List (Option String × Json)} {s : Letters}
    (h : SpellsMembers ms s) : 0 < s.length := by
  cases h with
  | last hs =>
    cases hs with
    | parts =>
      simp only [List.length_append, List.length_cons]
      omega
  | more =>
    simp only [List.length_append, List.length_cons]
    omega

/-- This much fuel is enough for texts that are half as long. -/
structure CompleteAt (fuel : Nat) : Prop where
  value : ∀ {b s rest v}, Blanks b → Spells v s → EndsNumber rest → 2 * s.length ≤ fuel + 1 →
    readValue fuel (b ++ (s ++ rest)) = some (v, rest)
  items : ∀ rest {s vs}, SpellsItems vs s → 2 * s.length ≤ fuel →
    readItems fuel (s ++ some ']' :: rest) = some (vs, rest)
  members : ∀ rest {s ms}, SpellsMembers ms s → 2 * s.length ≤ fuel →
    readMembers fuel (s ++ some '\x7d' :: rest) = some (ms, rest)

theorem readValue_of_digit {fuel : Nat} {ls t : Letters} {c : Char} (hc : isDigit c = true)
    (hls : skipBlank ls = some c :: t) :
    readValue (fuel + 1) ls = readUnsigned false (some c :: t) := by
  rw [readValue, hls]
  split <;> rename_i heq
  all_goals first
    | rfl
    | (cases heq; cases hc)

theorem complete_value {fuel : Nat} (ih : CompleteAt fuel) {b s rest : Letters} {v : Json}
    (hb : Blanks b) (hs : Spells v s) (hrest : EndsNumber rest) (hlen : 2 * s.length ≤ fuel + 2) :
    readValue (fuel + 1) (b ++ (s ++ rest)) = some (v, rest) := by
  have hskip : skipBlank (b ++ (s ++ rest)) = s ++ rest := by
    rw [skipBlank_append hb, skipBlank_of_solid (hs.solid rest)]
  cases hs with
  | null => rw [readValue, hskip]; rfl
  | yes => rw [readValue, hskip]; rfl
  | no => rw [readValue, hskip]; rfl
  | text hs ht =>
    rw [readValue, hskip]
    simp only [List.cons_append, List.append_assoc, List.nil_append, readString_complete hs, ht,
      Option.map_some]
  | garbled hs ht =>
    rw [readValue, hskip]
    simp only [List.cons_append, List.append_assoc, List.nil_append, readString_complete hs, ht,
      Option.map_none]
  | plain hn hs =>
    obtain ⟨c, t, rfl, hc⟩ := hs.head
    rw [readValue_of_digit hc hskip, ← hn]
    exact readUnsigned_complete hs hrest
  | minus hn hs =>
    rw [readValue, hskip, List.cons_append, ← hn]
    exact readUnsigned_complete hs hrest
  | nothing hb' =>
    rw [readValue, hskip]
    simp only [List.cons_append, List.append_assoc, List.nil_append, skipBlank_append hb']
    rfl
  | array hs =>
    obtain ⟨c, t, hopen, hc⟩ := hs.opens (some ']' :: rest)
    have hread := ih.items rest hs (by simp at hlen; omega)
    rw [readValue, hskip]
    simp only [List.cons_append, List.append_assoc, List.nil_append]
    split
    · rename_i hclose
      rw [hopen] at hclose
      cases hclose
      exact absurd rfl hc
    · rw [readItems_skipBlank, hread]
  | empty hb' =>
    rw [readValue, hskip]
    simp only [List.cons_append, List.append_assoc, List.nil_append, skipBlank_append hb']
    rfl
  | object hs =>
    obtain ⟨t, hopen⟩ := hs.opens (some '\x7d' :: rest)
    have hread := ih.members rest hs (by simp at hlen; omega)
    rw [readValue, hskip]
    simp only [List.cons_append, List.append_assoc, List.nil_append]
    split
    · rename_i hclose
      rw [hopen] at hclose
      cases hclose
    · rw [readMembers_skipBlank, hread]

theorem skipBlank_closer {b : Letters} (hb : Blanks b) {l : Option Char}
    (hl : isBlankLetter l = false) (rest : Letters) :
    skipBlank (b ++ l :: rest) = l :: rest := by
  rw [skipBlank_append hb, skipBlank_of_solid]
  intro x hx
  cases hx
  exact hl

theorem complete_items {fuel : Nat} (ih : CompleteAt fuel) {s rest : Letters} {vs : List Json}
    (hs : SpellsItems vs s) (hlen : 2 * s.length ≤ fuel + 1) :
    readItems (fuel + 1) (s ++ some ']' :: rest) = some (vs, rest) := by
  cases hs with
  | last hb hs hb' =>
    have hends : EndsNumber (some ']' :: rest) := fun c hc => by cases hc; decide
    have hread := ih.value hb hs (hends.append hb') (by simp at hlen; omega)
    simp only [List.append_assoc, readItems, hread, skipBlank_closer hb' (l := some ']') rfl]
  | @more _ _ _ t _ _ hb hs hb' ht =>
    have hends : EndsNumber (some ',' :: (t ++ some ']' :: rest)) := fun c hc => by cases hc; decide
    have hread := ih.value hb hs (hends.append hb') (by simp at hlen; omega)
    have hmore := ih.items rest ht (by simp at hlen; omega)
    simp only [List.append_assoc, List.cons_append, readItems, hread,
      skipBlank_closer hb' (l := some ',') rfl, hmore]

def afterMember (fuel : Nat) (m : Option String × Json) (ls : Letters) :
    Option (List (Option String × Json) × Letters) :=
  match skipBlank ls with
  | some '\x7d' :: rest => some ([m], rest)
  | some ',' :: rest =>
    match readMembers fuel rest with
    | some (ms, rest) => some (m :: ms, rest)
    | none => none
  | _ => none

theorem complete_member {fuel : Nat} (ih : CompleteAt fuel) {s rest : Letters}
    {m : Option String × Json} (hs : SpellsMember m s) (hrest : EndsNumber rest)
    (hlen : 2 * s.length ≤ fuel + 1) :
    readMembers (fuel + 1) (s ++ rest) = afterMember fuel m rest := by
  cases hs with
  | parts hb hs hb' hb₁ ht hb₂ =>
    have hread := ih.value hb₁ ht (hrest.append hb₂) (by simp at hlen; omega)
    simp only [List.append_assoc, List.cons_append, readMembers,
      skipBlank_closer hb (l := some '"') rfl, readString_complete hs,
      skipBlank_closer hb' (l := some ':') rfl, hread, skipBlank_append hb₂]
    rfl

theorem complete_members {fuel : Nat} (ih : CompleteAt fuel) {s rest : Letters}
    {ms : List (Option String × Json)} (hs : SpellsMembers ms s)
    (hlen : 2 * s.length ≤ fuel + 1) :
    readMembers (fuel + 1) (s ++ some '\x7d' :: rest) = some (ms, rest) := by
  cases hs with
  | last hs =>
    have hends : EndsNumber (some '\x7d' :: rest) := fun c hc => by cases hc; decide
    rw [complete_member ih hs hends hlen]
    rfl
  | @more _ _ _ t hs ht =>
    have hends : EndsNumber (some ',' :: (t ++ some '\x7d' :: rest)) :=
      fun c hc => by cases hc; decide
    have hmore := ih.members rest ht (by simp at hlen; omega)
    rw [List.append_assoc, List.cons_append, complete_member ih hs hends (by simp at hlen; omega)]
    have hskip : skipBlank (some ',' :: (t ++ some '\x7d' :: rest)) =
        some ',' :: (t ++ some '\x7d' :: rest) := rfl
    simp only [afterMember, hskip, hmore]

theorem completeAt (fuel : Nat) : CompleteAt fuel := by
  induction fuel with
  | zero =>
    -- Whatever is spelled has a letter, and there is no fuel for one.
    refine ⟨fun _ hs _ hlen => ?_, fun _ _ _ hs hlen => ?_, fun _ _ _ hs hlen => ?_⟩
    · have := hs.length_pos
      omega
    · have := hs.length_pos
      omega
    · have := hs.length_pos
      omega
  | succ fuel ih =>
    exact ⟨complete_value ih, fun _ => complete_items ih, fun _ => complete_members ih⟩

/-! ## Texts -/

/-- The letters that are read as a value are those that spell it. -/
theorem readLetters?_eq_some_iff {ls : Letters} {v : Json} :
    readLetters? ls = some v ↔ IsTextOf ls v := by
  constructor
  · intro h
    unfold readLetters? at h
    split at h
    · rename_i rest hread
      split_ifs at h with hend
      cases h
      obtain ⟨b, s, hb, hs, rfl⟩ := (soundAt _).value hread
      obtain ⟨b', hb', hrest⟩ := exists_blanks rest
      rw [hend, List.append_nil] at hrest
      exact ⟨b, s, rest, hb, hs, hrest ▸ hb', rfl⟩
    · cases h
  · rintro ⟨b, s, b', hb, hs, hb', rfl⟩
    have hends : EndsNumber [] := fun c hc => nomatch hc
    have hread := (completeAt (2 * (b ++ s ++ b').length + 2)).value hb hs (hends.append hb')
      (by simp; omega)
    have hblank : skipBlank (b' ++ []) = [] := skipBlank_append hb' []
    rw [List.append_nil] at hread hblank
    rw [← List.append_assoc] at hread
    simp only [readLetters?, hread, hblank, if_true]

end Gatehouse.Json
