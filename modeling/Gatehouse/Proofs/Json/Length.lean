import Gatehouse.Proofs.Json.Grammar
import Gatehouse.Proofs.Json.Record

/-!
# Gatehouse.Proofs.Json.Length

A text in a field of a record has no more characters than there are letters in the JSON
(`IsRecord.length_text_le`).
-/

namespace Gatehouse.Json

/-! ## Texts -/

theorem SpellsPieces.length_le {ps : List Piece} {s : Letters} (h : SpellsPieces ps s) :
    ps.length ≤ s.length := by
  induction h with
  | nil => exact Nat.le_refl 0
  | _ =>
    simp only [List.length_cons]
    omega

theorem length_textOf_le {ps : List Piece} {cs : List Char} (h : textOf ps = some cs) :
    cs.length ≤ ps.length := by
  fun_induction textOf ps generalizing cs with
  | case1 =>
    cases h
    exact Nat.le_refl 0
  | case2 c ps ih =>
    obtain ⟨cs, hcs, rfl⟩ := Option.map_eq_some_iff.mp h
    exact Nat.succ_le_succ (ih hcs)
  | case4 hi lo ps _ _ ih =>
    -- two halves make one character
    obtain ⟨cs, hcs, rfl⟩ := Option.map_eq_some_iff.mp h
    exact Nat.succ_le_succ (Nat.le_succ_of_le (ih hcs))
  | case7 n m ps _ _ ih =>
    obtain ⟨cs, hcs, rfl⟩ := Option.map_eq_some_iff.mp h
    exact Nat.succ_le_succ (ih hcs)
  | case9 n ps _ _ ih =>
    obtain ⟨cs, hcs, rfl⟩ := Option.map_eq_some_iff.mp h
    exact Nat.succ_le_succ (ih hcs)
  | _ => cases h

theorem Spells.length_text_le {t : String} {s : Letters} (h : Spells (.text t) s) :
    t.length ≤ s.length := by
  generalize hv : Json.text t = v at h
  cases h with
  | text hs ht =>
    cases hv
    have hpieces := hs.length_le
    have hchars := length_textOf_le ht
    rw [String.length_ofList]
    simp only [List.length_append, List.length_cons]
    omega
  | object =>
    rw [ofMembers] at hv
    split at hv <;> cases hv
  | _ => cases hv

/-! ## Values inside a value -/

theorem SpellsItems.exists_of_mem {vs : List Json} {s : Letters} (h : SpellsItems vs s) {v : Json}
    (hv : v ∈ vs) : ∃ t, Spells v t ∧ t.length ≤ s.length := by
  induction vs generalizing s with
  | nil => cases hv
  | cons x vs ih =>
    cases h with
    | @last b t b' v _ ht _ =>
      obtain rfl := List.mem_singleton.mp hv
      refine ⟨t, ht, ?_⟩
      simp only [List.length_append]
      omega
    | @more b t b' more v vs _ ht _ hmore =>
      simp only [List.length_append, List.length_cons]
      rcases List.mem_cons.mp hv with rfl | hv
      · exact ⟨t, ht, by omega⟩
      · obtain ⟨t', ht', hle⟩ := ih hmore hv
        exact ⟨t', ht', by omega⟩

theorem SpellsMember.exists_value {m : Option String × Json} {s : Letters}
    (h : SpellsMember m s) : ∃ t, Spells m.2 t ∧ t.length ≤ s.length := by
  cases h with
  | parts _ _ _ _ ht _ =>
    refine ⟨_, ht, ?_⟩
    simp only [List.length_append]
    omega

theorem SpellsMembers.exists_of_mem {ms : List (Option String × Json)} {s : Letters}
    (h : SpellsMembers ms s) {m : Option String × Json} (hm : m ∈ ms) :
    ∃ t, Spells m.2 t ∧ t.length ≤ s.length := by
  induction ms generalizing s with
  | nil => cases hm
  | cons x ms ih =>
    cases h with
    | last hs =>
      obtain rfl := List.mem_singleton.mp hm
      exact hs.exists_value
    | more hs hmore =>
      simp only [List.length_append, List.length_cons]
      rcases List.mem_cons.mp hm with rfl | hm
      · obtain ⟨t, ht, hle⟩ := hs.exists_value
        exact ⟨t, ht, by omega⟩
      · obtain ⟨t, ht, hle⟩ := ih hmore hm
        exact ⟨t, ht, by omega⟩

theorem exists_mem_of_forall₂ {α β : Type} {R : α → β → Prop} {xs : List α} {ys : List β}
    (h : List.Forall₂ R xs ys) {y : β} (hy : y ∈ ys) : ∃ x ∈ xs, R x y := by
  induction h with
  | nil => cases hy
  | cons hr _ ih =>
    rcases List.mem_cons.mp hy with rfl | hy
    · exact ⟨_, List.mem_cons_self, hr⟩
    · obtain ⟨x, hx, hr⟩ := ih hy
      exact ⟨x, List.mem_cons_of_mem _ hx, hr⟩

theorem mem_of_ofMembers {ms : List (Option String × Json)} {members : List (String × Json)}
    (h : ofMembers ms = .object members) {name : String} {v : Json} (hv : (name, v) ∈ members) :
    (some name, v) ∈ ms := by
  unfold ofMembers at h
  split at h
  · rename_i hmembers
    cases h
    obtain ⟨⟨n, x⟩, hx, hname⟩ := exists_mem_of_forall₂ (mapM_eq_some_iff.mp hmembers) hv
    obtain ⟨n', rfl, hpair⟩ := Option.map_eq_some_iff.mp hname
    cases hpair
    exact hx
  · cases h

/-! ## Fields -/

theorem Gives.mem {members : List (String × Json)} {name : String} {v : Json}
    (h : Gives members name (some v)) : (name, v) ∈ members := by
  obtain ⟨before, after, rfl, -, -⟩ := h
  exact List.mem_append_right before List.mem_cons_self

theorem IsRecord.exists_of_mem {names : List String} {optional : Nat} {values : List (Option Json)}
    {v x : Json} (h : IsRecord names optional values v) (hx : some x ∈ values) {s : Letters}
    (hs : Spells v s) : ∃ t, Spells x t ∧ t.length ≤ s.length := by
  cases h with
  | @object members _ hgives =>
    obtain ⟨name, -, hx⟩ := exists_mem_of_forall₂ hgives hx
    generalize hv : Json.object members = v at hs
    cases hs with
    | empty =>
      cases hv
      cases hx.mem
    | object hs =>
      obtain ⟨t, ht, hle⟩ := hs.exists_of_mem (mem_of_ofMembers hv.symm hx.mem)
      simp only [List.length_append, List.length_cons]
      exact ⟨t, ht, by omega⟩
    | _ => cases hv
  | @array items left _ _ =>
    have hx : x ∈ items := by
      rcases List.mem_append.mp hx with hx | hx
      · obtain ⟨y, hy, ⟨⟩⟩ := List.mem_map.mp hx
        exact hy
      · cases (List.mem_replicate.mp hx).2
    generalize hv : Json.array items = v at hs
    cases hs with
    | nothing =>
      cases hv
      cases hx
    | array hs =>
      cases hv
      obtain ⟨t, ht, hle⟩ := hs.exists_of_mem hx
      simp only [List.length_append, List.length_cons]
      exact ⟨t, ht, by omega⟩
    | object =>
      rw [ofMembers] at hv
      split at hv <;> cases hv
    | _ => cases hv

theorem IsRecord.length_text_le {names : List String} {optional : Nat}
    {values : List (Option Json)} {v : Json} (h : IsRecord names optional values v) {t : String}
    (ht : some (.text t) ∈ values) {ls : Letters} (hls : IsTextOf ls v) :
    t.length ≤ ls.length := by
  obtain ⟨b, s, b', -, hs, -, rfl⟩ := hls
  obtain ⟨s', hs', hle⟩ := h.exists_of_mem ht hs
  have htext := hs'.length_text_le
  simp only [List.length_append]
  omega

end Gatehouse.Json
