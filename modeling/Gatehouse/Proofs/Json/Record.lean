import Mathlib.Data.List.Forall2
import Gatehouse.Json.Record

/-!
# Gatehouse.Proofs.Json.Record

Which values give the fields of a record. An object gives a field by the one member of its name
(`Gives`), an array gives the fields by their places; a value that does so for all of them is a
record (`IsRecord`), and the reader finds these values and no others (`fields?_eq_some_iff`).
-/

namespace Gatehouse.Json

/-! ## Members of an object -/

/-- The object has just one member of this name, and this is its value. -/
def Once (members : List (String × Json)) (name : String) (v : Json) : Prop :=
  ∃ before after, members = before ++ (name, v) :: after ∧ (∀ m ∈ before, m.1 ≠ name) ∧
    ∀ m ∈ after, m.1 ≠ name

theorem once_of_filter {members : List (String × Json)} {name : String} {m : String × Json}
    (h : members.filter (·.1 = name) = [m]) : Once members name m.2 := by
  induction members with
  | nil => cases h
  | cons x rest ih =>
    by_cases hx : x.1 = name
    · rw [List.filter_cons_of_pos (by simpa using hx)] at h
      obtain ⟨rfl, hrest⟩ := List.cons.inj h
      refine ⟨[], rest, by rw [List.nil_append, ← hx], (fun y hy => nomatch hy), fun y hy => ?_⟩
      simpa using List.filter_eq_nil_iff.mp hrest y hy
    · rw [List.filter_cons_of_neg (by simpa using hx)] at h
      obtain ⟨before, after, rfl, hbefore, hafter⟩ := ih h
      refine ⟨x :: before, after, rfl, fun y hy => ?_, hafter⟩
      rcases List.mem_cons.mp hy with rfl | hy
      · exact hx
      · exact hbefore y hy

theorem filter_eq_nil {members : List (String × Json)} {name : String}
    (h : ∀ m ∈ members, m.1 ≠ name) : members.filter (·.1 = name) = [] := by
  rw [List.filter_eq_nil_iff]
  intro m hm
  simpa using h m hm

theorem Once.filter {members : List (String × Json)} {name : String} {v : Json}
    (h : Once members name v) : members.filter (·.1 = name) = [(name, v)] := by
  obtain ⟨before, after, rfl, hbefore, hafter⟩ := h
  rw [List.filter_append, List.filter_cons_of_pos (by simp), filter_eq_nil hbefore,
    filter_eq_nil hafter]
  rfl

/-- What an object gives for a field: the value of the one member of that name, or nothing if there
is no such member. -/
def Gives (members : List (String × Json)) (name : String) : Option Json → Prop
  | some v => Once members name v
  | none => ∀ m ∈ members, m.1 ≠ name

theorem member?_eq_some_iff {members : List (String × Json)} {name : String} {v : Option Json} :
    member? members name = some v ↔ Gives members name v := by
  constructor
  · intro h
    unfold member? at h
    split at h
    · rename_i hfilter
      cases h
      intro m hm
      simpa using List.filter_eq_nil_iff.mp hfilter m hm
    · rename_i hfilter
      cases h
      exact once_of_filter hfilter
    · cases h
  · intro h
    cases v with
    | none => simp only [member?, filter_eq_nil h]
    | some v => simp only [member?, Once.filter h]

theorem member?_eq_value_iff {members : List (String × Json)} {name : String} {v : Json} :
    member? members name = some (some v) ↔ Once members name v :=
  member?_eq_some_iff

/-! ## Records -/

/-- A value gives these values for the fields of a record, `none` for a field that is left out. An
object has no field twice; an array leaves out at most the last `optional` fields, and has nothing
after them. -/
inductive IsRecord (names : List String) (optional : Nat) : List (Option Json) → Json → Prop
  | object {members : List (String × Json)} {values : List (Option Json)}
      (h : List.Forall₂ (Gives members) names values) :
      IsRecord names optional values (.object members)
  | array {items : List Json} {left : Nat} (hleft : left ≤ optional)
      (hlength : items.length + left = names.length) :
      IsRecord names optional (items.map some ++ List.replicate left none) (.array items)

theorem mapM_eq_some_iff {α β : Type} {f : α → Option β} {xs : List α} {ys : List β} :
    xs.mapM f = some ys ↔ List.Forall₂ (fun x y => f x = some y) xs ys := by
  induction xs generalizing ys with
  | nil => simp [eq_comm]
  | cons x xs ih =>
    rw [List.mapM_cons, List.forall₂_cons_left_iff]
    simp only [Option.bind_eq_bind, Option.bind_eq_some_iff, ih, Option.pure_def,
      Option.some.injEq]
    constructor
    · rintro ⟨y, hy, ys, hys, rfl⟩
      exact ⟨y, ys, hy, hys, rfl⟩
    · rintro ⟨y, ys, hy, hys, rfl⟩
      exact ⟨y, hy, ys, hys, rfl⟩

theorem fields?_eq_some_iff {names : List String} {optional : Nat} {v : Json}
    {values : List (Option Json)} :
    fields? names optional v = some values ↔ IsRecord names optional values v := by
  constructor
  · intro h
    unfold fields? at h
    split at h
    · rename_i members
      exact .object ((mapM_eq_some_iff.mp h).imp fun _ _ => member?_eq_some_iff.mp)
    · split_ifs at h with hfits
      cases h
      exact .array (by omega) (by omega)
    · cases h
  · intro h
    cases h with
    | object h => exact mapM_eq_some_iff.mpr (h.imp fun _ _ => member?_eq_some_iff.mpr)
    | @array items left hleft hlength =>
      have hrest : names.length - items.length = left := by omega
      simp only [fields?, hrest]
      exact if_pos (by omega)

/-! ## Texts -/

theorem text?_eq_some_iff {v : Json} {s : String} : v.text? = some s ↔ v = .text s := by
  cases v <;> simp [text?]

theorem requiredText?_eq_some_iff {v : Option Json} {s : String} :
    requiredText? v = some s ↔ v = some (.text s) := by
  match v with
  | none => simp [requiredText?]
  | some v => cases v <;> simp [requiredText?]

/-- A field that holds a text, or no text: it may be left out or hold `null`. -/
inductive MayHold : Option String → Option Json → Prop
  | text (s : String) : MayHold (some s) (some (.text s))
  | null : MayHold none (some .null)
  | leftOut : MayHold none none

theorem optionalText?_eq_some_iff {v : Option Json} {s : Option String} :
    optionalText? v = some s ↔ MayHold s v := by
  constructor
  · intro h
    unfold optionalText? at h
    split at h
    · cases h
      exact .text _
    · cases h
      exact .null
    · cases h
      exact .leftOut
    · cases h
  · intro h
    cases h <;> rfl

end Gatehouse.Json
