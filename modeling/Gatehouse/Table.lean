/-!
# Gatehouse.Table

Finite maps as lists of entries, each key once. `Table.get?` is the view: every operation is
described by what `get?` answers after it.
-/

namespace Gatehouse

structure Table (κ α : Type) where
  entries : List (κ × α)
  distinct : (entries.map Prod.fst).Nodup

namespace Table

variable {κ α : Type} [DecidableEq κ]

def empty : Table κ α := ⟨[], List.nodup_nil⟩

instance : Inhabited (Table κ α) := ⟨empty⟩

def get? (t : Table κ α) (k : κ) : Option α :=
  (t.entries.find? fun e => e.1 = k).map Prod.snd

def contains (t : Table κ α) (k : κ) : Bool := (t.get? k).isSome

def keys (t : Table κ α) : List κ := t.entries.map Prod.fst

def size (t : Table κ α) : Nat := t.entries.length

/-- The entries that satisfy `p`. -/
def filter (p : κ × α → Bool) (t : Table κ α) : Table κ α where
  entries := t.entries.filter p
  distinct := t.distinct.sublist (List.filter_sublist.map Prod.fst)

def erase (t : Table κ α) (k : κ) : Table κ α := t.filter fun e => e.1 ≠ k

def insert (t : Table κ α) (k : κ) (a : α) : Table κ α where
  entries := (k, a) :: (t.erase k).entries
  distinct := by
    refine List.nodup_cons.mpr ⟨fun h => ?_, (t.erase k).distinct⟩
    obtain ⟨e, he, hk⟩ := List.mem_map.mp h
    have : e.1 ≠ k := by simpa using (List.mem_filter.mp he).2
    exact this hk

/-! ## The view -/

omit [DecidableEq κ] in
theorem eq_of_key_eq {l : List (κ × α)} (h : (l.map Prod.fst).Nodup) {e f : κ × α} (he : e ∈ l)
    (hf : f ∈ l) (hk : e.1 = f.1) : e = f := by
  induction l with
  | nil => cases he
  | cons g l ih =>
    obtain ⟨hg, hl⟩ := List.nodup_cons.mp h
    rcases List.mem_cons.mp he with he | he <;> rcases List.mem_cons.mp hf with hf | hf
    · rw [he, hf]
    · exact absurd (List.mem_map.mpr ⟨f, hf, he ▸ hk.symm⟩) hg
    · exact absurd (List.mem_map.mpr ⟨e, he, hf ▸ hk⟩) hg
    · exact ih hl he hf

theorem get?_eq_some_iff {t : Table κ α} {k : κ} {a : α} :
    t.get? k = some a ↔ (k, a) ∈ t.entries := by
  constructor
  · intro h
    obtain ⟨e, he, rfl⟩ := Option.map_eq_some_iff.mp h
    have hk : e.1 = k := by simpa using List.find?_some he
    exact hk ▸ List.mem_of_find?_eq_some he
  · intro h
    unfold get?
    cases hf : t.entries.find? fun e => e.1 = k with
    | none => simpa using List.find?_eq_none.mp hf _ h
    | some e =>
      have hk : e.1 = k := by simpa using List.find?_some hf
      have := eq_of_key_eq t.distinct (List.mem_of_find?_eq_some hf) h hk
      simp [this]

@[simp]
theorem get?_empty (k : κ) : (empty : Table κ α).get? k = none := rfl

theorem get?_filter (t : Table κ α) (p : κ × α → Bool) (k : κ) :
    (t.filter p).get? k = (t.get? k).filter fun a => p (k, a) := by
  ext a
  simp [get?_eq_some_iff, filter, Option.filter_eq_some_iff]

@[simp]
theorem get?_erase (t : Table κ α) (k j : κ) :
    (t.erase k).get? j = if j = k then none else t.get? j := by
  unfold erase
  rw [get?_filter]
  split
  · next h => cases t.get? j <;> simp [h, Option.filter]
  · next h => cases t.get? j <;> simp [h, Option.filter]

@[simp]
theorem get?_insert (t : Table κ α) (k j : κ) (a : α) :
    (t.insert k a).get? j = if j = k then some a else t.get? j := by
  by_cases h : j = k
  · simp [get?, insert, h]
  · have := get?_erase t k j
    simp only [h, if_false] at this ⊢
    rw [← this]
    simp [get?, insert, Ne.symm h]

end Table
end Gatehouse
