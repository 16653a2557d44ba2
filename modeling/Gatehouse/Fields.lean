/-!
# Gatehouse.Fields

Named values in the order in which they were first given. Unlike `Table` this is a bare list, so
that trees of named values can be built of it; a name that stands twice is read at its first place.
-/

namespace Gatehouse

abbrev Fields (α : Type) := List (String × α)

namespace Fields

variable {α : Type}

def get? (name : String) : Fields α → Option α
  | [] => none
  | (n, a) :: rest => if n = name then some a else get? name rest

/-- Sets a value in its place, or behind all others if the name is new. -/
def set (name : String) (a : α) : Fields α → Fields α
  | [] => [(name, a)]
  | (n, b) :: rest => if n = name then (n, a) :: rest else (n, b) :: set name a rest

@[simp]
theorem get?_set_self (name : String) (a : α) (fs : Fields α) :
    (fs.set name a).get? name = some a := by
  induction fs with
  | nil => simp [set, get?]
  | cons f fs ih =>
    obtain ⟨n, b⟩ := f
    by_cases h : n = name <;> simp [set, get?, h, ih]

theorem get?_set_of_ne {name other : String} (h : other ≠ name) (a : α) (fs : Fields α) :
    (fs.set name a).get? other = fs.get? other := by
  induction fs with
  | nil => simp [set, get?, h.symm]
  | cons f fs ih =>
    obtain ⟨n, b⟩ := f
    by_cases hn : n = name
    · subst hn
      simp [set, get?, h.symm]
    · simp [set, get?, hn, ih]

end Fields
end Gatehouse
