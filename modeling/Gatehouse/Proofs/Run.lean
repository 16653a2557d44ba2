import Mathlib.Data.List.Forall2

/-!
# Gatehouse.Proofs.Run

Runs of a system that is called, answers and moves on. `Run.moments` lists the calls of a run with
their answers and the states they met, `Run.after` is the state that the first calls of it leave.
What is proved of every list of calls holds in whatever order the calls of many clients come.

* `of_getElem?`: a moment of a run is a call of it, and what the system answers in that state.
* `after_inv`: what holds at one place of a run and is kept by the calls up to another holds there.
* `related`: two systems that answer related calls alike and stay related answer a run alike;
  `simulates` is the case that both are given the same calls.
-/

namespace Gatehouse

/-- One call of a run, with the state that it met and its answer. -/
structure Moment (σ κ α : Type) where
  before : σ
  call : κ
  answer : α

namespace Run

variable {σ κ α : Type}

def final (step : κ → σ → α × σ) : List κ → σ → σ
  | [], s => s
  | c :: cs, s => final step cs (step c s).2

def moments (step : κ → σ → α × σ) : List κ → σ → List (Moment σ κ α)
  | [], _ => []
  | c :: cs, s => ⟨s, c, (step c s).1⟩ :: moments step cs (step c s).2

def after (step : κ → σ → α × σ) (cs : List κ) (s : σ) (k : Nat) : σ := final step (cs.take k) s

variable {step : κ → σ → α × σ} {cs : List κ} {s : σ} {k : Nat} {m : Moment σ κ α}

@[simp] theorem final_nil (s : σ) : final step [] s = s := rfl

@[simp] theorem final_cons (c : κ) (cs : List κ) (s : σ) :
    final step (c :: cs) s = final step cs (step c s).2 := rfl

@[simp] theorem moments_nil (s : σ) : moments step [] s = [] := rfl

@[simp] theorem moments_cons (c : κ) (cs : List κ) (s : σ) :
    moments step (c :: cs) s = ⟨s, c, (step c s).1⟩ :: moments step cs (step c s).2 := rfl

@[simp] theorem after_zero (cs : List κ) (s : σ) : after step cs s 0 = s := by simp [after]

theorem getElem?_moments (cs : List κ) (s : σ) (k : Nat) :
    (moments step cs s)[k]? =
      cs[k]?.map fun c => ⟨after step cs s k, c, (step c (after step cs s k)).1⟩ := by
  induction cs generalizing s k with
  | nil => simp
  | cons c cs ih =>
    cases k with
    | zero => simp
    | succ k => simpa [after] using ih (step c s).2 k

theorem of_getElem? (h : (moments step cs s)[k]? = some m) :
    m.before = after step cs s k ∧ m.call ∈ cs ∧ m.answer = (step m.call m.before).1 ∧
      k < cs.length := by
  rw [getElem?_moments] at h
  obtain ⟨c, hc, rfl⟩ := Option.map_eq_some_iff.mp h
  exact ⟨rfl, List.mem_of_getElem? hc, rfl, (List.getElem?_eq_some_iff.mp hc).1⟩

theorem call_mem (h : m ∈ moments step cs s) : m.call ∈ cs := by
  obtain ⟨k, hk⟩ := List.mem_iff_getElem?.mp h
  exact (of_getElem? hk).2.1

theorem after_succ (h : (moments step cs s)[k]? = some m) :
    after step cs s (k + 1) = (step m.call m.before).2 := by
  induction cs generalizing s k with
  | nil => simp at h
  | cons c cs ih =>
    cases k with
    | zero =>
      simp only [moments_cons, List.getElem?_cons_zero, Option.some.injEq] at h
      subst h
      simp [after]
    | succ k => exact ih h

theorem after_of_length_le (h : cs.length ≤ k) : after step cs s k = final step cs s := by
  simp [after, List.take_of_length_le h]

theorem after_succ_of_none (h : (moments step cs s)[k]? = none) :
    after step cs s (k + 1) = after step cs s k := by
  have hlen : cs.length ≤ k := by simpa [getElem?_moments] using h
  rw [after_of_length_le hlen, after_of_length_le (by omega)]

/-- What holds after `i` calls and is kept by the calls from there to `j` holds after `j` calls. -/
theorem after_inv {P : σ → Prop} {i j : Nat} (hij : i ≤ j) (hi : P (after step cs s i))
    (hstep : ∀ k m, i ≤ k → k < j → (moments step cs s)[k]? = some m → P m.before →
      P (step m.call m.before).2) : P (after step cs s j) := by
  induction hij with
  | refl => exact hi
  | @step j hij ih =>
    have hj := ih fun k m hik hkj => hstep k m hik (by omega)
    cases hm : (moments step cs s)[j]? with
    | none =>
      rwa [after_succ_of_none hm]
    | some m =>
      rw [after_succ hm]
      exact hstep j m hij (Nat.lt_succ_self j) hm ((of_getElem? hm).1 ▸ hj)

@[simp] theorem after_cons_succ (c : κ) (cs : List κ) (s : σ) (k : Nat) :
    after step (c :: cs) s (k + 1) = after step cs (step c s).2 k := by simp [after]

section Related

variable {τ : Type} {R : σ → τ → Prop} {t : τ}

/-- Only the states that the first system meets have to be answered alike. -/
theorem related {κ' : Type} {step' : κ' → τ → α × τ} {C : κ → κ' → Prop} {cs' : List κ'}
    (hcs : List.Forall₂ C cs cs') (h : R s t)
    (hstep : ∀ m ∈ moments step cs s, ∀ c' t, C m.call c' → R m.before t →
      (step m.call m.before).1 = (step' c' t).1 ∧ R (step m.call m.before).2 (step' c' t).2) :
    (moments step cs s).map Moment.answer = (moments step' cs' t).map Moment.answer ∧
      ∀ k, R (after step cs s k) (after step' cs' t k) := by
  induction hcs generalizing s t with
  | nil => exact ⟨rfl, fun k => by simpa [after] using h⟩
  | @cons c c' cs cs' hc _ ih =>
    obtain ⟨hanswer, hrel⟩ := hstep ⟨s, c, (step c s).1⟩ List.mem_cons_self c' t hc h
    obtain ⟨hanswers, hafter⟩ := ih hrel fun m hm => hstep m (List.mem_cons_of_mem _ hm)
    refine ⟨?_, fun k => ?_⟩
    · simp only [moments_cons, List.map_cons, hanswers]
      rw [hanswer]
    · cases k with
      | zero => simpa using h
      | succ k => simpa using hafter k

theorem simulates {step' : κ → τ → α × τ} (h : R s t)
    (hstep : ∀ m ∈ moments step cs s, ∀ t, R m.before t →
      (step m.call m.before).1 = (step' m.call t).1 ∧
        R (step m.call m.before).2 (step' m.call t).2) :
    (moments step cs s).map Moment.answer = (moments step' cs t).map Moment.answer ∧
      ∀ k, R (after step cs s k) (after step' cs t k) := by
  have hcs : List.Forall₂ Eq cs cs := List.forall₂_refl cs
  refine related hcs h fun m hm c' t hc => ?_
  subst hc
  exact hstep m hm t

end Related

end Run
end Gatehouse
