import Mathlib.Logic.Relation
import Gatehouse.Proofs.Refresh.History

/-!
# Gatehouse.Proofs.Refresh.SingleUse

A refresh record is used once. Calls are named by their place in the run. `Undisturbed` says that
no call between two places creates the record, so that both speak of the same one.

* `held_of_gone`, `held_of_expired`: what has ended stays away until it is created again.
* `exists_creation`: what is there has been created.
* `single_use`: the rotations of a run form chains, and of each chain one record lives at most.
-/

namespace Gatehouse.RefreshBackend

def history (b : RefreshBackend) (calls : List StoreCall) : List StoreMoment :=
  Run.moments StoreCall.apply calls b

def afterCalls (b : RefreshBackend) (calls : List StoreCall) (k : Nat) : RefreshBackend :=
  Run.after StoreCall.apply calls b k

/-- No call between two places creates the record. -/
def Undisturbed (h : List StoreMoment) (d : SecretDigest) (i j : Nat) : Prop :=
  ∀ k m, i < k → k < j → h[k]? = some m → ¬ m.Creates d

theorem Undisturbed.succ {h : List StoreMoment} {d : SecretDigest} {i j : Nat}
    (hu : Undisturbed h d i j) (hj : ∀ m, h[j]? = some m → ¬ m.Creates d) :
    Undisturbed h d i (j + 1) := by
  intro k m hik hkj hk
  rcases Nat.lt_succ_iff_lt_or_eq.mp hkj with hlt | rfl
  · exact hu k m hik hlt hk
  · exact hj m hk

/-- Call `j` moves the record away that call `i` has created. -/
def Uses (h : List StoreMoment) (i j : Nat) : Prop :=
  ∃ d m n, i < j ∧ h[i]? = some m ∧ m.Creates d ∧ h[j]? = some n ∧ n.Rotates d ∧
    Undisturbed h d i j

/-- The record that call `i` has created is there when `k` calls are over. -/
def Alive (b : RefreshBackend) (calls : List StoreCall) (i k : Nat) : Prop :=
  ∃ d m, i < k ∧ (b.history calls)[i]? = some m ∧ m.Creates d ∧
    Undisturbed (b.history calls) d i k ∧ ((b.afterCalls calls k).held d).isSome = true

section

variable {b : RefreshBackend} {calls : List StoreCall} {i j k : Nat} {m n : StoreMoment}
  {d : SecretDigest}

theorem quiet_afterCalls (hq : b.Quiet) (hc : ∀ c ∈ calls, c.Admitted) (k : Nat) :
    (b.afterCalls calls k).Quiet := by
  refine Run.after_inv (Nat.zero_le k) (by simpa using hq) fun j m _ _ hm hj => ?_
  exact StoreCall.quiet_apply hj (hc _ (Run.of_getElem? hm).2.1)

theorem of_history (hq : b.Quiet) (hc : ∀ c ∈ calls, c.Admitted)
    (hm : (b.history calls)[k]? = some m) :
    m = m.call.on m.before ∧ m.before = b.afterCalls calls k ∧ m.before.Quiet ∧
      m.call.Admitted ∧ b.afterCalls calls (k + 1) = (m.call.apply m.before).2 := by
  obtain ⟨hbefore, hmem, hanswer, -⟩ := Run.of_getElem? hm
  refine ⟨?_, hbefore, ?_, hc _ hmem, Run.after_succ hm⟩
  · rw [StoreCall.on, ← hanswer]
  · rw [hbefore]
    exact quiet_afterCalls hq hc k

theorem held_of_undisturbed (hq : b.Quiet) (hc : ∀ c ∈ calls, c.Admitted) (hij : i < j)
    (hu : Undisturbed (b.history calls) d i j) {x : Holding}
    (hx : (b.afterCalls calls j).held d = some x) :
    (b.afterCalls calls (i + 1)).held d = some x := by
  let P (s : RefreshBackend) : Prop :=
    s.held d = some x → (b.afterCalls calls (i + 1)).held d = some x
  refine Run.after_inv (P := P) hij id (fun k m hik hkj hm ih hx => ?_) hx
  obtain ⟨hon, -, hquiet, hadm, -⟩ := of_history hq hc hm
  have hcr : ¬ (m.call.on m.before).Creates d := hon ▸ hu k m hik hkj hm
  exact ih (StoreCall.held_of_held hquiet hadm hcr hx)

theorem held_of_gone (hq : b.Quiet) (hc : ∀ c ∈ calls, c.Admitted) (hij : i < j)
    (hm : (b.history calls)[i]? = some m) (hends : m.Rotates d ∨ m.call = .delete d)
    (hu : Undisturbed (b.history calls) d i j) : (b.afterCalls calls j).held d = none := by
  obtain ⟨hon, -, hquiet, hadm, hafter⟩ := of_history hq hc hm
  cases hx : (b.afterCalls calls j).held d with
  | none => rfl
  | some x =>
    have := held_of_undisturbed hq hc hij hu hx
    rw [hafter, StoreCall.held_of_ends hquiet hadm (hon ▸ hends)] at this
    cases this

theorem held_of_expired (hq : b.Quiet) (hc : ∀ c ∈ calls, c.Admitted) (hij : i < j)
    (hm : (b.history calls)[i]? = some m) (hcr : m.Creates d) {ttl : Span}
    (httl : m.call.ttl? = some ttl)
    (hover : m.before.clock + m.before.lifetime ttl ≤ (b.afterCalls calls j).clock)
    (hu : Undisturbed (b.history calls) d i j) : (b.afterCalls calls j).held d = none := by
  obtain ⟨hon, -, hquiet, hadm, hafter⟩ := of_history hq hc hm
  cases hx : (b.afterCalls calls j).held d with
  | none => rfl
  | some x =>
    have hfiled := held_of_undisturbed hq hc hij hu hx
    obtain ⟨y, hy, hdeadline⟩ := StoreCall.deadline_of_creates hquiet hadm (hon ▸ hcr) httl
    rw [hafter, hy] at hfiled
    obtain rfl := Option.some.inj hfiled
    exact absurd (clock_lt_deadline hx hdeadline) (by omega)

theorem exists_creation (hb : b.Fresh) (hc : ∀ c ∈ calls, c.Admitted)
    (hx : ((b.afterCalls calls j).held d).isSome = true) :
    ∃ i m, i < j ∧ (b.history calls)[i]? = some m ∧ m.Creates d ∧
      Undisturbed (b.history calls) d i j := by
  induction j with
  | zero =>
    have hzero : b.afterCalls calls 0 = b := Run.after_zero calls b
    rw [hzero, hb.empty] at hx
    cases hx
  | succ j ih =>
    cases hm : (b.history calls)[j]? with
    | none =>
      have hsame : b.afterCalls calls (j + 1) = b.afterCalls calls j := Run.after_succ_of_none hm
      obtain ⟨i, m', hij, hm', hcr, hu⟩ := ih (hsame ▸ hx)
      exact ⟨i, m', by omega, hm', hcr, hu.succ fun m hj => by simp [hm] at hj⟩
    | some m =>
      by_cases hcr : m.Creates d
      · exact ⟨j, m, by omega, hm, hcr, fun k _ hjk hkj => by omega⟩
      · obtain ⟨hon, hbefore, hquiet, hadm, hafter⟩ := of_history hb.quiet hc hm
        obtain ⟨x, hx⟩ := Option.isSome_iff_exists.mp hx
        rw [hafter] at hx
        have hheld := StoreCall.held_of_held hquiet hadm (hon ▸ hcr) hx
        obtain ⟨i, m', hij, hm', hcr', hu⟩ := ih (by rw [← hbefore, hheld]; rfl)
        refine ⟨i, m', by omega, hm', hcr', hu.succ fun n hn => ?_⟩
        obtain rfl : m = n := Option.some.inj (hm.symm.trans hn)
        exact hcr

theorem exists_used (hb : b.Fresh) (hc : ∀ c ∈ calls, c.Admitted)
    (hn : (b.history calls)[j]? = some n) (hr : n.Rotates d) : ∃ i, Uses (b.history calls) i j := by
  obtain ⟨hon, hbefore, hquiet, hadm, -⟩ := of_history hb.quiet hc hn
  have hheld := StoreCall.held_of_rotates hquiet hadm (hon ▸ hr)
  obtain ⟨i, m, hij, hm, hcr, hu⟩ := exists_creation hb hc (hbefore ▸ hheld)
  exact ⟨i, d, m, n, hij, hm, hcr, hn, hr, hu⟩

theorem exists_creation_between (hq : b.Quiet) (hc : ∀ c ∈ calls, c.Admitted) (hij : i < j)
    (hm : (b.history calls)[i]? = some m) (hn : (b.history calls)[j]? = some n)
    (hmr : m.Rotates d) (hnr : n.Rotates d) :
    ∃ k c, i < k ∧ k < j ∧ (b.history calls)[k]? = some c ∧ c.Creates d := by
  by_contra hnone
  have hu : Undisturbed (b.history calls) d i j := fun k c hik hkj hk hcr =>
    hnone ⟨k, c, hik, hkj, hk, hcr⟩
  obtain ⟨hon, hbefore, hquiet, hadm, -⟩ := of_history hq hc hn
  have hheld := StoreCall.held_of_rotates hquiet hadm (hon ▸ hnr)
  rw [hbefore, held_of_gone hq hc hij hm (.inl hmr) hu] at hheld
  cases hheld

theorem Uses.right_unique (hq : b.Quiet) (hc : ∀ c ∈ calls, c.Admitted)
    (hj : Uses (b.history calls) i j) (hk : Uses (b.history calls) i k) : j = k := by
  obtain ⟨d, m, n, hij, hm, hcr, hn, hr, hu⟩ := hj
  obtain ⟨d', m', n', hik, hm', hcr', hn', hr', hu'⟩ := hk
  obtain rfl : m = m' := Option.some.inj (hm.symm.trans hm')
  obtain rfl := hcr.unique hcr'
  rcases Nat.lt_trichotomy j k with hjk | hjk | hjk
  · obtain ⟨l, c, hjl, hlk, hl, hlc⟩ := exists_creation_between hq hc hjk hn hn' hr hr'
    exact absurd hlc (hu' l c (by omega) hlk hl)
  · exact hjk
  · obtain ⟨l, c, hkl, hlj, hl, hlc⟩ := exists_creation_between hq hc hjk hn' hn hr' hr
    exact absurd hlc (hu l c (by omega) hlj hl)

theorem Uses.left_unique {h : List StoreMoment} (hi : Uses h i k) (hj : Uses h j k) : i = j := by
  obtain ⟨d, m, n, hik, hm, hcr, hn, hr, hu⟩ := hi
  obtain ⟨d', m', n', hjk, hm', hcr', hn', hr', hu'⟩ := hj
  obtain rfl : n = n' := Option.some.inj (hn.symm.trans hn')
  obtain rfl := hr.unique hr'
  rcases Nat.lt_trichotomy i j with hij | hij | hij
  · exact absurd hcr' (hu j m' hij hjk hm')
  · exact hij
  · exact absurd hcr (hu' i m hij hik hm)

theorem Alive.not_used (hq : b.Quiet) (hc : ∀ c ∈ calls, c.Admitted) (ha : Alive b calls i k)
    (hu : Uses (b.history calls) i j) : k ≤ j := by
  obtain ⟨d, m, hik, hm, hcr, hquiet, hheld⟩ := ha
  obtain ⟨d', m', n, hij, hm', hcr', hn, hr, hu⟩ := hu
  obtain rfl : m = m' := Option.some.inj (hm.symm.trans hm')
  obtain rfl := hcr.unique hcr'
  by_contra hjk
  have hlater : Undisturbed (b.history calls) d j k := fun l c hjl hlk => hquiet l c (by omega) hlk
  rw [held_of_gone hq hc (by omega) hn (.inl hr) hlater] at hheld
  cases hheld

theorem Uses.lt {h : List StoreMoment} (hu : Uses h i j) : i < j := by
  obtain ⟨-, -, -, hij, -⟩ := hu
  exact hij

theorem le_of_reflTransGen_uses {h : List StoreMoment} (hij : Relation.ReflTransGen (Uses h) i j) :
    i ≤ j := by
  induction hij with
  | refl => exact Nat.le_refl i
  | tail _ hu ih => exact Nat.le_trans ih (Nat.le_of_lt hu.lt)

/-- Of two records of which one came from the other, one is alive at most. -/
theorem Alive.eq_of_reflTransGen (hq : b.Quiet) (hc : ∀ c ∈ calls, c.Admitted)
    (hi : Alive b calls i k) (hj : Alive b calls j k)
    (hij : Relation.ReflTransGen (Uses (b.history calls)) i j) : i = j := by
  rcases Relation.ReflTransGen.cases_head hij with rfl | ⟨l, hil, hlj⟩
  · rfl
  · have hkl := hi.not_used hq hc hil
    have hlj := le_of_reflTransGen_uses hlj
    obtain ⟨-, -, hjk, -⟩ := hj
    omega

end

/-! ## All runs -/

structure SingleUse (b : RefreshBackend) (calls : List StoreCall) : Prop where
  once : ∀ {d : SecretDigest} {i j : Nat} {m n : StoreMoment}, i < j →
    (b.history calls)[i]? = some m → (b.history calls)[j]? = some n → m.Rotates d → n.Rotates d →
    ∃ (k : Nat) (c : StoreMoment), i < k ∧ k < j ∧ (b.history calls)[k]? = some c ∧ c.Creates d
  /-- What has ended is not found until it is created again. A lifetime that the clock cannot tell
  the end of is refused before the record is looked for. -/
  gone : ∀ {d : SecretDigest} {i j : Nat} {m n : StoreMoment}, i < j →
    (b.history calls)[i]? = some m → (b.history calls)[j]? = some n →
    m.Ends d n.before.clock → Undisturbed (b.history calls) d i j → n.Asks d →
    (¬ n.Undated → n.answer = .error .notFound) ∧
      (n.Undated → n.answer = .error (.failed .deadlineOutOfRange))
  origin : ∀ {d : SecretDigest} {j : Nat} {n : StoreMoment}, (b.history calls)[j]? = some n →
    n.Rotates d → ∃ i, Uses (b.history calls) i j
  /-- The records that came of one another form a chain. -/
  next : ∀ {i j k : Nat}, Uses (b.history calls) i j → Uses (b.history calls) i k → j = k
  previous : ∀ {i j k : Nat}, Uses (b.history calls) i k → Uses (b.history calls) j k → i = j
  alive : ∀ {r i j k : Nat}, Relation.ReflTransGen (Uses (b.history calls)) r i →
    Relation.ReflTransGen (Uses (b.history calls)) r j → Alive b calls i k → Alive b calls j k →
    i = j

/-- Whatever the order of the calls and of the passing of time. -/
theorem single_use {b : RefreshBackend} (hb : b.Fresh) {calls : List StoreCall}
    (hc : ∀ c ∈ calls, c.Admitted) : SingleUse b calls where
  once hij hm hn hmr hnr := exists_creation_between hb.quiet hc hij hm hn hmr hnr
  gone := by
    intro d i j m n hij hm hn hends hu hask
    obtain ⟨hon, hbefore, hquiet, hadm, -⟩ := of_history hb.quiet hc hn
    have habsent : n.before.held d = none := by
      rw [hbefore]
      rcases hends with hr | hdelete | ⟨hcr, ttl, httl, hover⟩
      · exact held_of_gone hb.quiet hc hij hm (.inl hr) hu
      · exact held_of_gone hb.quiet hc hij hm (.inr hdelete) hu
      · exact held_of_expired hb.quiet hc hij hm hcr httl (hbefore ▸ hover) hu
    rw [hon] at hask ⊢
    exact StoreCall.answer_of_absent hquiet hadm hask habsent
  origin hn hr := exists_used hb hc hn hr
  next hj hk := hj.right_unique hb.quiet hc hk
  previous hi hj := hi.left_unique hj
  alive := by
    intro r i j k hri hrj hi hj
    have hunique : Relator.RightUnique (Uses (b.history calls)) := fun _ _ _ h h' =>
      h.right_unique hb.quiet hc h'
    rcases Relation.ReflTransGen.total_of_right_unique hunique hri hrj with hij | hji
    · exact hi.eq_of_reflTransGen hb.quiet hc hj hij
    · exact (hj.eq_of_reflTransGen hb.quiet hc hi hji).symm

theorem admitted_minute : (Span.ofSecs 60).Admitted := ⟨rfl, ⟨0⟩, by decide, rfl⟩

/-- Two clients rotate one record, and the second comes too late. -/
theorem single_use_remote :
    SingleUse (.remote "refresh" { db := .startingAt 0 })
      [.put ⟨"a"⟩ ⟨⟨"ada"⟩, ⟨0⟩⟩ (.ofSecs 60), .rotate ⟨"a"⟩ ⟨"b"⟩ none ⟨0⟩ (.ofSecs 60),
        .rotate ⟨"a"⟩ ⟨"c"⟩ (some ⟨"ada"⟩) ⟨0⟩ (.ofSecs 60), .wait (.ofSecs 60), .get ⟨"b"⟩] :=
  single_use (fresh_remote "refresh" 0) (by
    simp only [List.mem_cons, List.not_mem_nil, or_false]
    rintro c (rfl | rfl | rfl | rfl | rfl) ttl httl <;> cases httl <;> exact admitted_minute)

/-- In memory a rotation tells the end of the new lifetime before it looks for the record, and a
clock that stands late enough cannot tell it. -/
theorem not_always_notFound :
    ¬ ∀ (b : RefreshBackend) (calls : List StoreCall), b.Fresh → (∀ c ∈ calls, c.Admitted) →
      ∀ (d : SecretDigest) (i j : Nat) (m n : StoreMoment), i < j →
        (b.history calls)[i]? = some m → (b.history calls)[j]? = some n →
        m.Ends d n.before.clock → Undisturbed (b.history calls) d i j → n.Asks d →
        n.answer = .error .notFound := by
  intro h
  have hanswer := h (.memory (.startingAt 0))
    [.delete ⟨"a"⟩, .wait (.ofSecs 9223371936854775808),
      .rotate ⟨"a"⟩ ⟨"b"⟩ none ⟨0⟩ (.ofSecs 1000000000000)] (fresh_memory 0)
    (by
      simp only [List.mem_cons, List.not_mem_nil, or_false]
      rintro c (rfl | rfl | rfl) ttl httl <;> cases httl
      exact ⟨rfl, ⟨0⟩, by decide, rfl⟩)
    ⟨"a"⟩ 0 2 _ _ (by decide) rfl rfl (.inr (.inl rfl)) ?_ (.inr rfl)
  · cases hanswer
  · intro k c hk hk' hget hcr
    obtain rfl : k = 1 := by omega
    cases hget
    cases hcr.2

end Gatehouse.RefreshBackend
