import Gatehouse.Proofs.Token.Stages
import Gatehouse.Proofs.Watch.Parts

/-!
# Gatehouse.Proofs.Token.FailedRotation

What a rotation leaves when it fails. The store may fail in place of any call or after it, the codec
may fail to sign, and the clean-up may fail too; still the old secret is lost only if the store has
moved its record, and no client ever holds two secrets that are good.

* `replace_outcome`: how the exchange of a record can end.
* `fails_closed`: what every failure has in common.
-/

namespace Gatehouse.TokenEngine

open SteadySource (broken)
open Watch (Watched Call passes)

variable {τ ρ : Type} [SteadySource τ]

/-- The digest that a rotation asks the store to put in place of the old one. -/
def newDigest? (calls : List Call) : Option SecretDigest :=
  calls.findSome? fun
    | .rotate _ new _ _ _ => some new
    | _ => none

def rotationCalls (g : TokenEngine τ (Watched RefreshBackend ρ)) (secret : RefreshSecret)
    (expected : Option OwnerId) (w : World τ (Watched RefreshBackend ρ)) : List Call :=
  (g.rotate secret expected w).2.stores.calls.drop w.stores.calls.length

/-- The store has moved the record: it was asked to, no failure came in place of that, and nothing
in its records was against it. -/
def Moved (g : TokenEngine τ (Watched RefreshBackend ρ)) (secret : RefreshSecret)
    (expected : Option OwnerId) (w : World τ (Watched RefreshBackend ρ)) : Prop :=
  ∃ new, newDigest? (g.rotationCalls secret expected w) = some new ∧
    passes w.stores.faults.rotate = true ∧
    (w.stores.store.rotate secret.digest new expected w.now g.refreshTtl).1.isOk = true

/-- How the exchange of the record at `old` for one at `new` can end, with its answer. -/
inductive Outcome (b b' : RefreshBackend) (old new : SecretDigest) (moved cleaned : Prop)
    (a : Except TokenError IssuedTokens) : Prop where
  | untouched (hm : ¬ moved) (hb : b.Shows b' b.held)
  | undone (hm : moved) (ha : a ≠ .error .invalid)
      (hb : b.Shows b' (Function.update b.held old none))
  | left {x : Holding} (hm : moved) (hc : cleaned → a.isOk = true) (ha : a ≠ .error .invalid)
      (hb : b.Shows b' (Function.update (Function.update b.held new (some x)) old none))

theorem Outcome.of_shows {b b₁ b' : RefreshBackend} {old new : SecretDigest}
    {moved moved' cleaned : Prop} {a : Except TokenError IssuedTokens}
    (h : Outcome b₁ b' old new moved cleaned a) (hb : b.Shows b₁ b.held) (hm : moved ↔ moved') :
    Outcome b b' old new moved' cleaned a := by
  cases h with
  | untouched h hb' => exact .untouched (mt hm.mpr h) (hb.trans (hb.held ▸ hb'))
  | undone h ha hb' => exact .undone (hm.mp h) ha (hb.trans (hb.held ▸ hb'))
  | left h hc ha hb' => exact .left (hm.mp h) hc ha (hb.trans (hb.held ▸ hb'))

namespace Outcome

variable {b b' : RefreshBackend} {old new : SecretDigest} {moved cleaned : Prop}
  {a : Except TokenError IssuedTokens}

theorem others (h : Outcome b b' old new moved cleaned a) {d : SecretDigest} (ho : d ≠ old)
    (hn : d ≠ new) : b'.held d = b.held d := by
  cases h with
  | untouched _ hb => rw [hb.held]
  | undone _ _ hb => rw [hb.held, Function.update_of_ne ho]
  | left _ _ _ hb => rw [hb.held, Function.update_of_ne ho, Function.update_of_ne hn]

theorem held_old (h : Outcome b b' old new moved cleaned a) (hm : ¬ moved) :
    b'.held old = b.held old := by
  cases h with
  | untouched _ hb => rw [hb.held]
  | undone h _ _ => exact absurd h hm
  | left h _ _ _ => exact absurd h hm

theorem old_gone (h : Outcome b b' old new moved cleaned a) (hm : moved) : b'.held old = none := by
  cases h with
  | untouched h _ => exact absurd hm h
  | undone _ _ hb => rw [hb.held, Function.update_self]
  | left _ _ _ hb => rw [hb.held, Function.update_self]

theorem new_gone (h : Outcome b b' old new moved cleaned a) (hfree : b.held new = none)
    (ha : a.isOk = false) (hc : moved → cleaned) : b'.held new = none := by
  cases h with
  | untouched _ hb => rw [hb.held, hfree]
  | undone _ _ hb =>
    rw [hb.held, Function.update_apply, hfree]
    split <;> rfl
  | left hm hok _ _ => simp [hok (hc hm)] at ha

theorem apart (h : Outcome b b' old new moved cleaned a) (hfree : b.held new = none) :
    b'.held old = none ∨ b'.held new = none := by
  cases h with
  | untouched _ hb => exact .inr (by rw [hb.held, hfree])
  | undone _ _ hb => exact .inl (by rw [hb.held, Function.update_self])
  | left _ _ _ hb => exact .inl (by rw [hb.held, Function.update_self])

theorem refused (h : Outcome b b' old new moved cleaned a) (ha : a = .error .invalid) :
    b.Shows b' b.held := by
  cases h with
  | untouched _ hb => exact hb
  | undone _ hne _ => exact absurd ha hne
  | left _ _ hne _ => exact absurd ha hne

end Outcome

section Exchange

variable {g : TokenEngine τ (Watched RefreshBackend ρ)} {c : TokenConfig} {access : AccessCodec}
  {w : World τ (Watched RefreshBackend ρ)}

theorem update_moved {records : SecretDigest → Option Holding} {old new : SecretDigest}
    {x : Holding} (hfree : records new = none) :
    Function.update (Function.update (Function.update records new (some x)) old none) new none =
      Function.update records old none := by
  funext d
  simp only [Function.update_apply]
  split_ifs with hnew hold <;> simp_all

theorem outcome_of_moved (hg : g.Made c (Watch.codec (.plain access)) (Watch.store .backend))
    {b : RefreshBackend} {old new : SecretDigest} {x : Holding} {moved : Prop} {e : TokenError}
    (hshows : b.Shows w.stores.store
      (Function.update (Function.update b.held new (some x)) old none))
    (hfree : b.held new = none) (hm : moved) (he : e ≠ .invalid) :
    Outcome b (g.discard new w).stores.store old new moved (passes w.stores.faults.delete = true)
      (.error e) := by
  obtain ⟨-, hdiscard⟩ := discard_spec hg hshows.quiet new
  rw [hshows.held] at hdiscard
  have hall := hshows.trans hdiscard
  by_cases hc : passes w.stores.faults.delete = true
  · rw [if_pos hc, update_moved hfree] at hall
    exact .undone hm (fun h => he (Except.error.inj h)) hall
  · rw [if_neg hc] at hall
    exact .left hm (fun h => absurd h hc) (fun h => he (Except.error.inj h)) hall

/-- A store that refuses has changed nothing, and cleaning up after it does not either. -/
theorem outcome_of_refused (hg : g.Made c (Watch.codec (.plain access)) (Watch.store .backend))
    {b : RefreshBackend} {secret : RefreshSecret} {now refreshEnd : Instant} {old : SecretDigest}
    {moved cleaned : Prop} {x : StoreError} {a : Except TokenError IssuedTokens}
    (hshows : b.Shows w.stores.store b.held) (hfree : b.held secret.digest = none) (hm : ¬ moved) :
    Outcome b (g.settle secret now refreshEnd (.error x) w).2.stores.store old secret.digest moved
      cleaned a := by
  refine .untouched hm ?_
  cases x with
  | failed fault =>
    have hdiscard := shows_discard_of_free hg hshows.quiet (d := secret.digest)
      (by rw [hshows.held, hfree])
    rw [hshows.held] at hdiscard
    exact hshows.trans hdiscard
  | _ => exact hshows

/-- The end of an exchange after the store has moved the record, whether it said so or not. -/
theorem outcome_of_settle (hg : g.Made c (Watch.codec (.plain access)) (Watch.store .backend))
    {b : RefreshBackend} {secret : RefreshSecret} {now refreshEnd : Instant} {old : SecretDigest}
    {moved : Prop} {x : Holding} {a : Except StoreError RefreshRecord}
    (hf : w.stores.faults.OfBackend) (hbroken : broken w.entropy = false)
    (ha : ∀ y, a = .error y → ∃ fault, y = .failed fault)
    (hshows : b.Shows w.stores.store
      (Function.update (Function.update b.held secret.digest (some x)) old none))
    (hfree : b.held secret.digest = none) (hm : moved) :
    Outcome b (g.settle secret now refreshEnd a w).2.stores.store old secret.digest moved
      (passes w.stores.faults.delete = true) (g.settle secret now refreshEnd a w).1 := by
  cases a with
  | error y =>
    obtain ⟨fault, rfl⟩ := ha y rfl
    exact outcome_of_moved hg hshows hfree hm (fun h => nomatch h)
  | ok r =>
    obtain ⟨a, w', hsign, hstore, hfaults, -, hgen⟩ :=
      Watch.sign_spec access r.owner now hf hbroken
    cases a with
    | ok signed =>
      simp only [settle, hg.codec, hsign]
      exact .left hm (fun _ => rfl) (fun h => nomatch h) (hstore ▸ hshows)
    | error y =>
      obtain ⟨cause, rfl⟩ := hgen y rfl
      simp only [settle, hg.codec, hsign]
      have hdelete : w'.stores.faults.delete = w.stores.faults.delete := by rw [hfaults]
      rw [← hdelete]
      exact outcome_of_moved hg (hstore ▸ hshows) hfree hm (fun h => nomatch h)

theorem calls_settle (hg : g.Made c (Watch.codec (.plain access)) (Watch.store .backend))
    (hq : w.stores.store.Quiet) (hf : w.stores.faults.OfBackend)
    (hbroken : broken w.entropy = false)
    (secret : RefreshSecret) (now refreshEnd : Instant) (a : Except StoreError RefreshRecord) :
    ∃ rest, (g.settle secret now refreshEnd a w).2.stores.calls = w.stores.calls ++ rest := by
  cases a with
  | error y =>
    cases y with
    | failed fault => exact ⟨_, (discard_spec hg hq secret.digest).1⟩
    | _ => exact ⟨[], (List.append_nil _).symm⟩
  | ok r =>
    obtain ⟨a, w', hsign, hstore, -, hcalls, hgen⟩ :=
      Watch.sign_spec access r.owner now hf hbroken
    cases a with
    | ok signed =>
      simp only [settle, hg.codec, hsign]
      exact ⟨_, hcalls⟩
    | error y =>
      obtain ⟨cause, rfl⟩ := hgen y rfl
      simp only [settle, hg.codec, hsign]
      rw [(discard_spec hg (hstore ▸ hq) secret.digest).1, hcalls, List.append_assoc]
      exact ⟨_, rfl⟩

theorem replace_outcome (hg : g.Made c (Watch.codec (.plain access)) (Watch.store .backend))
    (hq : w.stores.store.Quiet) (hf : w.stores.faults.OfBackend) (old : SecretDigest)
    (expected : Option OwnerId) :
    ((g.replace old expected w).2.stores = w.stores) ∨
      ∃ new rest, (g.replace old expected w).2.stores.calls =
          w.stores.calls ++ .rotate old new expected w.now g.refreshTtl :: rest ∧
        (w.stores.store.held new = none →
          Outcome w.stores.store (g.replace old expected w).2.stores.store old new
            (passes w.stores.faults.rotate = true ∧
              (w.stores.store.rotateAnswer old new expected w.now g.refreshTtl).isOk = true)
            (passes w.stores.faults.delete = true) (g.replace old expected w).1) := by
  cases hlater : w.now.later? g.refreshTtl with
  | none =>
    left
    simp only [replace, hlater]
  | some refreshEnd =>
    cases hbroken : broken w.entropy with
    | true =>
      left
      have hdraw := g.draw_undrawn hg.long hbroken
      simp only [replace, hlater, World.onEntropy, hdraw]
    | false =>
      right
      have hdraw := g.draw_nextSecret hg.long hbroken
      have ht : g.refreshTtl.Storable := hg.ttl ▸ hg.admitted.storable
      obtain ⟨a, p, hcall, hfaults, hcalls, hcases⟩ := Watch.rotate_spec hq hf ht old
        (g.nextSecret w).digest expected w.now
      have hf' : p.faults.OfBackend := hfaults ▸ hf.tail_rotate
      have hdelete : p.faults.delete = w.stores.faults.delete := by rw [hfaults]
      rw [replace_eq_settle hlater hdraw (hg.store ▸ hcall)]
      have hq' : p.store.Quiet := by
        rcases hcases with ⟨r, -, -, hshows, -⟩ | ⟨-, hshows, -⟩ <;> exact hshows.quiet
      have hworks : broken (g.entropyAfter w) = false := (g.broken_entropyAfter w).trans hbroken
      obtain ⟨rest, hrest⟩ := calls_settle (w := ⟨w.now, g.entropyAfter w, p⟩) hg hq' hf' hworks
        (g.nextSecret w) w.now refreshEnd a
      refine ⟨(g.nextSecret w).digest, rest, ?_, fun hfree => ?_⟩
      · rw [hrest, hcalls, List.append_assoc]
        rfl
      · rw [← hdelete]
        rcases hcases with ⟨r, hpasses, hr, hshows, ha⟩ | ⟨hnot, hshows, x, rfl⟩
        · refine outcome_of_settle hg hf' hworks (fun y hy => ?_) hshows hfree
            ⟨hpasses, by rw [hr]; rfl⟩
          rcases ha with rfl | ⟨fault, rfl⟩
          · cases hy
          · exact ⟨fault, (Except.error.inj hy).symm⟩
        · refine outcome_of_refused hg hshows hfree ?_
          rintro ⟨hpasses, hok⟩
          rw [hnot hpasses] at hok
          cases hok

theorem rotate_outcome (hg : g.Made c (Watch.codec (.plain access)) (Watch.store .backend))
    (hq : w.stores.store.Quiet) (hf : w.stores.faults.OfBackend) (secret : RefreshSecret)
    (expected : Option OwnerId) :
    (newDigest? (g.rotationCalls secret expected w) = none ∧
        w.stores.store.Shows (g.rotate secret expected w).2.stores.store w.stores.store.held) ∨
      ∃ new, newDigest? (g.rotationCalls secret expected w) = some new ∧
        (w.stores.store.held new = none →
          Outcome w.stores.store (g.rotate secret expected w).2.stores.store secret.digest new
            (g.Moved secret expected w) (passes w.stores.faults.delete = true)
            (g.rotate secret expected w).1) := by
  obtain ⟨a, p, hcall, hshows, hfaults, hcalls, -⟩ := Watch.get_spec hq hf secret.digest
  have hdrop (calls : List Call) :
      (p.calls ++ calls).drop w.stores.calls.length = .get secret.digest :: calls := by
    rw [hcalls, List.append_assoc, List.drop_left]
    rfl
  -- A rotation that stops after the look has asked for no more.
  have hstops {x : Except TokenError IssuedTokens} {v : World τ (Watched RefreshBackend ρ)}
      (hrotate : g.rotate secret expected w = (x, v)) (hv : v.stores = p) :
      newDigest? (g.rotationCalls secret expected w) = none ∧
        w.stores.store.Shows (g.rotate secret expected w).2.stores.store w.stores.store.held := by
    have hnone := hdrop []
    rw [List.append_nil] at hnone
    rw [rotationCalls, hrotate, hv, hnone]
    exact ⟨rfl, hshows⟩
  cases a with
  | error x =>
    exact .inl (hstops (v := ⟨w.now, w.entropy, p⟩) (rotate_unread (hg.store ▸ hcall)) rfl)
  | ok r =>
    let w₁ : World τ (Watched RefreshBackend ρ) := ⟨w.now, w.entropy, p⟩
    have hrotate : g.rotate secret expected w =
        if expected.any fun o => o ≠ r.owner then (.error .invalid, w₁)
        else g.replace secret.digest expected w₁ := rotate_eq_replace (hg.store ▸ hcall)
    split_ifs at hrotate with hexp
    · exact .inl (hstops hrotate rfl)
    · have hf₁ : w₁.stores.faults.OfBackend := hfaults ▸ hf.tail_get
      rcases replace_outcome hg hshows.quiet hf₁ secret.digest expected with
        hsame | ⟨new, rest, hrest, houtcome⟩
      · exact .inl (hstops (hrotate.trans (Prod.eta _).symm) hsame)
      · have hnew : newDigest? (g.rotationCalls secret expected w) = some new := by
          rw [rotationCalls, hrotate, hrest, hdrop]
          rfl
        have hanswer (d : SecretDigest) :
            (w.stores.store.rotate secret.digest d expected w.now g.refreshTtl).1 =
              p.store.rotateAnswer secret.digest d expected w.now g.refreshTtl := by
          rw [hshows.rotateAnswer]
          exact (RefreshBackend.rotate_spec hq (hg.ttl ▸ hg.admitted.storable) _ _ _ _).1
        have hmoved : passes p.faults.rotate = true ∧
            (p.store.rotateAnswer secret.digest new expected w.now g.refreshTtl).isOk = true ↔
              g.Moved secret expected w := by
          rw [Moved, hnew, hfaults]
          simp only [hanswer, Option.some.injEq, exists_eq_left']
        refine .inr ⟨new, hnew, fun hfree => ?_⟩
        have hdelete : p.faults.delete = w.stores.faults.delete := by rw [hfaults]
        rw [hrotate, ← hdelete]
        exact (houtcome (by rw [hshows.held]; exact hfree)).of_shows hshows hmoved

end Exchange

/-! ## The clean-up is not told -/

section Silent

variable {g : TokenEngine τ (Watched RefreshBackend ρ)} {c : TokenConfig} {access : AccessCodec}
  {w : World τ (Watched RefreshBackend ρ)}

theorem settle_withDeletes (hg : g.Made c (Watch.codec (.plain access)) (Watch.store .backend))
    (deletes : List Watch.StoreFailure) (secret : RefreshSecret) (now refreshEnd : Instant)
    (a : Except StoreError RefreshRecord) :
    (g.settle secret now refreshEnd a (withDeletes deletes w)).1 =
      (g.settle secret now refreshEnd a w).1 := by
  cases a with
  | error e => cases e <;> rfl
  | ok r =>
    simp only [settle, hg.codec, sign_withDeletes]
    rcases (Watch.codec (.plain access)).sign r.owner now w with ⟨a, w'⟩
    cases a with
    | ok signed => rfl
    | error e => cases e <;> rfl

theorem replace_withDeletes (hg : g.Made c (Watch.codec (.plain access)) (Watch.store .backend))
    (deletes : List Watch.StoreFailure) (old : SecretDigest) (expected : Option OwnerId) :
    (g.replace old expected (withDeletes deletes w)).1 = (g.replace old expected w).1 := by
  cases hlater : w.now.later? g.refreshTtl with
  | none => simp only [replace, withDeletes, hlater]
  | some refreshEnd =>
    rcases hdraw : RefreshSecret.draw g.secretBytes w.entropy with ⟨drawn, e⟩
    cases drawn with
    | error x => simp only [replace, withDeletes, hlater, World.onEntropy, hdraw]
    | ok secret =>
      rcases hcall : g.store.rotate old secret.digest expected w.now g.refreshTtl w.stores
        with ⟨a, p⟩
      have hcall' : g.store.rotate old secret.digest expected w.now g.refreshTtl
          (withDeletes deletes w).stores = (a, (withDeletes deletes ⟨w.now, e, p⟩).stores) := by
        rw [hg.store] at hcall ⊢
        have h : (Watch.store .backend).rotate old secret.digest expected w.now g.refreshTtl
            (withDeletes deletes w).stores =
          (((Watch.store .backend).rotate old secret.digest expected w.now g.refreshTtl w.stores).1,
            (withDeletes deletes ⟨w.now, e,
              ((Watch.store .backend).rotate old secret.digest expected w.now g.refreshTtl
                w.stores).2⟩).stores) := rfl
        rw [h, hcall]
      rw [replace_eq_settle hlater hdraw hcall,
        replace_eq_settle (w := withDeletes deletes w) hlater hdraw hcall']
      exact settle_withDeletes hg deletes secret w.now refreshEnd a

theorem rotate_withDeletes (hg : g.Made c (Watch.codec (.plain access)) (Watch.store .backend))
    (deletes : List Watch.StoreFailure) (secret : RefreshSecret) (expected : Option OwnerId) :
    (g.rotate secret expected (withDeletes deletes w)).1 = (g.rotate secret expected w).1 := by
  rcases hcall : (Watch.store (ρ := ρ) .backend).get secret.digest w.stores with ⟨a, p⟩
  have h : (Watch.store .backend).get secret.digest (withDeletes deletes w).stores =
      (((Watch.store .backend).get secret.digest w.stores).1,
        (withDeletes deletes ⟨w.now, w.entropy,
          ((Watch.store .backend).get secret.digest w.stores).2⟩).stores) := rfl
  rw [hcall] at h
  cases a with
  | error e => simp only [rotate, World.onStores, hg.store, hcall, h]
  | ok r =>
    simp only [rotate, World.onStores, hg.store, hcall, h]
    split_ifs
    · rfl
    · exact replace_withDeletes (w := ⟨w.now, w.entropy, p⟩) hg deletes secret.digest expected

end Silent

/-! ## All failures -/

structure FailsClosed (g : TokenEngine τ (Watched RefreshBackend ρ)) (secret : RefreshSecret)
    (expected : Option OwnerId) (w : World τ (Watched RefreshBackend ρ)) (e : TokenError) :
    Prop where
  others : ∀ d, d ≠ secret.digest → newDigest? (g.rotationCalls secret expected w) ≠ some d →
    (g.rotate secret expected w).2.stores.store.held d = w.stores.store.held d
  /-- The old record stays, unless the store has moved it. -/
  old : ¬ g.Moved secret expected w →
    (g.rotate secret expected w).2.stores.store.held secret.digest =
      w.stores.store.held secret.digest
  moved : g.Moved secret expected w →
    (g.rotate secret expected w).2.stores.store.held secret.digest = none
  /-- The new record is gone, unless the store has made it and the clean-up failed to be made. -/
  new : ∀ d, newDigest? (g.rotationCalls secret expected w) = some d →
    ¬ (g.Moved secret expected w ∧ passes w.stores.faults.delete = false) →
    (g.rotate secret expected w).2.stores.store.held d = none
  refused : e = .invalid →
    w.stores.store.Shows (g.rotate secret expected w).2.stores.store w.stores.store.held
  silent : ∀ deletes, (g.rotate secret expected (withDeletes deletes w)).1 = .error e

/-- Whatever fails in a rotation. -/
theorem fails_closed {g : TokenEngine τ (Watched RefreshBackend ρ)} {c : TokenConfig}
    {now : Instant} (hnow : Instant.inCalendar now.secs = true)
    (hg : ofConfig c (Watch.store .backend) now Watch.codec = .ok g)
    {w : World τ (Watched RefreshBackend ρ)} (hq : w.stores.store.Quiet)
    (hf : w.stores.faults.OfBackend) {secret : RefreshSecret} {expected : Option OwnerId}
    (hfree : ∀ d, newDigest? (g.rotationCalls secret expected w) = some d →
      w.stores.store.held d = none) :
    (∀ e, (g.rotate secret expected w).1 = .error e → FailsClosed g secret expected w e) ∧
      ∀ d, newDigest? (g.rotationCalls secret expected w) = some d →
        (g.rotate secret expected w).2.stores.store.held secret.digest = none ∨
          (g.rotate secret expected w).2.stores.store.held d = none := by
  obtain ⟨access, -, hmade⟩ := made_of_ofConfig hnow hg
  rcases rotate_outcome hmade hq hf secret expected with ⟨hnew, hshows⟩ | ⟨new, hnew, houtcome⟩
  · have hnone {d : SecretDigest} :
        newDigest? (g.rotationCalls secret expected w) ≠ some d := by simp [hnew]
    have hunmoved : ¬ g.Moved secret expected w := fun ⟨d, hd, _⟩ => hnone hd
    refine ⟨fun e he => ?_, fun d hd => absurd hd hnone⟩
    exact {
      others := fun d _ _ => congrFun hshows.held d
      old := fun _ => congrFun hshows.held _
      moved := fun hm => absurd hm hunmoved
      new := fun d hd => absurd hd hnone
      refused := fun _ => hshows
      silent := fun deletes => (rotate_withDeletes hmade deletes secret expected).trans he }
  · have houtcome := houtcome (hfree new hnew)
    have heq {d : SecretDigest}
        (hd : newDigest? (g.rotationCalls secret expected w) = some d) : d = new :=
      Option.some.inj (hd.symm.trans hnew)
    refine ⟨fun e he => ?_, fun d hd => heq hd ▸ houtcome.apart (hfree new hnew)⟩
    exact {
      others := fun d hd hdn => houtcome.others hd fun h => hdn (h ▸ hnew)
      old := houtcome.held_old
      moved := houtcome.old_gone
      new := fun d hd hclean => by
        rw [heq hd]
        refine houtcome.new_gone (hfree new hnew) (by rw [he]; rfl) fun hm => ?_
        by_contra hpasses
        exact hclean ⟨hm, by simpa using hpasses⟩
      refused := fun h => houtcome.refused (by rw [he, h])
      silent := fun deletes => (rotate_withDeletes hmade deletes secret expected).trans he }

/-- The store moves the record, the token cannot be signed, and the clean-up fails as well. -/
theorem fails_closed_unsigned :
    let g : TokenEngine Entropy (Watched RefreshBackend Unit) :=
      ⟨Watch.codec (.plain ⟨"gatehouse", "api", .ofSecs 300, List.replicate 32 7⟩),
        Watch.store .backend, .ofSecs 60, 32⟩
    let b : RefreshBackend := .memory ((MemoryStore.startingAt 0).file
      ⟨"cba06b5736faf67e54b07b561eae94395e774c517a7d910a54369e1263ccfbd4"⟩ ⟨⟨"ada"⟩, ⟨0⟩⟩ 60)
    let faults : Watch.Faults :=
      { sign := [.generation (.reported "no key")], delete := [⟨false, .failed .timedOut⟩] }
    let w : World Entropy (Watched RefreshBackend Unit) := ⟨⟨0⟩, { word := 1 }, ⟨b, (), faults, []⟩⟩
    (∀ e, (g.rotate ⟨"old"⟩ none w).1 = .error e → FailsClosed g ⟨"old"⟩ none w e) ∧
      ∀ d, newDigest? (g.rotationCalls ⟨"old"⟩ none w) = some d →
        (g.rotate ⟨"old"⟩ none w).2.stores.store.held (RefreshSecret.digest ⟨"old"⟩) = none ∨
          (g.rotate ⟨"old"⟩ none w).2.stores.store.held d = none := by
  intro g b faults w
  have hnew : newDigest? (g.rotationCalls ⟨"old"⟩ none w) =
      some ⟨"1274ef3e60e17d6db1b744aed624b16a773addf13ac1cddfa16d13777a89d158"⟩ := by
    decide +kernel
  have hf : w.stores.faults.OfBackend := by
    refine ⟨fun x hx => ?_, fun x hx => ?_, fun x hx => ?_, fun x hx => ?_⟩ <;> cases hx
    · exact ⟨_, rfl⟩
    · rename_i h
      cases h
    · exact ⟨_, rfl⟩
    · rename_i h
      cases h
  have hg : ofConfig ⟨⟨"gatehouse", "api", .ofSecs 300, List.replicate 32 7⟩, .ofSecs 60, 32⟩
      (Watch.store .backend) ⟨0⟩ Watch.codec = .ok g := rfl
  have hq : w.stores.store.Quiet := trivial
  have hfree (d : SecretDigest) (hd : newDigest? (g.rotationCalls ⟨"old"⟩ none w) = some d) :
      w.stores.store.held d = none := by
    rw [← Option.some.inj (hnew.symm.trans hd)]
    exact Option.isNone_iff_eq_none.mp (by decide +kernel)
  exact fails_closed (by decide) hg hq hf hfree

end Gatehouse.TokenEngine
