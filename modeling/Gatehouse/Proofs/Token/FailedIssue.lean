import Mathlib.Control.Monad.Basic
import Gatehouse.Proofs.Token.Stages
import Gatehouse.Proofs.Watch.Parts

/-!
# Gatehouse.Proofs.Token.FailedIssue

What an issue leaves when it fails. Whatever stops it before the write asks the store for nothing
(`issue_of_stops`). A write that is reported as failed may have been made, and is taken back; its
record stays only if taking it back fails as well (`issue_of_not_stops`). Together these say that an
issue ends cleanly (`ends_cleanly`).
-/

namespace Gatehouse.TokenEngine

open SteadySource (broken)
open Watch (Watched Call passes)

variable {τ ρ : Type} [SteadySource τ]

section Issue

variable (g : TokenEngine τ (Watched RefreshBackend ρ)) (owner : OwnerId)
  (w : World τ (Watched RefreshBackend ρ))

def issueCalls : List Call := (g.issue owner w).2.stores.calls.drop w.stores.calls.length

def issueWrite : Call := .put (g.nextSecret w).digest ⟨owner, w.now⟩ g.refreshTtl

/-- Something stops the issue before it writes: the owner has no name, the expiry cannot be told, no
random bytes can be drawn, or no token can be signed. -/
def Stops : Prop :=
  owner.isEmpty = true ∨ w.now.later? g.refreshTtl = none ∨ broken w.entropy = true ∨
    ∃ e, (g.codec.sign owner w.now { w with entropy := g.entropyAfter w }).1 = .error e

def Written : Prop :=
  g.issueWrite owner w ∈ g.issueCalls owner w ∧ passes w.stores.faults.put = true ∧
    (w.stores.store.put (g.nextSecret w).digest ⟨owner, w.now⟩ g.refreshTtl).1 = .ok ()

structure EndsCleanly : Prop where
  /-- A failure leaves the records as they were, unless the store has made one and the clean-up
  failed to be made. -/
  kept : ∀ e, (g.issue owner w).1 = .error e →
    ¬ (g.Written owner w ∧ passes w.stores.faults.delete = false) →
    w.stores.store.Shows (g.issue owner w).2.stores.store w.stores.store.held
  /-- And then it leaves that one record more. -/
  leftOver : ∀ e, (g.issue owner w).1 = .error e →
    g.Written owner w ∧ passes w.stores.faults.delete = false →
    w.stores.store.Shows (g.issue owner w).2.stores.store
      (Function.update w.stores.store.held (g.nextSecret w).digest
        (some (w.stores.store.filing ⟨owner, w.now⟩ g.refreshTtl)))
  stops : g.Stops owner w → (∃ e, (g.issue owner w).1 = .error e) ∧
    ∀ x ∈ g.issueCalls owner w, x = .sign owner w.now
  silent : ∀ deletes, (g.issue owner (withDeletes deletes w)).1 = (g.issue owner w).1
  tokens : ∀ t, (g.issue owner w).1 = .ok t → g.issueWrite owner w ∈ g.issueCalls owner w ∧
    (g.store.put (g.nextSecret w).digest ⟨owner, w.now⟩ g.refreshTtl w.stores).1 = .ok ()

end Issue

variable {g : TokenEngine τ (Watched RefreshBackend ρ)} {c : TokenConfig} {access : AccessCodec}
  {w : World τ (Watched RefreshBackend ρ)} {owner : OwnerId}

theorem issue_of_stops (hg : g.Made c (Watch.codec (.plain access)) (Watch.store .backend))
    (h : g.Stops owner w) :
    ∃ e w' signs, g.issue owner w = (.error e, w') ∧ w'.stores.store = w.stores.store ∧
      w'.stores.calls = w.stores.calls ++ signs ∧ ∀ x ∈ signs, x = .sign owner w.now := by
  have hnone : ∀ x ∈ ([] : List Call), x = .sign owner w.now := fun x hx => nomatch hx
  cases howner : owner.isEmpty with
  | true => exact ⟨_, _, [], issue_unnamed howner, rfl, (List.append_nil _).symm, hnone⟩
  | false =>
    cases hlater : w.now.later? g.refreshTtl with
    | none => exact ⟨_, _, [], issue_undated howner hlater, rfl, (List.append_nil _).symm, hnone⟩
    | some refreshEnd =>
      cases hbroken : broken w.entropy with
      | true =>
        have hdraw := g.draw_undrawn hg.long hbroken
        exact ⟨_, _, [], issue_undrawn howner hlater hdraw, rfl, (List.append_nil _).symm, hnone⟩
      | false =>
        obtain ⟨x, hx⟩ : ∃ e, (g.codec.sign owner w.now
            { w with entropy := g.entropyAfter w }).1 = .error e := by
          simpa [Stops, howner, hlater, hbroken] using h
        obtain ⟨a, e, hsign⟩ := Watch.sign_frame access owner w.now
          { w with entropy := g.entropyAfter w }
        rw [← hg.codec] at hsign
        rw [hsign] at hx
        obtain rfl : a = .error x := hx
        exact ⟨x, _, [.sign owner w.now],
          issue_unsigned howner hlater (g.draw_nextSecret hg.long hbroken) hsign, rfl, rfl,
          fun x hx => List.mem_singleton.mp hx⟩

theorem issue_of_not_stops (hg : g.Made c (Watch.codec (.plain access)) (Watch.store .backend))
    (h : ¬ g.Stops owner w) :
    ∃ t w', t.refreshToken = g.nextSecret w ∧
      g.issue owner w = g.conclude t
        (g.store.put (g.nextSecret w).digest ⟨owner, w.now⟩ g.refreshTtl w.stores).1 w' ∧
      w'.stores.store =
        (g.store.put (g.nextSecret w).digest ⟨owner, w.now⟩ g.refreshTtl w.stores).2.store ∧
      w'.stores.faults.delete = w.stores.faults.delete ∧
      w'.stores.calls = w.stores.calls ++ [.sign owner w.now, g.issueWrite owner w] := by
  obtain ⟨howner, hlater, hbroken, hsigned⟩ : owner.isEmpty = false ∧
      (∃ refreshEnd, w.now.later? g.refreshTtl = some refreshEnd) ∧ broken w.entropy = false ∧
      ∀ e, (g.codec.sign owner w.now { w with entropy := g.entropyAfter w }).1 ≠ .error e := by
    simpa [Stops, Option.ne_none_iff_exists'] using h
  obtain ⟨refreshEnd, hlater⟩ := hlater
  obtain ⟨a, e, hsign⟩ := Watch.sign_frame access owner w.now
    { w with entropy := g.entropyAfter w }
  rw [← hg.codec] at hsign
  cases a with
  | error x => exact absurd (congrArg Prod.fst hsign) (hsigned x)
  | ok signed =>
    -- The answer of a write does not depend on what the codec has noted.
    refine ⟨⟨owner, signed.token, g.nextSecret w, signed.expiresAt, refreshEnd⟩, _, rfl,
      issue_eq_conclude howner hlater (g.draw_nextSecret hg.long hbroken) hsign (Prod.ext ?_ rfl),
      ?_, ?_, ?_⟩
    · rw [hg.store]
      rfl
    · rw [hg.store]
      rfl
    · rw [hg.store]
      rfl
    · rw [hg.store]
      simp [Watch.store_put, issueWrite]

/-! ## The end of an issue -/

section Conclude

variable {b : RefreshBackend} {t : IssuedTokens} {d : SecretDigest}

/-- A write that is not known to have failed for good is taken back, if that is possible. -/
theorem shows_conclude_of_written
    (hg : g.Made c (Watch.codec (.plain access)) (Watch.store .backend)) {x : Holding}
    (ht : t.refreshToken.digest = d) (hfree : b.held d = none)
    (hshows : b.Shows w.stores.store (Function.update b.held d (some x))) (fault : StoreFault) :
    b.Shows (g.conclude t (.error (.failed fault)) w).2.stores.store
      (if passes w.stores.faults.delete then b.held
        else Function.update b.held d (some x)) := by
  obtain ⟨-, hdiscard⟩ := discard_spec hg hshows.quiet d
  have hback : Function.update (Function.update b.held d (some x)) d none = b.held := by
    rw [Function.update_idem, ← hfree, Function.update_eq_self]
  rw [hshows.held, hback] at hdiscard
  simp only [conclude, ht]
  exact hshows.trans hdiscard

theorem shows_conclude_of_refused
    (hg : g.Made c (Watch.codec (.plain access)) (Watch.store .backend))
    (ht : t.refreshToken.digest = d) (hfree : b.held d = none)
    (hshows : b.Shows w.stores.store b.held) (e : StoreError) :
    b.Shows (g.conclude t (.error e) w).2.stores.store b.held := by
  cases e with
  | failed fault =>
    have hdiscard := shows_discard_of_free hg hshows.quiet (hshows.held.symm ▸ hfree)
    rw [hshows.held] at hdiscard
    simp only [conclude, ht]
    exact hshows.trans hdiscard
  | _ => exact hshows

theorem calls_conclude (hg : g.Made c (Watch.codec (.plain access)) (Watch.store .backend))
    (hq : w.stores.store.Quiet) (t : IssuedTokens) (a : Except StoreError Unit) :
    ∃ rest, (g.conclude t a w).2.stores.calls = w.stores.calls ++ rest := by
  cases a with
  | ok _ => exact ⟨[], (List.append_nil _).symm⟩
  | error e =>
    cases e with
    | failed fault => exact ⟨_, (discard_spec hg hq t.refreshToken.digest).1⟩
    | _ => exact ⟨[], (List.append_nil _).symm⟩

end Conclude

/-! ## The clean-up is not told -/

omit [SteadySource τ] in
theorem conclude_withDeletes (deletes : List Watch.StoreFailure) (t : IssuedTokens)
    (a : Except StoreError Unit) :
    (g.conclude t a (withDeletes deletes w)).1 = (g.conclude t a w).1 := by
  cases a with
  | error x => cases x <;> rfl
  | ok _ => rfl

theorem issue_withDeletes (hg : g.Made c (Watch.codec (.plain access)) (Watch.store .backend))
    (deletes : List Watch.StoreFailure) (owner : OwnerId) :
    (g.issue owner (withDeletes deletes w)).1 = (g.issue owner w).1 := by
  cases howner : owner.isEmpty with
  | true => rw [issue_unnamed howner, issue_unnamed howner]
  | false =>
    cases hlater : w.now.later? g.refreshTtl with
    | none =>
      rw [issue_undated howner hlater,
        issue_undated (w := withDeletes deletes w) howner hlater]
    | some refreshEnd =>
      rcases hdraw : RefreshSecret.draw g.secretBytes w.entropy with ⟨x | secret, e⟩
      · rw [issue_undrawn howner hlater hdraw,
          issue_undrawn (w := withDeletes deletes w) howner hlater hdraw]
      · rcases hsign : g.codec.sign owner w.now { w with entropy := e } with ⟨a, w₁⟩
        have hsign' : g.codec.sign owner w.now { withDeletes deletes w with entropy := e } =
            (a, withDeletes deletes w₁) := by
          rw [hg.codec] at hsign ⊢
          change (Watch.codec (.plain access)).sign owner w.now
            (withDeletes deletes { w with entropy := e }) = _
          rw [sign_withDeletes, hsign]
        cases a with
        | error x =>
          rw [issue_unsigned howner hlater hdraw hsign,
            issue_unsigned (w := withDeletes deletes w) howner hlater hdraw hsign']
        | ok signed =>
          rcases hcall : g.store.put secret.digest ⟨owner, w.now⟩ g.refreshTtl w₁.stores with ⟨a, p⟩
          have hcall' : g.store.put secret.digest ⟨owner, w.now⟩ g.refreshTtl
              (withDeletes deletes w₁).stores =
                (a, (withDeletes deletes { w₁ with stores := p }).stores) := by
            rw [hg.store] at hcall ⊢
            cases hcall
            rfl
          rw [issue_eq_conclude howner hlater hdraw hsign hcall,
            issue_eq_conclude (w := withDeletes deletes w) howner hlater hdraw hsign' hcall']
          exact conclude_withDeletes deletes _ a

/-! ## All issues -/

theorem ends_cleanly_of_stops (hg : g.Made c (Watch.codec (.plain access)) (Watch.store .backend))
    (hq : w.stores.store.Quiet) (h : g.Stops owner w) : g.EndsCleanly owner w := by
  obtain ⟨e, w', signs, hissue, hstore, hcalls, hsigns⟩ := issue_of_stops hg h
  have hmade : g.issueCalls owner w = signs := by
    rw [issueCalls, hissue, hcalls, List.drop_left]
  have hunasked : g.issueWrite owner w ∉ g.issueCalls owner w := by
    intro hmem
    have hsame := hsigns _ (hmade ▸ hmem)
    cases hsame
  exact {
    kept := fun _ _ _ => by
      rw [hissue, hstore]
      exact RefreshBackend.Shows.refl hq
    leftOver := fun _ _ hleft => absurd hleft.1.1 hunasked
    stops := fun _ => ⟨⟨e, by rw [hissue]⟩, hmade ▸ hsigns⟩
    silent := fun deletes => issue_withDeletes hg deletes owner
    tokens := fun t ht => by
      rw [hissue] at ht
      cases ht }

theorem ends_cleanly_of_not_stops
    (hg : g.Made c (Watch.codec (.plain access)) (Watch.store .backend))
    (hq : w.stores.store.Quiet)
    (hput : ∀ x ∈ w.stores.faults.put, ∃ fault, x.error = .failed fault)
    (hfree : w.stores.store.held (g.nextSecret w).digest = none) (h : ¬ g.Stops owner w) :
    g.EndsCleanly owner w := by
  obtain ⟨t, w', ht, hissue, hstore, hdelete, hcalls⟩ := issue_of_not_stops hg h
  have hdigest : t.refreshToken.digest = (g.nextSecret w).digest := by rw [ht]
  obtain ⟨a, p, hcall, -, -, hcases⟩ := Watch.put_spec hq hput (hg.ttl ▸ hg.admitted.storable)
    (g.nextSecret w).digest ⟨owner, w.now⟩
  rw [← hg.store] at hcall
  simp only [hcall] at hissue hstore
  have hasked (hq' : w'.stores.store.Quiet) : g.issueWrite owner w ∈ g.issueCalls owner w := by
    obtain ⟨rest, hrest⟩ := calls_conclude hg hq' t a
    rw [issueCalls, hissue, hrest, hcalls, List.append_assoc, List.drop_left]
    simp
  have hsilent := fun deletes => issue_withDeletes (w := w) hg deletes owner
  -- Either the record is made, whatever the answer says, or the answer is an error and it is not.
  rcases hcases with ⟨v, hpasses, hok, hshows, ha⟩ | ⟨hnot, hshows, e, rfl⟩
  · rw [← hstore] at hshows
    have hasked := hasked hshows.quiet
    have hwritten : g.Written owner w := ⟨hasked, hpasses, hok⟩
    rcases ha with rfl | ⟨fault, rfl⟩
    · have hanswer : (g.issue owner w).1 = .ok t := by rw [hissue]; rfl
      exact {
        kept := fun e he _ => by simp [hanswer] at he
        leftOver := fun e he _ => by simp [hanswer] at he
        stops := fun hstops => absurd hstops h
        silent := hsilent
        tokens := fun _ _ => ⟨hasked, by rw [hcall]⟩ }
    · have hleft := shows_conclude_of_written hg hdigest hfree hshows fault
      rw [← hissue, hdelete] at hleft
      exact {
        kept := fun _ _ hc => by
          rwa [if_pos (by simpa [hwritten] using hc)] at hleft
        leftOver := fun _ _ hc => by
          rwa [if_neg (by simp [hc.2])] at hleft
        stops := fun hstops => absurd hstops h
        silent := hsilent
        tokens := fun t ht => by
          rw [hissue] at ht
          cases ht }
  · rw [← hstore] at hshows
    have hunwritten : ¬ g.Written owner w := by
      rintro ⟨-, hpasses, hok⟩
      have hrefused := hnot hpasses
      rw [hok] at hrefused
      cases hrefused
    have hleft := shows_conclude_of_refused hg hdigest hfree hshows e
    rw [← hissue] at hleft
    exact {
      kept := fun _ _ _ => hleft
      leftOver := fun _ _ hc => absurd hc.1 hunwritten
      stops := fun hstops => absurd hstops h
      silent := hsilent
      tokens := fun t ht => by
        rw [hissue] at ht
        cases e <;> cases ht }

/-- Whatever fails in an issue, if the digest of the secret that it draws is not in use. -/
theorem ends_cleanly {now : Instant} (hnow : Instant.inCalendar now.secs = true)
    (hg : ofConfig c (Watch.store .backend) now Watch.codec = .ok g) (hq : w.stores.store.Quiet)
    (hput : ∀ x ∈ w.stores.faults.put, ∃ fault, x.error = .failed fault)
    (hfree : w.stores.store.held (g.nextSecret w).digest = none) : g.EndsCleanly owner w := by
  obtain ⟨access, -, hmade⟩ := made_of_ofConfig hnow hg
  by_cases h : g.Stops owner w
  · exact ends_cleanly_of_stops hmade hq h
  · exact ends_cleanly_of_not_stops hmade hq hput hfree h

/-- The record is written, the store says that it is not, and the clean-up fails as well. -/
theorem ends_cleanly_unsure :
    let g : TokenEngine Entropy (Watched RefreshBackend Unit) :=
      ⟨Watch.codec (.plain ⟨"gatehouse", "api", .ofSecs 300, List.replicate 32 7⟩),
        Watch.store .backend, .ofSecs 60, 32⟩
    let faults : Watch.Faults :=
      { put := [⟨true, .failed .timedOut⟩], delete := [⟨false, .failed .timedOut⟩] }
    let w : World Entropy (Watched RefreshBackend Unit) :=
      ⟨⟨0⟩, { word := 1 }, ⟨.remote "refresh" { db := .startingAt 8 }, (), faults, []⟩⟩
    (g.issue ⟨"ada"⟩ w).1 = .error (.storage "redis call timed out") ∧
      g.EndsCleanly ⟨"ada"⟩ w := by
  intro g faults w
  have hg : ofConfig ⟨⟨"gatehouse", "api", .ofSecs 300, List.replicate 32 7⟩, .ofSecs 60, 32⟩
      (Watch.store .backend) ⟨0⟩ Watch.codec = .ok g := rfl
  refine ⟨by decide +kernel, ?_⟩
  exact ends_cleanly (w := w) (by decide) hg rfl
    (fun x hx => ⟨.timedOut, by rw [List.mem_singleton.mp hx]⟩) rfl

end Gatehouse.TokenEngine
