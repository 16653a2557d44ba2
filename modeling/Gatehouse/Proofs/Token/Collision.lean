import Mathlib.Control.Monad.Basic
import Gatehouse.Proofs.Token.Outcomes
import Gatehouse.Proofs.Token.Reached

/-!
# Gatehouse.Proofs.Token.Collision

What becomes of a record when the secret that is drawn next has its digest. An issue and a rotation
answer that no tokens could be made, and neither changes a record nor asks for a deletion
(`Spares`): so it is in every world that an engine reaches, for every owner and for every secret
that could be rotated, the one that would be replaced by itself among them
(`collision_harmless`). A record whose lifetime is over is in nobody's way.

It has to be possible to tell the end of the new record's lifetime. Where the clock of a store in
memory is too close to its end, the write fails before the store looks at the digest, and the
clean-up takes away the record that is there (`late_collision_loses_record`).
-/

namespace Gatehouse.TokenEngine

variable {τ : Type}

/-- The operation answers that no tokens could be made and leaves the records as they are. It asks
for no deletion: all is the same whatever a deletion does. -/
def Spares
    (operation : TokenEngine τ RefreshBackend → Operation τ RefreshBackend TokenError IssuedTokens)
    (g : TokenEngine τ RefreshBackend) (w : World τ RefreshBackend) : Prop :=
  ∃ cause w', (∀ delete, operation (g.withDelete delete) w = (.error (.generation cause), w')) ∧
    w.stores.Shows w'.stores w.stores.held

/-- The operation fails, because no tokens could be made or because the store cannot tell the end of
a lifetime, and changes no record but perhaps that of a digest. -/
def FailsBeside (d : SecretDigest)
    (operation : Operation τ RefreshBackend TokenError IssuedTokens) (w : World τ RefreshBackend) :
    Prop :=
  ∃ x w', operation w = (.error x, w') ∧
    ((∃ cause, x = .generation cause) ∨ x = .storage StoreFault.deadlineOutOfRange.message) ∧
    ∀ e, e ≠ d → w'.stores.held e = w.stores.held e

variable {g : TokenEngine τ RefreshBackend} {c : TokenConfig} {access : AccessCodec}
  {w : World τ RefreshBackend}

theorem StopsEarly.spares
    {operation : TokenEngine τ RefreshBackend → Operation τ RefreshBackend TokenError IssuedTokens}
    {w' : World τ RefreshBackend} (h : StopsEarly operation g w w') (hq : w.stores.Quiet) :
    Spares operation g w := by
  obtain ⟨cause, hends⟩ := h.ends
  refine ⟨cause, w', hends, ?_⟩
  rw [h.stores]
  exact RefreshBackend.Shows.refl hq

theorem StopsEarly.failsBeside
    {operation : TokenEngine τ RefreshBackend → Operation τ RefreshBackend TokenError IssuedTokens}
    {w' : World τ RefreshBackend} (h : StopsEarly operation g w w') (d : SecretDigest) :
    FailsBeside d (operation g) w := by
  obtain ⟨cause, hends⟩ := h.ends
  exact ⟨_, w', hends g.store.delete, .inl ⟨cause, rfl⟩, fun e _ => by rw [h.stores]⟩

/-! ## Issuing -/

variable [SteadySource τ]

theorem issue_spares (hg : g.Made c (.plain access) .backend) (hq : w.stores.Quiet)
    (hdate : w.stores.canDate g.refreshTtl = true)
    (hthere : (w.stores.held (g.nextSecret w).digest).isSome = true) (owner : OwnerId) :
    Spares (fun g => g.issue owner) g w := by
  rcases issue_stages hg hq owner with ⟨w', hstops⟩ | ⟨t, w', hwrites⟩
  · exact hstops.spares hq
  · have hissue := hwrites.ends
    have hshows := hwrites.shows
    have hput : w.stores.putAnswer (g.nextSecret w).digest g.refreshTtl =
        .error .alreadyExists := by
      simp [RefreshBackend.putAnswer, hdate, hthere]
    rw [hput] at hissue hshows
    exact ⟨.digestCollision, w', hissue, hshows⟩

theorem issue_failsBeside (hg : g.Made c (.plain access) .backend) (hq : w.stores.Quiet)
    (hdate : w.stores.canDate g.refreshTtl = false) (owner : OwnerId) :
    FailsBeside (g.nextSecret w).digest (g.issue owner) w := by
  rcases issue_stages hg hq owner with ⟨w', hstops⟩ | ⟨t, w', hwrites⟩
  · exact hstops.failsBeside _
  · have hissue := hwrites.ends g.store.delete
    have hshows := hwrites.shows
    have hput : w.stores.putAnswer (g.nextSecret w).digest g.refreshTtl =
        .error (.failed .deadlineOutOfRange) := by
      simp [RefreshBackend.putAnswer, hdate]
    rw [hput] at hissue hshows
    have hdiscard := shows_discard hg hshows (g.nextSecret w).digest
    refine ⟨_, _, hissue, .inr rfl, fun e he => ?_⟩
    rw [hwrites.secret]
    exact (congrFun hdiscard.held e).trans (Function.update_of_ne he ..)

/-! ## Rotating -/

section Rotate

variable {secret : RefreshSecret} {expected : Option OwnerId} {x : Holding} {owner : OwnerId}

theorem rotate_of_accepted (hg : g.Made c (.plain access) .backend) (hq : w.stores.Quiet)
    (hold : w.stores.held secret.digest = some x) (howner : x.IsOf owner)
    (hexp : Accepts expected owner)
    (delete : SecretDigest → RefreshBackend → Except StoreError Unit × RefreshBackend) :
    (g.withDelete delete).rotate secret expected w =
      (g.withDelete delete).replace secret.digest expected (afterLook secret w) := by
  obtain ⟨issuedAt, hrecord⟩ := howner.record
  have hget := (RefreshBackend.get_spec hq secret.digest).1
  rw [RefreshBackend.getAnswer, hold] at hget
  have hcall : g.store.get secret.digest w.stores =
      (.ok ⟨owner, issuedAt⟩, (w.stores.get secret.digest).2) := by
    rw [hg.store]
    exact Prod.ext (hget.trans hrecord) rfl
  rw [rotate_eq_replace (g := g.withDelete delete) hcall, any_ne_eq_false_iff.mpr hexp]
  rfl

theorem rotate_spares (hg : g.Made c (.plain access) .backend) (hq : w.stores.Quiet)
    (hdate : w.stores.canDate g.refreshTtl = true)
    (hold : w.stores.held secret.digest = some x) (howner : x.IsOf owner)
    (hexp : Accepts expected owner)
    (hthere : (w.stores.held (g.nextSecret w).digest).isSome = true) :
    Spares (fun g => g.rotate secret expected) g w := by
  have hlook := shows_afterLook hq secret
  have hheld : (afterLook secret w).stores.held = w.stores.held := hlook.held
  have hrotate := rotate_of_accepted hg hq hold howner hexp
  rcases replace_stages hg hlook.quiet secret.digest expected with
    ⟨w', hstops⟩ | ⟨refreshEnd, w', hwrites⟩
  · obtain ⟨cause, w', hreplace, hshows⟩ := hstops.spares hlook.quiet
    exact ⟨cause, w', fun delete => (hrotate delete).trans (hreplace delete),
      hlook.trans (hheld ▸ hshows)⟩
  · have hreplace := hwrites.ends
    have hshows := hwrites.shows
    have hanswer : (afterLook secret w).stores.rotateAnswer secret.digest
        (g.nextSecret (afterLook secret w)).digest expected (afterLook secret w).now g.refreshTtl =
        .error .alreadyExists := by
      rw [hlook.rotateAnswer, RefreshBackend.rotateAnswer_held hdate hold howner.owner,
        refuses_eq_false hexp]
      exact if_pos hthere
    rw [hanswer] at hreplace hshows
    exact ⟨.digestCollision, w', fun delete => (hrotate delete).trans (hreplace delete),
      hlook.trans (hheld ▸ hshows)⟩

theorem rotate_failsBeside (hg : g.Made c (.plain access) .backend) (hq : w.stores.Quiet)
    (hdate : w.stores.canDate g.refreshTtl = false)
    (hold : w.stores.held secret.digest = some x) (howner : x.IsOf owner)
    (hexp : Accepts expected owner) :
    FailsBeside (g.nextSecret w).digest (g.rotate secret expected) w := by
  have hlook := shows_afterLook hq secret
  have hheld : (afterLook secret w).stores.held = w.stores.held := hlook.held
  have hrotate := rotate_of_accepted hg hq hold howner hexp g.store.delete
  rcases replace_stages hg hlook.quiet secret.digest expected with
    ⟨w', hstops⟩ | ⟨refreshEnd, w', hwrites⟩
  · obtain ⟨x, w', hreplace, hx, hkept⟩ := hstops.failsBeside (g.nextSecret w).digest
    exact ⟨x, w', hrotate.trans hreplace, hx, fun e he => (hkept e he).trans (congrFun hheld e)⟩
  · have hreplace := hwrites.ends g.store.delete
    have hshows := hwrites.shows
    have hanswer : (afterLook secret w).stores.rotateAnswer secret.digest
        (g.nextSecret (afterLook secret w)).digest expected (afterLook secret w).now g.refreshTtl =
        .error (.failed .deadlineOutOfRange) := by
      rw [hlook.rotateAnswer]
      exact RefreshBackend.rotateAnswer_undated hdate
    rw [hanswer] at hreplace hshows
    have hdiscard := shows_discard hg hshows (g.nextSecret w).digest
    refine ⟨_, _, hrotate.trans hreplace, .inr rfl, fun e he => ?_⟩
    exact (congrFun hdiscard.held e).trans ((Function.update_of_ne he ..).trans (congrFun hheld e))

end Rotate

/-! ## In every world that is reached -/

structure CollisionHarmless (g : TokenEngine τ RefreshBackend) (c : TokenConfig)
    (w : World τ RefreshBackend) : Prop where
  issue : ∀ owner, (w.stores.held (g.nextSecret w).digest).isSome = true →
    w.stores.canDate c.refreshTtl = true → Spares (fun g => g.issue owner) g w
  /-- The record at the digest may be that of the secret itself. -/
  rotate : ∀ (secret : RefreshSecret) expected x owner, w.stores.held secret.digest = some x →
    x.IsOf owner → Accepts expected owner →
    (w.stores.held (g.nextSecret w).digest).isSome = true →
    w.stores.canDate c.refreshTtl = true → Spares (fun g => g.rotate secret expected) g w
  /-- Only a store in memory can fail to tell the end of a lifetime. -/
  issueUndated : ∀ owner, w.stores.canDate c.refreshTtl = false →
    FailsBeside (g.nextSecret w).digest (g.issue owner) w
  rotateUndated : ∀ (secret : RefreshSecret) expected x owner,
    w.stores.held secret.digest = some x → x.IsOf owner → Accepts expected owner →
    w.stores.canDate c.refreshTtl = false →
    FailsBeside (g.nextSecret w).digest (g.rotate secret expected) w
  /-- Of what is no longer held, whether or not it has been dropped, nothing is to be seen. -/
  issueExpired : ∀ owner, w.stores.held (g.nextSecret w).digest = none → Able c w →
    owner.isEmpty = false → ∃ t w', g.issue owner w = (.ok t, w') ∧ g.PairFor c w owner t ∧
      Leaves w w' (Function.update w.stores.held (g.nextSecret w).digest
        (some (w.stores.filing ⟨owner, w.now⟩ c.refreshTtl)))
  rotateExpired : ∀ (secret : RefreshSecret) expected x owner,
    w.stores.held secret.digest = some x → x.IsOf owner → Accepts expected owner →
    w.stores.held (g.nextSecret w).digest = none → Able c w →
    ∃ t w', g.rotate secret expected w = (.ok t, w') ∧ g.PairFor c w owner t ∧
      Leaves w w' (Function.update (Function.update w.stores.held (g.nextSecret w).digest
        (some (w.stores.filing ⟨owner, w.now⟩ c.refreshTtl))) secret.digest none)

/-- A digest that is drawn twice takes no record away from anybody, as long as the store can tell
how long the new one would live. -/
theorem collision_harmless {made : Instant} {w₀ : World τ RefreshBackend}
    (hmade : Instant.inCalendar made.secs = true) (hg : ofConfig c .backend made id = .ok g)
    (h₀ : Begins w₀) (h : g.Reached w₀ w) : CollisionHarmless g c w := by
  obtain ⟨access, hacc, hg⟩ := made_of_ofConfig hmade hg
  have hq := (h.tidy hg h₀).2.quiet
  have httl := hg.ttl
  exact {
    issue := fun owner hthere hdate => issue_spares hg hq (httl ▸ hdate) hthere owner
    rotate := fun secret expected x owner hold howner hexp hthere hdate =>
      rotate_spares hg hq (httl ▸ hdate) hold howner hexp hthere
    issueUndated := fun owner hdate => issue_failsBeside hg hq (httl ▸ hdate) owner
    rotateUndated := fun secret expected x owner hold howner hexp hdate =>
      rotate_failsBeside hg hq (httl ▸ hdate) hold howner hexp
    issueExpired := fun owner hfree hable howner => issue_spec hg hq hable hacc howner hfree
    rotateExpired := fun secret expected x owner hold howner hexp hfree hable =>
      rotate_spec hg hq hable hacc hold howner hexp hfree }

theorem collision_harmless_reissued :
    let g : TokenEngine Entropy RefreshBackend :=
      ⟨.plain ⟨"gatehouse", "api", .ofSecs 300, List.replicate 32 7⟩, .backend, .ofSecs 60, 32⟩
    let c : TokenConfig :=
      ⟨⟨"gatehouse", "api", .ofSecs 300, List.replicate 32 7⟩, .ofSecs 60, 32⟩
    let w₀ : World Entropy RefreshBackend := ⟨⟨0⟩, { word := 1 }, .memory (.startingAt 0)⟩
    let w := { ((TokenCall.issue ⟨"ada"⟩).apply g w₀).2 with entropy := { word := 1 } }
    CollisionHarmless g c w ∧ w.stores.canDate c.refreshTtl = true ∧
      (w.stores.held (g.nextSecret w).digest).isSome = true ∧
      (g.issue ⟨"eve"⟩ w).1 = .error (.generation .digestCollision) := by
  intro g c w₀ w
  have hg : ofConfig ⟨⟨"gatehouse", "api", .ofSecs 300, List.replicate 32 7⟩, .ofSecs 60, 32⟩
      .backend ⟨0⟩ id = .ok g := rfl
  have hreached : g.Reached w₀ w := .reseed _ (.call (.issue ⟨"ada"⟩) .start)
  refine ⟨collision_harmless (by decide) hg ⟨by decide, RefreshBackend.fresh_memory 0⟩ hreached, ?_⟩
  decide +kernel

/-- A record lives until shortly before the clock of a store in memory comes to its end, and so no
other can be written for as long a time. When its digest is drawn again the issue fails with another
answer, and the record is taken away. -/
theorem late_collision_loses_record :
    let g : TokenEngine Entropy RefreshBackend :=
      ⟨.plain ⟨"gatehouse", "api", .ofSecs 300, List.replicate 32 7⟩, .backend, .ofSecs 60, 32⟩
    let c : TokenConfig :=
      ⟨⟨"gatehouse", "api", .ofSecs 300, List.replicate 32 7⟩, .ofSecs 60, 32⟩
    let w₀ : World Entropy RefreshBackend :=
      ⟨⟨0⟩, { word := 1 }, .memory (.startingAt ((MemoryStore.secondsEnd - 100) * Span.second))⟩
    let w₁ := ((TokenCall.issue ⟨"ada"⟩).apply g w₀).2
    let w : World Entropy RefreshBackend := ⟨w₁.now, { word := 1 }, w₁.stores.advance (.ofSecs 50)⟩
    (ofConfig c .backend ⟨0⟩ id = .ok g ∧ Begins w₀ ∧ g.Reached w₀ w) ∧
      (w.stores.held (g.nextSecret w).digest).isSome = true ∧
      (g.issue ⟨"eve"⟩ w).1 = .error (.storage "ttl is out of range") ∧
      ((g.issue ⟨"eve"⟩ w).2.stores.held (g.nextSecret w).digest).isSome = false ∧
      ¬ Spares (fun g => g.issue ⟨"eve"⟩) g w := by
  intro g c w₀ w₁ w
  have hg : ofConfig ⟨⟨"gatehouse", "api", .ofSecs 300, List.replicate 32 7⟩, .ofSecs 60, 32⟩
      .backend ⟨0⟩ id = .ok g := rfl
  have hreached : g.Reached w₀ w := .reseed _ (.wait _ (.call (.issue ⟨"ada"⟩) .start))
  obtain ⟨hlive, hanswer, hgone⟩ :
      (w.stores.held (g.nextSecret w).digest).isSome = true ∧
        (g.issue ⟨"eve"⟩ w).1 = .error (.storage "ttl is out of range") ∧
        ((g.issue ⟨"eve"⟩ w).2.stores.held (g.nextSecret w).digest).isSome = false := by
    decide +kernel
  refine ⟨⟨hg, ⟨by decide, RefreshBackend.fresh_memory _⟩, hreached⟩, hlive, hanswer, hgone, ?_⟩
  rintro ⟨cause, w', hspared, -⟩
  cases (congrArg Prod.fst (hspared g.store.delete)).symm.trans hanswer

end Gatehouse.TokenEngine
