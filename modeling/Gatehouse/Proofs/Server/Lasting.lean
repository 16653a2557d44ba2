import Gatehouse.Proofs.Server.Traced
import Gatehouse.Proofs.Token.Kept

/-!
# Gatehouse.Proofs.Server.Lasting

Refresh records that last. A step of a service lets a secret be if it neither ends it nor trades it
for another (`ServiceMoment.LetsBe`), and then the record stays until its deadline: whatever else
the step does, and whether it succeeds or fails, it takes no other record away, and the clock never
goes back (`lasts_apply`). So what is there is there after any number of steps, as long as they let
the secret be and the deadline has not come (`held_afterSteps`).
-/

namespace Gatehouse

/-! ## Of a store -/

namespace RefreshBackend

/-- What a step makes of the record of a digest. The clock does not go back; a record that is spared
is there until its deadline, while the clock can tell the end of a lifetime. -/
structure Lasts (ttl : Span) (d : SecretDigest) (spared : Prop) (b b' : RefreshBackend) : Prop where
  place : b'.place = b.place
  clock : b.clock ≤ b'.clock
  held : spared → b.canDate ttl = true → ∀ x deadline, b.held d = some x →
    x.deadline = some deadline → b'.clock < deadline → b'.held d = some x

variable {ttl : Span} {d : SecretDigest} {spared : Prop} {b b' : RefreshBackend}

theorem Lasts.refl (b : RefreshBackend) : Lasts ttl d spared b b :=
  ⟨rfl, Nat.le_refl _, fun _ _ _ _ hx _ _ => hx⟩

/-- A call takes no time. -/
theorem Lasts.of_shows {records : SecretDigest → Option Holding} (hshows : b.Shows b' records)
    (h : spared → b.canDate ttl = true → ∀ x, b.held d = some x → b'.held d = some x) :
    Lasts ttl d spared b b' :=
  ⟨hshows.place, Nat.le_of_eq hshows.clock.symm, fun hspared hdate x _ hx _ _ =>
    h hspared hdate x hx⟩

theorem lasts_advance (hq : b.Quiet) (span : Span) : Lasts ttl d spared b (b.advance span) := by
  obtain ⟨hplace, -, hclock, -, hheld⟩ := advance_spec hq span
  refine ⟨hplace, by omega, fun _ _ x deadline hx hdeadline hlt => ?_⟩
  rw [hclock] at hlt
  rw [hheld, hx]
  simp only [Option.filter, hdeadline, Option.all_some, decide_eq_true hlt, if_true]

theorem canDate_of_clock_le (hplace : b'.place = b.place) (hle : b.clock ≤ b'.clock)
    (h : b'.canDate ttl = true) : b.canDate ttl = true := by
  cases b with
  | remote p l => rfl
  | memory s =>
    cases b' with
    | remote p l => cases hplace
    | memory s' =>
      simp only [canDate, MemoryStore.deadline?] at h ⊢
      split_ifs at h with hend
      · have hsecs : (s.clock + ttl.nanos) / Span.second ≤ (s'.clock + ttl.nanos) / Span.second :=
          Nat.div_le_div_right (Nat.add_le_add_right hle _)
        rw [if_pos (Nat.lt_of_le_of_lt hsecs hend)]
        rfl
      · cases h

end RefreshBackend

/-! ## Of a service -/

section Engine

open RefreshBackend (Lasts)

variable {τ : Type} [SteadySource τ] {g : TokenEngine τ Backends} {c : TokenConfig}
  {access : AccessCodec} {w : World τ Backends} {d : SecretDigest} {spared : Prop}
  (hg : g.Made c (.plain access) Backends.refreshStore) (hq : w.stores.store.Quiet)
include hg hq

theorem lasts_issue (owner : OwnerId) :
    Lasts c.refreshTtl d spared w.stores.store (g.issue owner w).2.stores.store := by
  obtain ⟨records, hshows⟩ := (TokenEngine.issue_ends (w := w.alone) hg.alone hq owner).shows
  rw [TokenEngine.issue_beside hg]
  refine .of_shows hshows fun _ hdate x hx => ?_
  exact TokenEngine.issue_keeps (w := w.alone) hg.alone hq (hg.alone.ttl ▸ hdate) owner hx

theorem lasts_rotate (secret : RefreshSecret) (expected : Option OwnerId)
    (hspared : spared → secret.digest = d → (w.now.later? access.ttl).isSome = true ∧
      ∀ t, (g.rotate secret expected w).1 ≠ .ok t) :
    Lasts c.refreshTtl d spared w.stores.store
      (g.rotate secret expected w).2.stores.store := by
  obtain ⟨records, hshows⟩ :=
    (TokenEngine.rotate_ends (w := w.alone) hg.alone hq secret expected).shows
  rw [TokenEngine.rotate_beside hg] at hspared ⊢
  refine .of_shows hshows fun h hdate x hx => ?_
  exact TokenEngine.rotate_keeps (w := w.alone) hg.alone hq (hg.alone.ttl ▸ hdate) (hspared h) hx

theorem lasts_revoke (secret : RefreshSecret) (hspared : spared → secret.digest ≠ d) :
    Lasts c.refreshTtl d spared w.stores.store (g.revoke secret w).2.stores.store := by
  obtain ⟨-, -, hshows⟩ := revoke_shows hg hq secret
  refine .of_shows hshows fun h _ x hx => ?_
  rw [hshows.held, Function.update_of_ne (hspared h).symm, hx]

theorem lasts_validateRefresh (secret : RefreshSecret) :
    Lasts c.refreshTtl d spared w.stores.store
      (g.validateRefresh secret w).2.stores.store := by
  obtain ⟨-, hleaves⟩ := TokenEngine.validateRefresh_spec (w := w.alone) hg.alone hq secret
  rw [TokenEngine.validateRefresh_beside hg]
  refine .of_shows hleaves.stores fun _ _ x hx => ?_
  exact (congrFun hleaves.stores.held d).trans hx

theorem lasts_login {hasher : PasswordHasher τ Backends} (hhasher : hasher.Apart)
    (hrepo : w.stores.repo.Usable hasher) (username password : String) :
    Lasts c.refreshTtl d spared w.stores.store
      (AuthService.login ⟨Backends.credentialRepo, hasher, g⟩ username password
        w).2.stores.store := by
  obtain ⟨repo, -, ⟨x, hlogin⟩ | ⟨owner, hlogin⟩⟩ :=
    login_issues hhasher g hrepo username password
  · rw [hlogin]
    exact .refl _
  · rw [hlogin]
    exact lasts_issue (w := { w with stores := ⟨w.stores.store, repo⟩ }) hg hq owner

end Engine

/-! ## Step by step -/

variable {τ : Type}

namespace ServiceMoment

def Presents (m : ServiceMoment τ) (d : SecretDigest) : Prop :=
  ∃ secret expected, secret.digest = d ∧ (m.call = .call (.rotate secret expected) ∨
    ∃ r, m.call = .request r ∧ r.Refreshes secret expected)

/-- The step lets the secrets of this digest be. -/
structure LetsBe (m : ServiceMoment τ) (c : TokenConfig) (d : SecretDigest) : Prop where
  unrevoked : ¬ m.Revokes d
  untraded : ¬ m.Trades d
  /-- The record of a secret is moved before the access token is signed. If its expiry cannot be
  told, the secret is gone although nothing is traded for it. -/
  dated : m.Presents d → (m.before.now.later? c.access.ttl).isSome = true

end ServiceMoment

section Run

variable [SteadySource τ] {hasher : PasswordHasher τ Backends} {g : TokenEngine τ Backends}
  {c : TokenConfig} {access : AccessCodec} {w : World τ Backends} {d : SecretDigest}

open RefreshBackend (Lasts)

theorem lasts_serve (hg : g.Made c (.plain access) Backends.refreshStore)
    (hacc : access.ttl = c.access.ttl) (hhasher : hasher.Reliable) (h : Serving hasher w)
    (r : Http.Request) :
    Lasts c.refreshTtl d
      ((ServiceStep.request r).on ⟨Backends.credentialRepo, hasher, g⟩ w |>.LetsBe c d)
      w.stores.store
      (Http.serve (.ofService ⟨Backends.credentialRepo, hasher, g⟩) r w).2.stores.store := by
  have hserved := Http.served (.ofService ⟨Backends.credentialRepo, hasher, g⟩) r w
  generalize Http.serve (.ofService ⟨Backends.credentialRepo, hasher, g⟩) r w = result at hserved ⊢
  cases hserved with
  | refused => exact .refl _
  | signup username password =>
    obtain ⟨-, hstore, -⟩ := signup_leaves (g := g) hhasher.toApart w username password
    simp only [Http.AuthActions.ofService, hstore]
    exact .refl _
  | login username password => exact lasts_login hg h.quiet hhasher.toApart h.repo username password
  | refresh secret expected hr =>
    simp only [Http.AuthActions.ofService, AuthService.refresh_eq]
    refine lasts_rotate hg h.quiet secret expected fun hlets hd => ⟨?_, fun t ht => ?_⟩
    · rw [hacc]
      exact hlets.dated ⟨secret, expected, hd, .inr ⟨r, rfl, hr⟩⟩
    · refine hlets.untraded ⟨secret, expected, hd, .inr ⟨r, _, rfl, hr, rfl, ?_⟩⟩
      rw [Http.serve_refresh _ _ hr]
      simp only [Http.AuthActions.ofService, AuthService.refresh_eq, ht]
      rfl
  | revoke secret hr =>
    simp only [Http.AuthActions.ofService, AuthService.revoke_eq]
    exact lasts_revoke hg h.quiet secret fun hlets hd =>
      hlets.unrevoked ⟨secret, hd, .inr ⟨r, rfl, hr⟩⟩
  | whoami token =>
    simp only [Http.AuthActions.ofService, AuthService.verifyAccess_eq,
      TokenEngine.validateAccess_beside hg]
    exact .refl _

theorem lasts_apply (hg : g.Made c (.plain access) Backends.refreshStore)
    (hacc : access.ttl = c.access.ttl) (hhasher : hasher.Reliable) (h : Serving hasher w)
    (step : ServiceStep τ) :
    Lasts c.refreshTtl d ((step.on ⟨Backends.credentialRepo, hasher, g⟩ w).LetsBe c d)
      w.stores.store (step.apply ⟨Backends.credentialRepo, hasher, g⟩ w).2.stores.store := by
  cases step with
  | call call =>
    cases call with
    | issue owner => exact lasts_issue hg h.quiet owner
    | validateRefresh secret => exact lasts_validateRefresh hg h.quiet secret
    | rotate secret expected =>
      refine lasts_rotate hg h.quiet secret expected fun hlets hd => ⟨?_, fun t ht => ?_⟩
      · rw [hacc]
        exact hlets.dated ⟨secret, expected, hd, .inl rfl⟩
      · refine hlets.untraded ⟨secret, expected, hd, .inl ⟨rfl, t, ?_⟩⟩
        simp only [ServiceStep.on, ServiceStep.apply, TokenCall.apply, ht]
        rfl
    | revoke secret =>
      exact lasts_revoke hg h.quiet secret fun hlets hd => hlets.unrevoked ⟨secret, hd, .inl rfl⟩
  | validateAccess token =>
    simp only [ServiceStep.apply, TokenEngine.validateAccess_beside hg]
    exact .refl _
  | request r => exact lasts_serve hg hacc hhasher h r
  | wait ms => exact RefreshBackend.lasts_advance h.quiet (.ofMillis ms)
  | setClock now => exact .refl _
  | reseed e => exact .refl _

namespace AuthService

variable {steps : List (ServiceStep τ)} (hg : g.Made c (.plain access) Backends.refreshStore)
  (hacc : access.ttl = c.access.ttl) (hhasher : hasher.Reliable) (hw : Serving hasher w)
  (hsteps : ∀ s ∈ steps, s.inCalendar = true)
include hg hacc hhasher hw hsteps

/-- The store stays where it is, and its clock never goes back. -/
theorem clock_afterSteps {j k : Nat} (hjk : j ≤ k) :
    let a : AuthService τ Backends := ⟨Backends.credentialRepo, hasher, g⟩
    let before := (a.afterSteps w steps j).stores.store
    let after := (a.afterSteps w steps k).stores.store
    after.place = before.place ∧ before.clock ≤ after.clock := by
  intro a before after
  refine Run.after_inv (P := fun v : World τ Backends =>
    v.stores.store.place = before.place ∧ before.clock ≤ v.stores.store.clock) hjk
    ⟨rfl, Nat.le_refl _⟩ fun i m _ _ hm ⟨hplace, hclock⟩ => ?_
  have hserving : Serving hasher m.before :=
    (Run.of_getElem? hm).1 ▸ serving_afterSteps hg hhasher hw hsteps i
  have hlasts := lasts_apply (d := ⟨""⟩) hg hacc hhasher hserving m.call
  exact ⟨hlasts.place.trans hplace, hclock.trans hlasts.clock⟩

/-- By induction on the number of steps. The deadline has not come at the end, so it has not come at
any step before. -/
theorem held_afterSteps {x : Holding} {deadline k : Nat} (hx : w.stores.store.held d = some x)
    (hdeadline : x.deadline = some deadline) :
    let a : AuthService τ Backends := ⟨Backends.credentialRepo, hasher, g⟩
    (∀ j (m : ServiceMoment τ), j < k → (a.history w steps)[j]? = some m → m.LetsBe c d) →
    (a.afterSteps w steps k).stores.store.canDate c.refreshTtl = true →
    (a.afterSteps w steps k).stores.store.clock < deadline →
    (a.afterSteps w steps k).stores.store.held d = some x := by
  intro a hlets hdate hlt
  refine Run.after_inv (P := fun v : World τ Backends => v.stores.store.held d = some x)
    (Nat.zero_le k) (by simpa using hx) fun j m _ hj hm hheld => ?_
  obtain ⟨hbefore, -, hanswer, -⟩ := Run.of_getElem? hm
  have hserving : Serving hasher m.before := hbefore ▸ serving_afterSteps hg hhasher hw hsteps j
  have hon : m = m.call.on a m.before := by rw [ServiceStep.on, ← hanswer]
  have hlasts := lasts_apply (d := d) hg hacc hhasher hserving m.call
  obtain ⟨hplace, hle⟩ := clock_afterSteps hg hacc hhasher hw hsteps (Nat.le_of_lt hj)
  obtain ⟨-, hnext⟩ := clock_afterSteps hg hacc hhasher hw hsteps hj
  refine hlasts.held (hon ▸ hlets j m hj hm) ?_ x deadline hheld hdeadline ?_
  · rw [hbefore]
    exact RefreshBackend.canDate_of_clock_le hplace hle hdate
  · rw [afterSteps, Run.after_succ hm] at hnext
    exact Nat.lt_of_le_of_lt hnext hlt

end AuthService

end Run
end Gatehouse
