import Gatehouse.Proofs.Server.Serving

/-!
# Gatehouse.Proofs.Server.Traced

The refresh records of a running service, traced to the steps that granted them. Each record that
is there was granted by a step whose answer handed out its secret, lives from that step on, and was
neither revoked nor traded by a step since (`traced_afterSteps`). So what clients have been told of
a secret decides whether its record can still be there.
-/

namespace Gatehouse

variable {τ : Type}

abbrev ServiceMoment (τ : Type) := Moment (World τ Backends) (ServiceStep τ) ServiceAnswer

namespace ServiceMoment

def Grants (m : ServiceMoment τ) (d : SecretDigest) (o : OwnerId) : Prop :=
  (∃ t, m.answer = .token (.ok (.tokens t)) ∧ t.refreshToken.digest = d ∧ t.owner = o) ∨
    ∃ reply, m.answer = .reply reply ∧ reply.Hands d o

def Revokes (m : ServiceMoment τ) (d : SecretDigest) : Prop :=
  ∃ secret, secret.digest = d ∧
    (m.call = .call (.revoke secret) ∨ ∃ r, m.call = .request r ∧ r.Revokes secret)

def Trades (m : ServiceMoment τ) (d : SecretDigest) : Prop :=
  ∃ secret expected, secret.digest = d ∧
    ((m.call = .call (.rotate secret expected) ∧ ∃ t, m.answer = .token (.ok (.tokens t))) ∨
      ∃ r reply, m.call = .request r ∧ r.Refreshes secret expected ∧ m.answer = .reply reply ∧
        reply.status = 200)

def lifetimeEnd (m : ServiceMoment τ) (ttl : Span) : Nat :=
  m.before.stores.store.clock + m.before.stores.store.lifetime ttl

end ServiceMoment

def ServiceStep.on [ByteSource τ] (a : AuthService τ Backends) (step : ServiceStep τ)
    (w : World τ Backends) : ServiceMoment τ :=
  ⟨w, step, (step.apply a w).1⟩

section Run

variable [SteadySource τ] {hasher : PasswordHasher τ Backends} {g : TokenEngine τ Backends}
  {c : TokenConfig} {access : AccessCodec} {w : World τ Backends}

theorem yields_apply (hg : g.Made c (.plain access) Backends.refreshStore)
    (hhasher : hasher.Reliable) (h : Serving hasher w) {step : ServiceStep τ}
    (hstep : step.inCalendar = true) :
    Yields hasher c.refreshTtl w (step.apply ⟨Backends.credentialRepo, hasher, g⟩ w).2
      (step.on ⟨Backends.credentialRepo, hasher, g⟩ w).Grants := by
  have hgrants {a : Except TokenError IssuedTokens} {d : SecretDigest} {o : OwnerId}
      (hd : Handed a d o) : ∃ t, (ServiceAnswer.token (a.map TokenAnswer.tokens)) =
        .token (.ok (.tokens t)) ∧ t.refreshToken.digest = d ∧ t.owner = o := by
    obtain ⟨t, rfl, hd, ho⟩ := hd
    exact ⟨t, rfl, hd, ho⟩
  cases step with
  | call call =>
    cases call with
    | issue owner => exact (yields_issue hg h owner).mono fun _ _ hd => .inl (hgrants hd)
    | validateRefresh secret => exact yields_validateRefresh hg h secret
    | rotate secret expected =>
      exact (yields_rotate hg h secret expected).mono fun _ _ hd => .inl (hgrants hd)
    | revoke secret => exact yields_revoke hg h secret
  | validateAccess token =>
    simp only [ServiceStep.apply, TokenEngine.validateAccess_beside hg]
    exact .of_stores h rfl rfl h.repo.stays
  | request r =>
    exact (yields_serve hg hhasher h r).mono fun _ _ hd => .inr ⟨_, rfl, hd⟩
  | wait ms =>
    obtain ⟨hplace, hquiet, -, -, hheld⟩ := RefreshBackend.advance_spec h.quiet (.ofMillis ms)
    refine ⟨h.inCalendar, hquiet, hplace, h.repo.stays, fun d x hx => .inl ?_⟩
    change (w.stores.store.advance (.ofMillis ms)).held d = some x at hx
    rw [hheld] at hx
    exact (Option.filter_eq_some_iff.mp hx).1
  | setClock now => exact ⟨hstep, h.quiet, rfl, h.repo.stays, fun _ _ => .inl⟩
  | reseed e => exact ⟨h.inCalendar, h.quiet, rfl, h.repo.stays, fun _ _ => .inl⟩

theorem held_of_spends (hg : g.Made c (.plain access) Backends.refreshStore)
    (h : Serving hasher w) {step : ServiceStep τ} {d : SecretDigest}
    (hd : (step.on ⟨Backends.credentialRepo, hasher, g⟩ w).Revokes d ∨
      (step.on ⟨Backends.credentialRepo, hasher, g⟩ w).Trades d) :
    (step.apply ⟨Backends.credentialRepo, hasher, g⟩ w).2.stores.store.held d = none := by
  rcases hd with ⟨secret, rfl, hcall | ⟨r, hcall, hr⟩⟩ |
    ⟨secret, expected, rfl, ⟨hcall, t, ht⟩ | ⟨r, reply, hcall, hr, hreply, hstatus⟩⟩
  · obtain rfl : step = .call (.revoke secret) := hcall
    exact held_of_revoke hg h.quiet secret
  · obtain rfl : step = .request r := hcall
    simp only [ServiceStep.apply, Http.serve_revoke _ _ hr, Http.AuthActions.ofService,
      AuthService.revoke_eq]
    exact held_of_revoke hg h.quiet secret
  · obtain rfl : step = .call (.rotate secret expected) := hcall
    have hok : ∃ t, (g.rotate secret expected w).1 = .ok t := by
      simp only [ServiceStep.on, ServiceStep.apply, TokenCall.apply] at ht
      cases hrotate : (g.rotate secret expected w).1 with
      | ok t => exact ⟨t, rfl⟩
      | error x =>
        rw [hrotate] at ht
        cases ht
    obtain ⟨t, hok⟩ := hok
    exact held_of_rotate_ok hg h.quiet hok
  · obtain rfl : step = .request r := hcall
    have hok : ∃ t, (g.rotate secret expected w).1 = .ok t := by
      simp only [ServiceStep.on, ServiceStep.apply, Http.serve_refresh _ _ hr,
        Http.AuthActions.ofService, AuthService.refresh_eq, ServiceAnswer.reply.injEq] at hreply
      cases hrotate : (g.rotate secret expected w).1 with
      | ok t => exact ⟨t, rfl⟩
      | error x =>
        rw [hrotate] at hreply
        exact absurd (hreply ▸ hstatus) (Http.ApiCode.status_ne _)
    obtain ⟨t, hok⟩ := hok
    simp only [ServiceStep.apply, Http.serve_refresh _ _ hr, Http.AuthActions.ofService,
      AuthService.refresh_eq]
    exact held_of_rotate_ok hg h.quiet hok

/-- A record that is there after `k` steps: a step granted it, its lifetime runs from that step, and
no step since has spent it. -/
structure TracedTo (h : List (ServiceMoment τ)) (ttl : Span) (k : Nat) (d : SecretDigest)
    (x : Holding) (o : OwnerId) (i : Nat) (m : ServiceMoment τ) : Prop where
  before : i < k
  moment : h[i]? = some m
  grants : m.Grants d o
  owner : x.IsOf o
  deadline : x.deadline = some (m.lifetimeEnd ttl)
  unspent : ∀ j n, i < j → j < k → h[j]? = some n → ¬ n.Revokes d ∧ ¬ n.Trades d

namespace AuthService

variable {steps : List (ServiceStep τ)} (hg : g.Made c (.plain access) Backends.refreshStore)
  (hhasher : hasher.Reliable) (hw : Serving hasher w)
  (hsteps : ∀ s ∈ steps, s.inCalendar = true)
include hg hhasher hw hsteps

theorem serving_afterSteps (k : Nat) :
    Serving hasher (afterSteps ⟨Backends.credentialRepo, hasher, g⟩ w steps k) := by
  refine Run.after_inv (Nat.zero_le k) (by simpa using hw) fun i m _ _ hm hbefore => ?_
  exact (yields_apply hg hhasher hbefore (hsteps _ (Run.of_getElem? hm).2.1)).serving

/-- By induction on the number of steps: a step keeps a record that was there, if it does not spend
it, or grants it. -/
theorem traced_afterSteps (hempty : ∀ d, w.stores.store.held d = none) (k : Nat) :
    let a : AuthService τ Backends := ⟨Backends.credentialRepo, hasher, g⟩
    ∀ d x, (a.afterSteps w steps k).stores.store.held d = some x →
      ∃ o i m, TracedTo (a.history w steps) c.refreshTtl k d x o i m := by
  intro a
  induction k with
  | zero =>
    intro d x hx
    rw [afterSteps, Run.after_zero, hempty] at hx
    cases hx
  | succ k ih =>
    intro d x hx
    cases hm : (a.history w steps)[k]? with
    | none =>
      rw [afterSteps, Run.after_succ_of_none hm] at hx
      obtain ⟨o, i, m, ht⟩ := ih d x hx
      refine ⟨o, i, m, ⟨by have := ht.before; omega, ht.moment, ht.grants, ht.owner, ht.deadline,
        fun j n hij hj hn => ?_⟩⟩
      rcases Nat.lt_succ_iff_lt_or_eq.mp hj with hj | rfl
      · exact ht.unspent j n hij hj hn
      · cases hm.symm.trans hn
    | some m =>
      obtain ⟨hbefore, hcall, hanswer, -⟩ := Run.of_getElem? hm
      have hserving : Serving hasher m.before := by
        rw [hbefore]
        exact serving_afterSteps hg hhasher hw hsteps k
      have hon : m = m.call.on a m.before := by
        rw [ServiceStep.on, ← hanswer]
      rw [afterSteps, Run.after_succ hm] at hx
      rcases (yields_apply hg hhasher hserving (hsteps _ hcall)).held d x hx with
        hheld | ⟨o, hgrants, hknown, rfl⟩
      · rw [hbefore] at hheld
        obtain ⟨o, i, n, ht⟩ := ih d x hheld
        refine ⟨o, i, n, ⟨by have := ht.before; omega, ht.moment, ht.grants, ht.owner, ht.deadline,
          fun j l hij hj hl => ?_⟩⟩
        rcases Nat.lt_succ_iff_lt_or_eq.mp hj with hj | rfl
        · exact ht.unspent j l hij hj hl
        · cases hm.symm.trans hl
          rw [← not_or]
          intro hspends
          rw [hon] at hspends
          rw [held_of_spends hg hserving hspends] at hx
          cases hx
      · rw [← hon] at hgrants
        have hnamed : o.isEmpty = false := by
          rcases hknown with hnamed | ⟨e, y, hy, howner⟩
          · exact hnamed
          · -- an owner who has a record has a name, since that record was granted too
            rw [hbefore] at hy
            obtain ⟨o', _, _, ht⟩ := ih e y hy
            rw [← Except.ok.inj (ht.owner.owner.symm.trans howner)]
            exact ht.owner.named
        have howner : (m.before.stores.store.filing ⟨o, m.before.now⟩ c.refreshTtl).IsOf o :=
          ⟨hnamed, RefreshBackend.owner_filing ..,
            RefreshBackend.record_filing _ c.refreshTtl hnamed hserving.inCalendar⟩
        exact ⟨o, k, m, ⟨Nat.lt_succ_self k, hm, hgrants, howner,
          RefreshBackend.deadline_filing .., fun j l hij hj _ => by omega⟩⟩

end AuthService

end Run
end Gatehouse
