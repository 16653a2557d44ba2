import Gatehouse.Proofs.Run
import Gatehouse.Proofs.Token.Engine

/-!
# Gatehouse.Proofs.Token.Secrets

What a refresh secret is good for, told by the calls of a run alone: a secret is good from the call
that grants it until a call spends it, and for its lifetime at most (`Good`). The records of the
store are traced to the calls that made them (`Traced`), each call keeps that, and so the engine
answers as the run says (`secrets_meaning`).
-/

namespace Gatehouse

/-- A step of a run: a call, or a clock or the source of random bytes that moves. -/
inductive TokenStep (τ : Type) where
  | call (c : TokenCall)
  | wait (span : Span)
  | setClock (now : Instant)
  | reseed (e : τ)

def TokenStep.apply {τ : Type} [ByteSource τ] (g : TokenEngine τ RefreshBackend) :
    TokenStep τ → World τ RefreshBackend → Except TokenError TokenAnswer × World τ RefreshBackend
  | call c, w => c.apply g w
  | wait span, w => (.ok .done, { w with stores := w.stores.advance span })
  | setClock now, w => (.ok .done, { w with now := now })
  | reseed e, w => (.ok .done, { w with entropy := e })

abbrev TokenMoment (τ : Type) :=
  Moment (World τ RefreshBackend) (TokenStep τ) (Except TokenError TokenAnswer)

namespace TokenMoment

variable {τ : Type}

def Grants (m : TokenMoment τ) (d : SecretDigest) (o : OwnerId) : Prop :=
  ∃ t, m.answer = .ok (.tokens t) ∧ t.refreshToken.digest = d ∧ t.owner = o

def Spends (m : TokenMoment τ) (d : SecretDigest) : Prop :=
  (∃ secret, m.call = .call (.revoke secret) ∧ secret.digest = d) ∨
    ∃ secret expected t, m.call = .call (.rotate secret expected) ∧ secret.digest = d ∧
      m.answer = .ok (.tokens t)

def clock (m : TokenMoment τ) : Nat := m.before.stores.clock

theorem grants_iff {m : TokenMoment τ} {t : IssuedTokens} (h : m.answer = .ok (.tokens t))
    {d : SecretDigest} {o : OwnerId} :
    m.Grants d o ↔ t.refreshToken.digest = d ∧ t.owner = o := by
  constructor
  · rintro ⟨t', ht', hd, ho⟩
    cases h.symm.trans ht'
    exact ⟨hd, ho⟩
  · exact fun ⟨hd, ho⟩ => ⟨t, h, hd, ho⟩

theorem not_grants {m : TokenMoment τ} (h : ∀ t, m.answer ≠ .ok (.tokens t)) (d : SecretDigest)
    (o : OwnerId) : ¬ m.Grants d o :=
  fun ⟨t, ht, _⟩ => h t ht

theorem Grants.unique {m : TokenMoment τ} {d : SecretDigest} {o o' : OwnerId} (h : m.Grants d o)
    (h' : m.Grants d o') : o = o' := by
  obtain ⟨t, ht, -, rfl⟩ := h
  obtain ⟨t', ht', -, rfl⟩ := h'
  cases ht.symm.trans ht'
  rfl

end TokenMoment

namespace TokenEngine

variable {τ : Type}

def Unspent (h : List (TokenMoment τ)) (d : SecretDigest) (i j : Nat) : Prop :=
  ∀ k m, i < k → k < j → h[k]? = some m → ¬ m.Spends d

theorem Unspent.succ {h : List (TokenMoment τ)} {d : SecretDigest} {i j : Nat}
    (hu : Unspent h d i j) (hj : ∀ m, h[j]? = some m → ¬ m.Spends d) : Unspent h d i (j + 1) := by
  intro k m hik hkj hk
  rcases Nat.lt_succ_iff_lt_or_eq.mp hkj with hlt | rfl
  · exact hu k m hik hlt hk
  · exact hj m hk

theorem Unspent.of_succ {h : List (TokenMoment τ)} {d : SecretDigest} {i j : Nat}
    (hu : Unspent h d i (j + 1)) : Unspent h d i j :=
  fun k m hik hkj => hu k m hik (Nat.lt_succ_of_lt hkj)

/-- At place `j` the digest is that of a secret that was handed out to `o`, that no step has spent
since, and whose lifetime is not over when the clock shows `now`. -/
def Good (h : List (TokenMoment τ)) (ttl : Span) (d : SecretDigest) (o : OwnerId) (j now : Nat) :
    Prop :=
  ∃ i m, i < j ∧ h[i]? = some m ∧ m.Grants d o ∧ Unspent h d i j ∧
    now < m.clock + m.before.stores.lifetime ttl

section History

variable [ByteSource τ]

def history (g : TokenEngine τ RefreshBackend) (w : World τ RefreshBackend)
    (steps : List (TokenStep τ)) : List (TokenMoment τ) :=
  Run.moments (TokenStep.apply g) steps w

def afterSteps (g : TokenEngine τ RefreshBackend) (w : World τ RefreshBackend)
    (steps : List (TokenStep τ)) (k : Nat) : World τ RefreshBackend :=
  Run.after (TokenStep.apply g) steps w k

/-- The digest of the secret that the step draws: an issue draws one unless its owner is empty, and
a rotation if the old secret is good and its owner is accepted. -/
def drawn? (g : TokenEngine τ RefreshBackend) (m : TokenMoment τ) : Option SecretDigest :=
  match m.call with
  | .call (.issue owner) => if owner.isEmpty then none else some (g.nextSecret m.before).digest
  | .call (.rotate secret expected) =>
    match (g.validateRefresh secret m.before).1 with
    | .error _ => none
    | .ok owner =>
      if expected.any fun e => e ≠ owner then none else some (g.nextSecret m.before).digest
  | _ => none

inductive Effect (g : TokenEngine τ RefreshBackend) (c : TokenConfig) (m : TokenMoment τ)
    (b : RefreshBackend) (d : SecretDigest) : Prop where
  | granted {o : OwnerId} {x : Holding} (hgrants : m.Grants d o) (hdrawn : g.drawn? m = some d)
      (hs : ¬ m.Spends d) (hx : b.held d = some x) (howner : x.IsOf o)
      (hdeadline : x.deadline = some (m.clock + m.before.stores.lifetime c.refreshTtl))
  | spent (hs : m.Spends d) (hgrants : ∀ o, ¬ m.Grants d o) (hx : b.held d = none)
  | kept (hs : ¬ m.Spends d) (hgrants : ∀ o, ¬ m.Grants d o)
      (hx : b.held d = (m.before.stores.held d).filter fun x => x.deadline.all (b.clock < ·))

def on (g : TokenEngine τ RefreshBackend) (st : TokenStep τ) (w : World τ RefreshBackend) :
    TokenMoment τ :=
  ⟨w, st, (st.apply g w).1⟩

end History

variable [SteadySource τ]

/-! ## One step -/

/-- A world in which an engine does what it is asked: no request is interfered with, every expiry
can be told, and every record has an owner. -/
structure Ready (c : TokenConfig) (w : World τ RefreshBackend) : Prop where
  quiet : w.stores.Quiet
  steady : Steady c w
  owned : ∀ d x, w.stores.held d = some x → ∃ o, x.IsOf o

section Step

variable {g : TokenEngine τ RefreshBackend} {c : TokenConfig} {access : AccessCodec}
  {w : World τ RefreshBackend} {d : SecretDigest}

theorem held_of_shows {b b' : RefreshBackend} (h : b.Shows b' b.held) (d : SecretDigest) :
    b'.held d = (b.held d).filter fun x => x.deadline.all (b'.clock < ·) := by
  rw [h.held, h.clock, RefreshBackend.filter_held]

theorem isOf_filing (hw : Ready c w) {owner : OwnerId} (howner : owner.isEmpty = false) :
    (w.stores.filing ⟨owner, w.now⟩ c.refreshTtl).IsOf owner :=
  RefreshBackend.isOf_filing w.stores c.refreshTtl howner hw.steady.inCalendar

theorem Effect.of_shows {st : TokenStep τ} {a : Except TokenError TokenAnswer}
    {w' : World τ RefreshBackend} (hcall : st.apply g w = (a, w')) (ha : ∀ t, a ≠ .ok (.tokens t))
    (hs : ¬ (on g st w).Spends d) (hshows : w.stores.Shows w'.stores w.stores.held) :
    Effect g c (on g st w) (st.apply g w).2.stores d := by
  refine .kept hs (fun o => TokenMoment.not_grants ?_ d o) ?_
  · simpa only [on, hcall] using ha
  · rw [hcall]
    exact held_of_shows hshows d

theorem effect_issue (hg : g.Made c (.plain access) .backend) (hacc : access.ttl = c.access.ttl)
    (hw : Ready c w) {owner : OwnerId}
    (hfree : ∀ e, g.drawn? (on g (.call (.issue owner)) w) = some e → w.stores.held e = none) :
    Effect g c (on g (.call (.issue owner)) w)
      ((TokenStep.call (.issue owner)).apply g w).2.stores d := by
  have hs : ¬ (on g (.call (.issue owner)) w).Spends d := by
    rintro (⟨_, h, -⟩ | ⟨_, _, _, h, -⟩) <;> cases h
  cases howner : owner.isEmpty with
  | true =>
    have hcall : (TokenStep.call (.issue owner)).apply g w =
        (.error (.generation .emptyOwner), w) := by
      simp only [TokenStep.apply, TokenCall.apply, issue_empty howner]
      rfl
    exact .of_shows hcall (fun _ h => nomatch h) hs (RefreshBackend.Shows.refl hw.quiet)
  | false =>
    have hdrawn : g.drawn? (on g (.call (.issue owner)) w) = some (g.nextSecret w).digest := by
      simp [drawn?, on, howner]
    obtain ⟨t, w', hissue, hpair, hleaves⟩ := issue_spec hg hw.quiet hw.steady.able hacc howner
      (hfree _ hdrawn)
    have hcall : (TokenStep.call (.issue owner)).apply g w = (.ok (.tokens t), w') := by
      simp only [TokenStep.apply, TokenCall.apply, hissue]
      rfl
    have hgrants {o : OwnerId} : (on g (.call (.issue owner)) w).Grants d o ↔
        t.refreshToken.digest = d ∧ t.owner = o :=
      TokenMoment.grants_iff (congrArg Prod.fst hcall)
    rw [hpair.secret, hpair.owner] at hgrants
    rw [hcall]
    by_cases hd : d = (g.nextSecret w).digest
    · subst hd
      refine .granted (hgrants.mpr ⟨rfl, rfl⟩) hdrawn hs ?_ (isOf_filing hw howner)
        (RefreshBackend.deadline_filing ..)
      rw [hleaves.stores.held, Function.update_self]
    · refine .kept hs (fun o h => hd (hgrants.mp h).1.symm) ?_
      rw [hleaves.stores.held, Function.update_of_ne hd, hleaves.stores.clock]
      exact (RefreshBackend.filter_held _ d).symm

theorem effect_validateRefresh (hg : g.Made c (.plain access) .backend) (hw : Ready c w)
    (secret : RefreshSecret) :
    Effect g c (on g (.call (.validateRefresh secret)) w)
      ((TokenStep.call (.validateRefresh secret)).apply g w).2.stores d := by
  have hs : ¬ (on g (.call (.validateRefresh secret)) w).Spends d := by
    rintro (⟨_, h, -⟩ | ⟨_, _, _, h, -⟩) <;> cases h
  refine .of_shows rfl (fun t h => ?_) hs (validateRefresh_spec hg hw.quiet secret).2.stores
  revert h
  cases (g.validateRefresh secret w).1 <;> exact fun h => nomatch h

theorem effect_revoke (hg : g.Made c (.plain access) .backend) (hw : Ready c w)
    (secret : RefreshSecret) :
    Effect g c (on g (.call (.revoke secret)) w)
      ((TokenStep.call (.revoke secret)).apply g w).2.stores d := by
  obtain ⟨hanswer, hleaves⟩ := revoke_spec hg hw.quiet secret
  have hgrants (o : OwnerId) : ¬ (on g (.call (.revoke secret)) w).Grants d o := by
    refine TokenMoment.not_grants (fun t h => ?_) d o
    simp only [on, TokenStep.apply, TokenCall.apply, hanswer] at h
    cases h
  have hheld : ((TokenStep.call (.revoke secret)).apply g w).2.stores.held d =
      Function.update w.stores.held secret.digest none d := congrFun hleaves.stores.held d
  by_cases hd : d = secret.digest
  · subst hd
    exact .spent (.inl ⟨secret, rfl, rfl⟩) hgrants (hheld.trans (Function.update_self ..))
  · refine .kept ?_ hgrants ?_
    · rintro (⟨_, h, hs⟩ | ⟨_, _, _, h, -⟩) <;> cases h
      exact hd hs.symm
    · rw [hheld, Function.update_of_ne hd]
      rw [show ((TokenStep.call (.revoke secret)).apply g w).2.stores.clock = _ from
        hleaves.stores.clock]
      exact (RefreshBackend.filter_held _ d).symm

/-- A rotation is given a secret that is held and whose owner it accepts, or it is refused. -/
theorem rotate_cases (hw : Ready c w) (secret : RefreshSecret) (expected : Option OwnerId) :
    (∃ x owner, w.stores.held secret.digest = some x ∧ x.IsOf owner ∧ Accepts expected owner) ∨
      (w.stores.held secret.digest = none ∨ ∃ x owner,
        w.stores.held secret.digest = some x ∧ x.IsOf owner ∧ ¬ Accepts expected owner) := by
  cases hx : w.stores.held secret.digest with
  | none => exact .inr (.inl rfl)
  | some x =>
    obtain ⟨owner, howner⟩ := hw.owned _ x hx
    by_cases hexp : Accepts expected owner
    · exact .inl ⟨x, owner, rfl, howner, hexp⟩
    · exact .inr (.inr ⟨x, owner, rfl, howner, hexp⟩)

theorem drawn?_rotate (hg : g.Made c (.plain access) .backend) (hw : Ready c w)
    {secret : RefreshSecret} {expected : Option OwnerId} {x : Holding} {owner : OwnerId}
    (hx : w.stores.held secret.digest = some x) (howner : x.IsOf owner)
    (hexp : Accepts expected owner) :
    g.drawn? (on g (.call (.rotate secret expected)) w) = some (g.nextSecret w).digest := by
  have hexp := any_ne_eq_false_iff.mpr hexp
  simp only [drawn?, on, validateRefresh_held hg hw.quiet hx howner, hexp]
  exact if_neg Bool.false_ne_true

theorem effect_rotate (hg : g.Made c (.plain access) .backend) (hacc : access.ttl = c.access.ttl)
    (hw : Ready c w) {secret : RefreshSecret} {expected : Option OwnerId}
    (hfree : ∀ e, g.drawn? (on g (.call (.rotate secret expected)) w) = some e →
      w.stores.held e = none) :
    Effect g c (on g (.call (.rotate secret expected)) w)
      ((TokenStep.call (.rotate secret expected)).apply g w).2.stores d := by
  rcases rotate_cases hw secret expected with ⟨x, owner, hx, howner, hexp⟩ | hrefused
  · have hdrawn := drawn?_rotate hg hw hx howner hexp
    obtain ⟨t, w', hrotate, hpair, hleaves⟩ := rotate_spec hg hw.quiet hw.steady.able hacc hx howner
      hexp (hfree _ hdrawn)
    have hcall : (TokenStep.call (.rotate secret expected)).apply g w = (.ok (.tokens t), w') := by
      simp only [TokenStep.apply, TokenCall.apply, hrotate]
      rfl
    have hanswer : (on g (.call (.rotate secret expected)) w).answer = .ok (.tokens t) :=
      congrArg Prod.fst hcall
    have hgrants {o : OwnerId} : (on g (.call (.rotate secret expected)) w).Grants d o ↔
        t.refreshToken.digest = d ∧ t.owner = o := TokenMoment.grants_iff hanswer
    rw [hpair.secret, hpair.owner] at hgrants
    have hnew : (g.nextSecret w).digest ≠ secret.digest := fun h => by
      rw [← h, hfree _ hdrawn] at hx
      cases hx
    have hspends : (on g (.call (.rotate secret expected)) w).Spends d ↔ d = secret.digest := by
      constructor
      · rintro (⟨_, h, -⟩ | ⟨_, _, _, h, hd, -⟩) <;> cases h
        exact hd.symm
      · rintro rfl
        exact .inr ⟨secret, expected, t, rfl, rfl, hanswer⟩
    rw [hcall]
    by_cases hold : d = secret.digest
    · refine .spent (hspends.mpr hold) (fun o h => hnew ((hgrants.mp h).1.trans hold)) ?_
      rw [hleaves.stores.held, hold, Function.update_self]
    · by_cases hd : d = (g.nextSecret w).digest
      · subst hd
        refine .granted (hgrants.mpr ⟨rfl, rfl⟩) hdrawn (mt hspends.mp hold) ?_
          (isOf_filing hw howner.named) (RefreshBackend.deadline_filing ..)
        rw [hleaves.stores.held, Function.update_of_ne hold, Function.update_self]
      · refine .kept (mt hspends.mp hold) (fun o h => hd (hgrants.mp h).1.symm) ?_
        rw [hleaves.stores.held, Function.update_of_ne hold, Function.update_of_ne hd,
          hleaves.stores.clock]
        exact (RefreshBackend.filter_held _ d).symm
  · obtain ⟨w', hrotate, hleaves⟩ := rotate_refused hg hw.quiet hrefused
    have hcall : (TokenStep.call (.rotate secret expected)).apply g w = (.error .invalid, w') := by
      simp only [TokenStep.apply, TokenCall.apply, hrotate]
      rfl
    refine .of_shows hcall (fun _ h => nomatch h) ?_ hleaves.stores
    rintro (⟨_, h, -⟩ | ⟨_, _, _, _, -, h⟩)
    · cases h
    · simp only [on, hcall] at h
      cases h

theorem effect (hg : g.Made c (.plain access) .backend) (hacc : access.ttl = c.access.ttl)
    (hw : Ready c w) {st : TokenStep τ}
    (hfree : ∀ e, g.drawn? (on g st w) = some e → w.stores.held e = none) (d : SecretDigest) :
    Effect g c (on g st w) (st.apply g w).2.stores d := by
  cases st with
  | call call =>
    cases call with
    | issue owner => exact effect_issue hg hacc hw hfree
    | validateRefresh secret => exact effect_validateRefresh hg hw secret
    | rotate secret expected => exact effect_rotate hg hacc hw hfree
    | revoke secret => exact effect_revoke hg hw secret
  | wait span =>
    obtain ⟨-, -, hclock, -, hheld⟩ := RefreshBackend.advance_spec hw.quiet span
    refine .kept (fun h => ?_) (TokenMoment.not_grants (fun t h => ?_) d) ?_
    · rcases h with ⟨_, h, -⟩ | ⟨_, _, _, h, -⟩ <;> cases h
    · simp [on, TokenStep.apply] at h
    · change (w.stores.advance span).held d = _
      rw [hheld, show (TokenStep.apply g (.wait span) w).2.stores.clock = _ from hclock]
      rfl
  | setClock now =>
    refine .of_shows rfl (fun t h => nomatch h) (fun h => ?_) (RefreshBackend.Shows.refl hw.quiet)
    rcases h with ⟨_, h, -⟩ | ⟨_, _, _, h, -⟩ <;> cases h
  | reseed e =>
    refine .of_shows rfl (fun t h => nomatch h) (fun h => ?_) (RefreshBackend.Shows.refl hw.quiet)
    rcases h with ⟨_, h, -⟩ | ⟨_, _, _, h, -⟩ <;> cases h

theorem shows_call (hg : g.Made c (.plain access) .backend) (hacc : access.ttl = c.access.ttl)
    (hw : Ready c w) {call : TokenCall}
    (hfree : ∀ e, g.drawn? (on g (.call call) w) = some e → w.stores.held e = none) :
    ∃ records, w.stores.Shows (call.apply g w).2.stores records := by
  cases call with
  | issue owner =>
    cases howner : owner.isEmpty with
    | true =>
      simp only [TokenCall.apply, issue_empty howner]
      exact ⟨_, RefreshBackend.Shows.refl hw.quiet⟩
    | false =>
      obtain ⟨t, w', hissue, -, hleaves⟩ := issue_spec hg hw.quiet hw.steady.able hacc howner
        (hfree _ (by simp [drawn?, on, howner]))
      simp only [TokenCall.apply, hissue]
      exact ⟨_, hleaves.stores⟩
  | validateRefresh secret => exact ⟨_, (validateRefresh_spec hg hw.quiet secret).2.stores⟩
  | rotate secret expected =>
    rcases rotate_cases hw secret expected with ⟨x, owner, hx, howner, hexp⟩ | hrefused
    · obtain ⟨t, w', hrotate, -, hleaves⟩ := rotate_spec hg hw.quiet hw.steady.able hacc hx howner
        hexp (hfree _ (drawn?_rotate hg hw hx howner hexp))
      simp only [TokenCall.apply, hrotate]
      exact ⟨_, hleaves.stores⟩
    · obtain ⟨w', hrotate, hleaves⟩ := rotate_refused hg hw.quiet hrefused
      simp only [TokenCall.apply, hrotate]
      exact ⟨_, hleaves.stores⟩
  | revoke secret => exact ⟨_, (revoke_spec hg hw.quiet secret).2.stores⟩

theorem quiet_and_clock_le (hg : g.Made c (.plain access) .backend)
    (hacc : access.ttl = c.access.ttl) (hw : Ready c w) {st : TokenStep τ}
    (hfree : ∀ e, g.drawn? (on g st w) = some e → w.stores.held e = none) :
    (st.apply g w).2.stores.Quiet ∧ w.stores.clock ≤ (st.apply g w).2.stores.clock := by
  cases st with
  | call call =>
    obtain ⟨records, hshows⟩ := shows_call hg hacc hw hfree
    exact ⟨hshows.quiet, Nat.le_of_eq hshows.clock.symm⟩
  | wait span =>
    obtain ⟨-, hquiet, hclock, -⟩ := RefreshBackend.advance_spec hw.quiet span
    exact ⟨hquiet, hclock ▸ Nat.le_add_right ..⟩
  | setClock now => exact ⟨hw.quiet, Nat.le_refl _⟩
  | reseed e => exact ⟨hw.quiet, Nat.le_refl _⟩

end Step

/-! ## All steps -/

/-- Every record of the store is that of a secret which is good at place `j`, and every such secret
has its record. -/
structure Traced (g : TokenEngine τ RefreshBackend) (c : TokenConfig) (h : List (TokenMoment τ))
    (j : Nat) (b : RefreshBackend) : Prop where
  quiet : b.Quiet
  sound : ∀ {d : SecretDigest} {x : Holding}, b.held d = some x →
    ∃ i m o, i < j ∧ h[i]? = some m ∧ m.Grants d o ∧ Unspent h d i j ∧ g.drawn? m = some d ∧
      x.IsOf o ∧ x.deadline = some (m.clock + m.before.stores.lifetime c.refreshTtl)
  complete : ∀ {d : SecretDigest} {o : OwnerId} {i : Nat} {m : TokenMoment τ}, i < j →
    h[i]? = some m → m.Grants d o → Unspent h d i j →
    b.clock < m.clock + m.before.stores.lifetime c.refreshTtl →
    ∃ x, b.held d = some x ∧ x.IsOf o ∧
      x.deadline = some (m.clock + m.before.stores.lifetime c.refreshTtl)

theorem drawn?_ne {g : TokenEngine τ RefreshBackend} {h : List (TokenMoment τ)}
    (hd : (h.filterMap g.drawn?).Nodup) {i j : Nat} (hij : i < j) {m n : TokenMoment τ}
    (hm : h[i]? = some m) (hn : h[j]? = some n) {d : SecretDigest} (hdm : g.drawn? m = some d) :
    g.drawn? n ≠ some d := by
  intro hdn
  obtain ⟨hi, rfl⟩ := List.getElem?_eq_some_iff.mp hm
  obtain ⟨hj, rfl⟩ := List.getElem?_eq_some_iff.mp hn
  have hpair := List.pairwise_filterMap.mp hd
  exact List.pairwise_iff_getElem.mp hpair i j hi hj hij d hdm d hdn rfl

section Run

variable {g : TokenEngine τ RefreshBackend} {c : TokenConfig} {access : AccessCodec}
  {h : List (TokenMoment τ)} {m : TokenMoment τ} {j : Nat}

theorem Traced.ready {w : World τ RefreshBackend} (ht : Traced g c h j w.stores) (hs : Steady c w) :
    Ready c w :=
  ⟨ht.quiet, hs, fun _ _ hx => by
    obtain ⟨-, -, o, -, -, -, -, -, howner, -⟩ := ht.sound hx
    exact ⟨o, howner⟩⟩

theorem Traced.free (ht : Traced g c h j m.before.stores) (hd : (h.filterMap g.drawn?).Nodup)
    (hm : h[j]? = some m) {d : SecretDigest} (hdrawn : g.drawn? m = some d) :
    m.before.stores.held d = none := by
  cases hx : m.before.stores.held d with
  | none => rfl
  | some x =>
    obtain ⟨i, n, -, hij, hn, -, -, hdn, -⟩ := ht.sound hx
    exact absurd hdrawn (drawn?_ne hd hij hn hm hdn)

theorem Traced.step {b : RefreshBackend} (ht : Traced g c h j m.before.stores)
    (hm : h[j]? = some m) (hquiet : b.Quiet) (hclock : m.before.stores.clock ≤ b.clock)
    (hfree : ∀ e, g.drawn? m = some e → m.before.stores.held e = none)
    (heffect : ∀ d, Effect g c m b d) : Traced g c h (j + 1) b where
  quiet := hquiet
  sound := by
    intro d x hx
    cases heffect d with
    | @granted o y hgrants hdrawn hs hy howner hdeadline =>
      obtain rfl : y = x := Option.some.inj (hy.symm.trans hx)
      exact ⟨j, m, o, Nat.lt_succ_self j, hm, hgrants, fun k _ hjk hkj => by omega, hdrawn, howner,
        hdeadline⟩
    | spent hs hgrants hnone => simp [hnone] at hx
    | kept hs hgrants hkept =>
      rw [hkept] at hx
      obtain ⟨hbefore, -⟩ := Option.filter_eq_some_iff.mp hx
      obtain ⟨i, n, o, hij, hn, hng, hu, hdn, howner, hdeadline⟩ := ht.sound hbefore
      refine ⟨i, n, o, Nat.lt_succ_of_lt hij, hn, hng, hu.succ fun m' hm' => ?_, hdn, howner,
        hdeadline⟩
      obtain rfl : m = m' := Option.some.inj (hm.symm.trans hm')
      exact hs
  complete := by
    intro d o i n hij hn hng hu hlive
    rcases Nat.lt_succ_iff_lt_or_eq.mp hij with hlt | rfl
    · obtain ⟨x, hx, howner, hdeadline⟩ := ht.complete hlt hn hng hu.of_succ (by omega)
      cases heffect d with
      | granted _ hdrawn => simp [hfree d hdrawn] at hx
      | spent hs => exact absurd hs (hu j m hlt (Nat.lt_succ_self j) hm)
      | kept _ _ hkept =>
        refine ⟨x, ?_, howner, hdeadline⟩
        rw [hkept, hx]
        simp [Option.filter, hdeadline, hlive]
    · obtain rfl : m = n := Option.some.inj (hm.symm.trans hn)
      cases heffect d with
      | @granted o' x hgrants _ _ hx howner hdeadline =>
        obtain rfl := hgrants.unique hng
        exact ⟨x, hx, howner, hdeadline⟩
      | spent _ hgrants => exact absurd hng (hgrants o)
      | kept _ hgrants => exact absurd hng (hgrants o)

end Run

section Meaning

variable {g : TokenEngine τ RefreshBackend} {c : TokenConfig} {access : AccessCodec}
  {w : World τ RefreshBackend} {steps : List (TokenStep τ)} {n : TokenMoment τ} {j : Nat}

theorem of_history (hn : (g.history w steps)[j]? = some n) :
    n = on g n.call n.before ∧ n.before = g.afterSteps w steps j ∧
      g.afterSteps w steps (j + 1) = (n.call.apply g n.before).2 := by
  obtain ⟨hbefore, -, hanswer, -⟩ := Run.of_getElem? hn
  refine ⟨?_, hbefore, Run.after_succ hn⟩
  rw [on, ← hanswer]

theorem traced (hg : g.Made c (.plain access) .backend) (hacc : access.ttl = c.access.ttl)
    (hw : w.stores.Fresh) (hs : ∀ m ∈ g.history w steps, Steady c m.before)
    (hd : ((g.history w steps).filterMap g.drawn?).Nodup) (j : Nat) :
    Traced g c (g.history w steps) j (g.afterSteps w steps j).stores := by
  induction j with
  | zero =>
    have hzero : g.afterSteps w steps 0 = w := Run.after_zero steps w
    rw [hzero]
    exact ⟨hw.quiet, fun hx => by simp [hw.empty] at hx, fun hij => by omega⟩
  | succ j ih =>
    cases hm : (g.history w steps)[j]? with
    | none =>
      have hsame : g.afterSteps w steps (j + 1) = g.afterSteps w steps j :=
        Run.after_succ_of_none hm
      rw [hsame]
      refine ⟨ih.quiet, fun hx => ?_, fun {d o i m} hij hmi hgm hu hlive => ?_⟩
      · obtain ⟨i, m, o, hij, hmi, hgm, hu, hrest⟩ := ih.sound hx
        exact ⟨i, m, o, Nat.lt_succ_of_lt hij, hmi, hgm, hu.succ fun m' hm' => by simp [hm] at hm',
          hrest⟩
      · rcases Nat.lt_succ_iff_lt_or_eq.mp hij with hlt | rfl
        · exact ih.complete hlt hmi hgm hu.of_succ hlive
        · simp [hm] at hmi
    | some m =>
      obtain ⟨hon, hbefore, hafter⟩ := of_history hm
      rw [← hbefore] at ih
      have hready : Ready c m.before := ih.ready (hs m (List.mem_of_getElem? hm))
      have hfree : ∀ e, g.drawn? m = some e → m.before.stores.held e = none := fun e he =>
        ih.free hd hm he
      rw [hafter]
      obtain ⟨hquiet, hclock⟩ := quiet_and_clock_le hg hacc hready (hon ▸ hfree)
      refine ih.step hm hquiet hclock hfree fun d => ?_
      have heffect := effect hg hacc hready (hon ▸ hfree) d
      rwa [← hon] at heffect

theorem Traced.good_iff {h : List (TokenMoment τ)} {b : RefreshBackend} (ht : Traced g c h j b)
    {d : SecretDigest} {o : OwnerId} :
    Good h c.refreshTtl d o j b.clock ↔ ∃ x, b.held d = some x ∧ x.IsOf o := by
  constructor
  · rintro ⟨i, m, hij, hm, hgrants, hu, hlive⟩
    obtain ⟨x, hx, howner, -⟩ := ht.complete hij hm hgrants hu hlive
    exact ⟨x, hx, howner⟩
  · rintro ⟨x, hx, howner⟩
    obtain ⟨i, m, o', hij, hm, hgrants, hu, -, howner', hdeadline⟩ := ht.sound hx
    obtain rfl := howner.unique howner'
    exact ⟨i, m, hij, hm, hgrants, hu, RefreshBackend.clock_lt_deadline hx hdeadline⟩

/-- What is known of a step in a run, when the records before it are traced. -/
structure Placed (g : TokenEngine τ RefreshBackend) (c : TokenConfig) (h : List (TokenMoment τ))
    (j : Nat) (n : TokenMoment τ) : Prop where
  answer : n.answer = (n.call.apply g n.before).1
  traced : Traced g c h j n.before.stores
  ready : Ready c n.before
  free : ∀ e, g.drawn? n = some e → n.before.stores.held e = none

theorem placed (hg : g.Made c (.plain access) .backend) (hacc : access.ttl = c.access.ttl)
    (hw : w.stores.Fresh) (hs : ∀ m ∈ g.history w steps, Steady c m.before)
    (hd : ((g.history w steps).filterMap g.drawn?).Nodup) (hn : (g.history w steps)[j]? = some n) :
    Placed g c (g.history w steps) j n := by
  have ht := traced hg hacc hw hs hd j
  obtain ⟨hon, hbefore, -⟩ := of_history hn
  rw [← hbefore] at ht
  exact ⟨congrArg Moment.answer hon, ht, ht.ready (hs n (List.mem_of_getElem? hn)),
    fun e he => ht.free hd hn he⟩

section Answers

variable {h : List (TokenMoment τ)} {secret : RefreshSecret}

theorem Placed.validateRefresh (hn : Placed g c h j n) (hg : g.Made c (.plain access) .backend)
    (hcall : n.call = .call (.validateRefresh secret)) :
    (∀ o, n.answer = .ok (.owner o) ↔ Good h c.refreshTtl secret.digest o j n.clock) ∧
      ((∀ o, ¬ Good h c.refreshTtl secret.digest o j n.clock) → n.answer = .error .invalid) := by
  have hanswer := hn.answer
  rw [hcall] at hanswer
  simp only [TokenStep.apply, TokenCall.apply] at hanswer
  simp only [TokenMoment.clock, hn.traced.good_iff]
  cases hx : n.before.stores.held secret.digest with
  | none =>
    rw [validateRefresh_absent hg hn.ready.quiet hx] at hanswer
    rw [hanswer]
    exact ⟨fun o => ⟨fun h => (nomatch h), fun ⟨x, h, _⟩ => nomatch h⟩, fun _ => rfl⟩
  | some x =>
    obtain ⟨owner, howner⟩ := hn.ready.owned _ _ hx
    rw [validateRefresh_held hg hn.ready.quiet hx howner] at hanswer
    rw [hanswer]
    refine ⟨fun o => ⟨fun h => ?_, ?_⟩, fun h => absurd ⟨x, rfl, howner⟩ (h owner)⟩
    · cases h
      exact ⟨x, rfl, howner⟩
    · rintro ⟨y, hy, ho⟩
      cases hy
      rw [ho.unique howner]
      rfl

theorem Placed.rotate {expected : Option OwnerId} (hn : Placed g c h j n)
    (hg : g.Made c (.plain access) .backend) (hacc : access.ttl = c.access.ttl)
    (hcall : n.call = .call (.rotate secret expected)) :
    (∀ o, Good h c.refreshTtl secret.digest o j n.clock → Accepts expected o →
      ∃ t, n.answer = .ok (.tokens t) ∧ g.PairFor c n.before o t) ∧
      ((∀ o, Good h c.refreshTtl secret.digest o j n.clock → ¬ Accepts expected o) →
        n.answer = .error .invalid) := by
  have hanswer := hn.answer
  have hon : n = on g (.call (.rotate secret expected)) n.before := by
    rw [on, ← hcall, ← hanswer]
  rw [hcall] at hanswer
  simp only [TokenStep.apply, TokenCall.apply] at hanswer
  simp only [TokenMoment.clock, hn.traced.good_iff]
  refine ⟨fun o ⟨x, hx, howner⟩ hexp => ?_, fun hrefused => ?_⟩
  · have hdrawn := drawn?_rotate hg hn.ready hx howner hexp
    rw [← hon] at hdrawn
    obtain ⟨t, w', hrotate, hpair, -⟩ := rotate_spec hg hn.ready.quiet hn.ready.steady.able hacc hx
      howner hexp (hn.free _ hdrawn)
    exact ⟨t, by rw [hanswer, hrotate]; rfl, hpair⟩
  · have hno : n.before.stores.held secret.digest = none ∨ ∃ x owner,
        n.before.stores.held secret.digest = some x ∧ x.IsOf owner ∧ ¬ Accepts expected owner := by
      rcases rotate_cases hn.ready secret expected with ⟨x, owner, hx, howner, hexp⟩ | hno
      · exact absurd hexp (hrefused owner ⟨x, hx, howner⟩)
      · exact hno
    obtain ⟨w', hrotate, -⟩ := rotate_refused hg hn.ready.quiet hno
    rw [hanswer, hrotate]
    rfl

theorem Placed.issue {owner : OwnerId} (hn : Placed g c h j n)
    (hg : g.Made c (.plain access) .backend) (hacc : access.ttl = c.access.ttl)
    (hcall : n.call = .call (.issue owner)) :
    (owner.isEmpty = false → ∃ t, n.answer = .ok (.tokens t) ∧ g.PairFor c n.before owner t) ∧
      (owner.isEmpty = true → n.answer = .error (.generation .emptyOwner)) := by
  have hanswer := hn.answer
  rw [hcall] at hanswer
  simp only [TokenStep.apply, TokenCall.apply] at hanswer
  refine ⟨fun howner => ?_, fun howner => ?_⟩
  · have hdrawn : g.drawn? n = some (g.nextSecret n.before).digest := by
      simp [drawn?, hcall, howner]
    obtain ⟨t, w', hissue, hpair, -⟩ := issue_spec hg hn.ready.quiet hn.ready.steady.able hacc
      howner (hn.free _ hdrawn)
    exact ⟨t, by rw [hanswer, hissue]; rfl, hpair⟩
  · rw [hanswer, issue_empty howner]
    rfl

theorem Placed.revoke (hn : Placed g c h j n) (hg : g.Made c (.plain access) .backend)
    (hcall : n.call = .call (.revoke secret)) : n.answer = .ok .done := by
  rw [hn.answer, hcall]
  simp only [TokenStep.apply, TokenCall.apply, (revoke_spec hg hn.ready.quiet secret).1]
  rfl

end Answers

/-- What the answers of a run mean. -/
structure Meaning (g : TokenEngine τ RefreshBackend) (c : TokenConfig) (h : List (TokenMoment τ)) :
    Prop where
  /-- A secret is found valid if it is good, and that for the owner to whom it was handed out. -/
  validateRefresh : ∀ {j : Nat} {n : TokenMoment τ} {secret : RefreshSecret}, h[j]? = some n →
    n.call = .call (.validateRefresh secret) →
    (∀ o, n.answer = .ok (.owner o) ↔ Good h c.refreshTtl secret.digest o j n.clock) ∧
      ((∀ o, ¬ Good h c.refreshTtl secret.digest o j n.clock) → n.answer = .error .invalid)
  /-- A good secret is traded for a new pair of its owner, if that owner is accepted. -/
  rotate : ∀ {j : Nat} {n : TokenMoment τ} {secret : RefreshSecret} {expected : Option OwnerId},
    h[j]? = some n → n.call = .call (.rotate secret expected) →
    (∀ o, Good h c.refreshTtl secret.digest o j n.clock → Accepts expected o →
      ∃ t, n.answer = .ok (.tokens t) ∧ g.PairFor c n.before o t) ∧
      ((∀ o, Good h c.refreshTtl secret.digest o j n.clock → ¬ Accepts expected o) →
        n.answer = .error .invalid)
  issue : ∀ {j : Nat} {n : TokenMoment τ} {owner : OwnerId}, h[j]? = some n →
    n.call = .call (.issue owner) →
    (owner.isEmpty = false → ∃ t, n.answer = .ok (.tokens t) ∧ g.PairFor c n.before owner t) ∧
      (owner.isEmpty = true → n.answer = .error (.generation .emptyOwner))
  revoke : ∀ {j : Nat} {n : TokenMoment τ} {secret : RefreshSecret}, h[j]? = some n →
    n.call = .call (.revoke secret) → n.answer = .ok .done

/-- A run of an engine on a store that begins empty, while the digests of the secrets that are drawn
differ. -/
theorem secrets_meaning {now : Instant} (hnow : Instant.inCalendar now.secs = true)
    (hg : ofConfig c .backend now id = .ok g) (hw : w.stores.Fresh)
    (hs : ∀ m ∈ g.history w steps, Steady c m.before)
    (hd : ((g.history w steps).filterMap g.drawn?).Nodup) : Meaning g c (g.history w steps) := by
  obtain ⟨access, hacc, hmade⟩ := made_of_ofConfig hnow hg
  exact {
    validateRefresh := fun hn hcall => (placed hmade hacc hw hs hd hn).validateRefresh hmade hcall
    rotate := fun hn hcall => (placed hmade hacc hw hs hd hn).rotate hmade hacc hcall
    issue := fun hn hcall => (placed hmade hacc hw hs hd hn).issue hmade hacc hcall
    revoke := fun hn hcall => (placed hmade hacc hw hs hd hn).revoke hmade hcall }

/-- A secret is issued and revoked, and another is issued after it. -/
theorem secrets_meaning_revoked :
    Meaning
      ⟨.plain ⟨"gatehouse", "api", .ofSecs 300, List.replicate 32 7⟩, .backend, .ofSecs 60, 32⟩
      ⟨⟨"gatehouse", "api", .ofSecs 300, List.replicate 32 7⟩, .ofSecs 60, 32⟩
      (history
        ⟨.plain ⟨"gatehouse", "api", .ofSecs 300, List.replicate 32 7⟩, .backend, .ofSecs 60, 32⟩
        ⟨⟨0⟩, Entropy.mk 1 false, .memory (.startingAt 0)⟩
        [.call (.issue ⟨"ada"⟩), .wait (.ofSecs 59),
          .call (.revoke ⟨"bIKlYsuAjRDWMr6JyFE-v2ySnzTd-oyfY8mWDvbjSKM"⟩),
          .call (.issue ⟨"ada"⟩)]) :=
  secrets_meaning (show Instant.inCalendar (Instant.mk 0).secs = true by decide) rfl
    (RefreshBackend.fresh_memory 0) (by decide +kernel) (by decide +kernel)

end Meaning

end TokenEngine
end Gatehouse
