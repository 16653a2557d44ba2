import Gatehouse.Proofs.Http.Bearer
import Gatehouse.Proofs.Server.InMemory
import Gatehouse.Proofs.Server.Lasting

/-!
# Gatehouse.Proofs.Server.Lifetimes

The lifetimes that a client is told with its tokens are kept. Four roundings are at work: what is
told is in whole seconds, the claims of an access token are, the clock of the one that verifies is
read in whole seconds, and a server counts the lifetime of a record in whole seconds, of which it
takes at least one. None of them cuts a lifetime that was told (`lifetimes_kept`): not the second
that a token expires in (`whoami_of_granted`), nor a record whose lifetime is a part of a second
(`clock_lt_end`).

No record may be of an owner without a name. On a server there is none that can be read
(`named_remote`), and in memory a service that has none does not come to have one
(`named_afterSteps`).

If time passes while the tokens are made, a client is told what is left of the lifetimes then
(`lifetimes_kept_late`).
-/

namespace Gatehouse

/-! ## Roundings -/

theorem Instant.of_later? {now t : Instant} {ttl : Span} (h : now.later? ttl = some t) :
    t.nanos = now.nanos + ttl.nanos ∧ inCalendar t.secs = true := by
  simp only [later?] at h
  split at h
  · rename_i hcal
    cases h
    exact ⟨rfl, hcal⟩
  · cases h

theorem Instant.secs_le_secs {t u : Instant} (h : t.nanos ≤ u.nanos) : t.secs ≤ u.secs := by
  simp only [secs, Span.second]
  omega

theorem Span.secs_mul_second_le (ttl : Span) : ttl.secs * second ≤ ttl.nanos :=
  Nat.div_mul_le_self _ _

@[simp] theorem Instant.after_zero (now : Instant) : now.after ⟨0⟩ = now := by simp [after]

def Span.leftAfter (elapsed ttl : Span) : Span := ⟨ttl.nanos - elapsed.nanos⟩

@[simp] theorem Span.leftAfter_zero (ttl : Span) : leftAfter ⟨0⟩ ttl = ttl := rfl

theorem Http.secondsUntil_after {now t : Instant} {ttl : Span} (h : now.later? ttl = some t)
    (elapsed : Span) : secondsUntil (now.after elapsed) t = (elapsed.leftAfter ttl).secs := by
  have hspan : t.nanos - (now.after elapsed).nanos = (ttl.nanos : Int) - elapsed.nanos := by
    rw [(Instant.of_later? h).1]
    simp only [Instant.after]
    omega
  rw [secondsUntil, hspan, Span.secs, Span.leftAfter]
  rcases Nat.le_total elapsed.nanos ttl.nanos with hle | hle
  · rw [← Int.ofNat_sub hle, ← Int.ofNat_tdiv, Int.toNat_natCast]
  · -- The lifetime is over: the difference is negative, and is cut to nothing.
    have hneg : (ttl.nanos : Int) - elapsed.nanos = -((elapsed.nanos - ttl.nanos : Nat) : Int) := by
      omega
    rw [Nat.sub_eq_zero_of_le hle, Nat.zero_div, Int.toNat_eq_zero, hneg, Int.neg_tdiv,
      ← Int.ofNat_tdiv]
    exact Int.neg_nonpos_of_nonneg (Int.natCast_nonneg _)

theorem RefreshBackend.clock_lt_end (b : RefreshBackend) {ttl : Span} {clock : Nat}
    (h : clock * b.unit < b.clock * b.unit + ttl.secs * Span.second) :
    clock < b.clock + b.lifetime ttl := by
  have hlifetime : ttl.secs * Span.second ≤ b.lifetime ttl * b.unit := by
    cases b with
    | memory s => simpa [lifetime, unit, RefreshBackend.place] using ttl.secs_mul_second_le
    | remote p l =>
      simp only [lifetime, unit, RefreshBackend.place, Span.lifetimeSecs, Span.second]
      omega
  have hend : clock * b.unit < (b.clock + b.lifetime ttl) * b.unit := by
    rw [Nat.add_mul]
    omega
  exact Nat.lt_of_mul_lt_mul_right hend

/-! ## Owners of records -/

namespace RefreshBackend

/-- Every record that can be looked at is of an owner who has a name. -/
def Named (b : RefreshBackend) : Prop :=
  ∀ d x r, b.held d = some x → x.record = .ok r → r.owner.isEmpty = false

/-- On a server a record without an owner is none. -/
theorem named_remote (p : String) (l : KeyServer.Link) : (remote p l).Named := by
  intro d x r hx hr
  obtain ⟨e, -, rfl⟩ := Option.map_eq_some_iff.mp hx
  exact (RemoteStore.owner?_of_record hr).2

theorem Fresh.named {b : RefreshBackend} (h : b.Fresh) : b.Named := by
  intro d x r hx _
  rw [h.empty d] at hx
  cases hx

end RefreshBackend

section Named

variable {τ : Type} {hasher : PasswordHasher τ Backends} {w w' : World τ Backends} {ttl : Span}

theorem MemoryStore.named_of_knows {s : MemoryStore} (hstore : w.stores.store = .memory s)
    (h : w.stores.store.Named) {o : OwnerId} (ho : w.Knows o) : o.isEmpty = false := by
  rcases ho with hnamed | ⟨d, x, hx, howner⟩
  · exact hnamed
  · have hd := h d x
    rw [hstore] at hx hd
    obtain ⟨f, -, rfl⟩ := Option.map_eq_some_iff.mp hx
    obtain rfl : f.record.owner = o := Except.ok.inj howner
    exact hd f.record hx rfl

theorem Yields.named {grants : SecretDigest → OwnerId → Prop} (hy : Yields hasher ttl w w' grants)
    (h : w.stores.store.Named) : w'.stores.store.Named := by
  cases hstore : w.stores.store with
  | remote p l =>
    cases hstore' : w'.stores.store with
    | remote p' l' => exact RefreshBackend.named_remote p' l'
    | memory s' =>
      have hplace := hy.place
      rw [hstore, hstore'] at hplace
      cases hplace
  | memory s =>
    intro d x r hx hr
    rcases hy.held d x hx with hbefore | ⟨o, -, hknown, rfl⟩
    · exact h d x r hbefore hr
    · rw [hstore] at hr
      obtain rfl : (⟨o, w.now⟩ : RefreshRecord) = r := Except.ok.inj hr
      exact MemoryStore.named_of_knows hstore h hknown

theorem AuthService.named_afterSteps [SteadySource τ] {g : TokenEngine τ Backends} {c : TokenConfig}
    {access : AccessCodec} (hg : g.Made c (.plain access) Backends.refreshStore)
    (hhasher : hasher.Reliable) (hw : Serving hasher w) (h : w.stores.store.Named)
    {steps : List (ServiceStep τ)} (hsteps : ∀ s ∈ steps, s.inCalendar = true) (k : Nat) :
    (afterSteps ⟨Backends.credentialRepo, hasher, g⟩ w steps k).stores.store.Named := by
  refine Run.after_inv (P := fun v : World τ Backends => v.stores.store.Named) (Nat.zero_le k)
    (by simpa using h) fun i m _ _ hm hnamed => ?_
  obtain ⟨hbefore, hcall, -, -⟩ := Run.of_getElem? hm
  have hserving : Serving hasher m.before :=
    hbefore ▸ serving_afterSteps hg hhasher hw hsteps i
  exact (yields_apply hg hhasher hserving (hsteps _ hcall)).named hnamed

end Named

/-! ## Actions that take time -/

section Taking

variable {τ σ : Type}

def World.after (elapsed : Span) (w : World τ σ) : World τ σ :=
  { w with now := w.now.after elapsed }

/-- The same service on a clock that moves on while an action is under way. -/
def Http.AuthActions.taking (elapsed : Span) (a : AuthActions τ σ) : AuthActions τ σ where
  signup username password w :=
    let (r, w) := a.signup username password w
    (r, w.after elapsed)
  login username password w :=
    let (r, w) := a.login username password w
    (r, w.after elapsed)
  refresh secret expected w :=
    let (r, w) := a.refresh secret expected w
    (r, w.after elapsed)
  revoke secret w :=
    let (r, w) := a.revoke secret w
    (r, w.after elapsed)
  verifyAccess := a.verifyAccess

@[simp] theorem World.after_zero (w : World τ σ) : w.after ⟨0⟩ = w := by
  simp [after]

@[simp] theorem Http.AuthActions.taking_zero (a : AuthActions τ σ) :
    a.taking ⟨0⟩ = a := by
  simp [taking]

end Taking

variable {τ : Type} [SteadySource τ]

/-! ## What a request is granted -/

/-- The tokens are handed out in the world `w`, and `w'` holds the record of their secret. -/
structure Granted (g : TokenEngine τ Backends) (access : AccessCodec) (w w' : World τ Backends)
    (t : IssuedTokens) : Prop where
  handed : g.HandedOut access w t
  filed : (g.alone access).Filed w.alone w'.alone t
  named : t.owner.isEmpty = false

section Granted

variable {hasher : PasswordHasher τ Backends} {g : TokenEngine τ Backends} {c : TokenConfig}
  {access : AccessCodec} {w w' : World τ Backends} {t : IssuedTokens}
  (hg : g.Made c (.plain access) Backends.refreshStore)
include hg

theorem granted_of_issue (hq : w.stores.store.Quiet) {owner : OwnerId}
    (h : (g.issue owner w).1 = .ok t) : Granted g access w (g.issue owner w).2 t := by
  have hhanded := TokenEngine.handedOut_of_issue hg.codec h
  rw [TokenEngine.issue_beside hg] at h ⊢
  obtain ⟨hfiled, hnamed⟩ := TokenEngine.filed_of_issue (w := w.alone) hg.alone hq h
  exact ⟨hhanded, hfiled, hnamed⟩

theorem granted_of_rotate (hq : w.stores.store.Quiet) (h : w.stores.store.Named)
    {secret : RefreshSecret} {expected : Option OwnerId}
    (hok : (g.rotate secret expected w).1 = .ok t) :
    Granted g access w (g.rotate secret expected w).2 t := by
  have hhanded := TokenEngine.handedOut_of_rotate hg.codec hok
  rw [TokenEngine.rotate_beside hg] at hok ⊢
  obtain ⟨hfiled, x, r, hx, hr, howner⟩ :=
    TokenEngine.filed_of_rotate (w := w.alone) hg.alone hq hok
  exact ⟨hhanded, hfiled, howner ▸ h secret.digest x r hx hr⟩

theorem granted_of_login (hhasher : hasher.Apart) (hw : Serving hasher w)
    {username password : String} (hok :
      (AuthService.login ⟨Backends.credentialRepo, hasher, g⟩ username password w).1 = .ok t) :
    Granted g access w
      (AuthService.login ⟨Backends.credentialRepo, hasher, g⟩ username password w).2 t := by
  obtain ⟨repo, -, ⟨x, hlogin⟩ | ⟨owner, hlogin⟩⟩ :=
    login_issues hhasher g hw.repo username password
  · rw [hlogin] at hok
    cases hok
  · rw [hlogin] at hok ⊢
    have hissue : (g.issue owner { w with stores := ⟨w.stores.store, repo⟩ }).1 = .ok t := by
      cases hresult : (g.issue owner { w with stores := ⟨w.stores.store, repo⟩ }).1 with
      | error x =>
        rw [hresult] at hok
        cases hok
      | ok t' =>
        rw [hresult] at hok
        exact congrArg Except.ok (Except.ok.inj hok)
    -- The engine does not see that the accounts have been looked at.
    obtain ⟨hhanded, hfiled, hnamed⟩ := granted_of_issue
      (w := { w with stores := ⟨w.stores.store, repo⟩ }) hg hw.quiet hissue
    exact ⟨⟨hhanded.token, hhanded.accessEnd, hhanded.refreshEnd⟩, hfiled, hnamed⟩

end Granted

/-! ## What is told and what is kept -/

namespace Http

open TokenEngine (Able Accepts)

def leftAfter (elapsed : Span) (c : TokenConfig) : TokenConfig :=
  { c with
    access := { c.access with ttl := elapsed.leftAfter c.access.ttl }
    refreshTtl := elapsed.leftAfter c.refreshTtl }

@[simp] theorem leftAfter_zero (c : TokenConfig) : leftAfter ⟨0⟩ c = c := rfl

def toldData (c : TokenConfig) (token : String) (secret : RefreshSecret) (owner : OwnerId) : Json :=
  .object [("access_token", .text token), ("refresh_token", .text secret.text),
    ("access_expires_in", .ofInt c.access.ttl.secs),
    ("refresh_expires_in", .ofInt c.refreshTtl.secs), ("owner_id", .text owner.text)]

/-- The lifetimes are kept that a client is told with its tokens in the world `w`; `w₁` is the world
after it is told. -/
structure LifetimesKept (a : AuthService τ Backends) (c : TokenConfig) (w w₁ : World τ Backends)
    (token : String) (secret : RefreshSecret) (owner : OwnerId) : Prop where
  /-- In whatever world the clock shows one of the seconds, the last instant included. -/
  access : ∀ (r : Request) (v : World τ Backends), r.Bears token →
    w.now.nanos ≤ v.now.nanos →
    v.now.nanos ≤ w.now.nanos + (Span.ofSecs c.access.ttl.secs).nanos →
    serve (.ofService a) r v = (.ok (ownerData owner), v)
  /-- After any steps that let the secret be, while less than the seconds have passed on the clock
  of the store. -/
  refresh : ∀ (steps : List (ServiceStep τ)) (k : Nat), (∀ s ∈ steps, s.inCalendar = true) →
    (∀ j (m : ServiceMoment τ), j < k → (a.history w₁ steps)[j]? = some m →
      m.LetsBe c secret.digest) →
    let v := a.afterSteps w₁ steps k
    v.stores.store.clock * w.stores.store.unit <
      w.stores.store.clock * w.stores.store.unit + (Span.ofSecs c.refreshTtl.secs).nanos →
    Able c v.alone → v.stores.store.held (a.engine.nextSecret v).digest = none →
    ∀ (r : Request) (expected : Option OwnerId), r.Refreshes secret expected →
      Accepts expected owner →
      ∃ token' secret', (serve (.ofService a) r v).1 = .ok (toldData c token' secret' owner)

section Kept

variable {hasher : PasswordHasher τ Backends} {g : TokenEngine τ Backends} {c : TokenConfig}
  {access : AccessCodec} {w w₁ : World τ Backends} {t : IssuedTokens}

theorem tokensData_eq_toldData {now : Instant}
    (haccess : now.later? c.access.ttl = some t.accessExpiresAt)
    (hrefresh : now.later? c.refreshTtl = some t.refreshExpiresAt) (elapsed : Span) :
    tokensData (now.after elapsed) t =
      toldData (leftAfter elapsed c) t.accessToken t.refreshToken t.owner := by
  simp only [tokensData, toldData, secondsUntil_after haccess, secondsUntil_after hrefresh,
    leftAfter]

theorem serve_bears (hg : g.Made c (.plain access) Backends.refreshStore) {r : Request}
    {key : List UInt8} {payload : Json} (hr : r.Bears (AccessCodec.sealed key payload))
    (w : World τ Backends) {owner : OwnerId}
    (h : access.verify (AccessCodec.sealed key payload) w.now = .ok owner) :
    serve (.ofService ⟨Backends.credentialRepo, hasher, g⟩) r w = (.ok (ownerData owner), w) := by
  simp only [serve, hr.route, serveRoute, bearer_sealed hr, AuthActions.ofService,
    AuthService.verifyAccess_eq, TokenEngine.validateAccess_beside hg, h]
  rfl

/-- The claims of a token end in the second of its expiry. -/
theorem whoami_of_granted (hg : g.Made c (.plain access) Backends.refreshStore)
    (hacc : access.ttl = c.access.ttl) (hgranted : Granted g access w w₁ t)
    (hsince : 0 ≤ w.now.secs) {r : Request} (hr : r.Bears t.accessToken) {v : World τ Backends}
    (hbegun : w.now.nanos ≤ v.now.nanos) (hend : v.now.nanos ≤ w.now.nanos + c.access.ttl.nanos) :
    serve (.ofService ⟨Backends.credentialRepo, hasher, g⟩) r v =
      (.ok (ownerData t.owner), v) := by
  obtain ⟨⟨⟨jti, htoken⟩, haccess, -⟩, -, hnamed⟩ := hgranted
  obtain ⟨hexpires, hcal⟩ := Instant.of_later? haccess
  have hunexpired : v.now.nanos ≤ t.accessExpiresAt.nanos := by
    rw [hexpires, hacc]
    exact hend
  have howner : t.owner.text ≠ "" := by simpa [OwnerId.isEmpty] using hnamed
  rw [htoken] at hr
  exact serve_bears hg hr v (AccessCodec.verify_sealed access howner jti hsince hcal
    (Instant.secs_le_secs hbegun) (Instant.secs_le_secs hunexpired))

/-- The record lasts as long as is told, and then it is traded like any other. -/
theorem refresh_of_granted (hg : g.Made c (.plain access) Backends.refreshStore)
    (hacc : access.ttl = c.access.ttl) (hhasher : hasher.Reliable)
    (hgranted : Granted g access w w₁ t) (hnow : Instant.inCalendar w.now.secs = true)
    (hw₁ : Serving hasher w₁) {steps : List (ServiceStep τ)}
    (hsteps : ∀ s ∈ steps, s.inCalendar = true) (k : Nat) :
    let a : AuthService τ Backends := ⟨Backends.credentialRepo, hasher, g⟩
    let v := a.afterSteps w₁ steps k
    (∀ j (m : ServiceMoment τ), j < k → (a.history w₁ steps)[j]? = some m →
      m.LetsBe c t.refreshToken.digest) →
    v.stores.store.clock * w.stores.store.unit <
      w.stores.store.clock * w.stores.store.unit + (Span.ofSecs c.refreshTtl.secs).nanos →
    Able c v.alone → v.stores.store.held (g.nextSecret v).digest = none →
    ∀ {r : Request} {expected : Option OwnerId}, r.Refreshes t.refreshToken expected →
      Accepts expected t.owner →
      ∃ token' secret', (serve (.ofService a) r v).1 = .ok (toldData c token' secret' t.owner) := by
  intro a v hlets hclock hable hfree r expected hr hexp
  obtain ⟨-, hfiled, hnamed⟩ := hgranted
  have hend : v.stores.store.clock < w.stores.store.clock + w.stores.store.lifetime c.refreshTtl :=
    w.stores.store.clock_lt_end hclock
  have hdeadline : (w.stores.store.filing ⟨t.owner, w.now⟩ c.refreshTtl).deadline = _ :=
    RefreshBackend.deadline_filing ..
  have hfiling : w₁.stores.store.held t.refreshToken.digest =
      some (w.stores.store.filing ⟨t.owner, w.now⟩ c.refreshTtl) := by
    rw [← hg.ttl]
    exact hfiled.held
  have hheld := AuthService.held_afterSteps hg hacc hhasher hw₁ hsteps hfiling hdeadline hlets
    hable.dated hend
  have howner := w.stores.store.isOf_filing c.refreshTtl hnamed hnow
  have hquiet := (AuthService.serving_afterSteps hg hhasher hw₁ hsteps k).quiet
  obtain ⟨t', w', hcall, hpair, hleaves⟩ := TokenEngine.rotate_spec (w := v.alone) hg.alone hquiet
    hable hacc hheld howner hexp hfree
  have hrotate : g.rotate t.refreshToken expected v = World.beside v.stores.repo (.ok t', w') := by
    rw [TokenEngine.rotate_beside hg, hcall]
  refine ⟨t'.accessToken, t'.refreshToken, ?_⟩
  rw [serve_refresh _ _ hr]
  simp only [a, AuthActions.ofService, AuthService.refresh_eq, hrotate, World.beside]
  have htold := tokensData_eq_toldData hpair.accessEnd hpair.refreshEnd ⟨0⟩
  simp only [Instant.after_zero, leftAfter_zero] at htold
  rw [← hpair.owner, ← htold]
  exact congrArg (fun now => Reply.ok (tokensData now t')) hleaves.now

theorem granted_of_serve (hg : g.Made c (.plain access) Backends.refreshStore)
    (hacc : access.ttl = c.access.ttl) (hhasher : hasher.Reliable) (hw : Serving hasher w)
    (hnamed : w.stores.store.Named) {r : Request}
    (hr : (∃ username password, r.LogsIn username password) ∨
      ∃ secret expected, r.Refreshes secret expected) (elapsed : Span) :
    let a : AuthActions τ Backends := .ofService ⟨Backends.credentialRepo, hasher, g⟩
    let w' := (serve a r w).2
    let result := serve (a.taking elapsed) r w
    result.1.status = 200 → ∃ t, Granted g access w w' t ∧ result =
      (.ok (toldData (leftAfter elapsed c) t.accessToken t.refreshToken t.owner),
        w'.after elapsed) := by
  have htold {w' : World τ Backends} {t : IssuedTokens} (hgranted : Granted g access w w' t) :
      tokensData (w'.after elapsed).now t =
        toldData (leftAfter elapsed c) t.accessToken t.refreshToken t.owner := by
    obtain ⟨⟨-, haccess, hrefresh⟩, hfiled, -⟩ := hgranted
    rw [World.after, show w'.now = w.now from hfiled.now]
    exact tokensData_eq_toldData (hacc ▸ haccess) (hg.ttl ▸ hrefresh) elapsed
  intro a w' result hstatus
  rcases hr with ⟨username, password, hr⟩ | ⟨secret, expected, hr⟩
  · simp only [result, w', a, serve_login _ _ hr, AuthActions.taking, AuthActions.ofService]
      at hstatus ⊢
    cases hlogin :
        (AuthService.login ⟨Backends.credentialRepo, hasher, g⟩ username password w).1 with
    | error x =>
      rw [hlogin] at hstatus
      exact absurd hstatus (ApiCode.status_ne _)
    | ok t =>
      have hgranted := granted_of_login hg hhasher.toApart hw hlogin
      exact ⟨t, hgranted, Prod.ext (congrArg Reply.ok (htold hgranted)) rfl⟩
  · simp only [result, w', a, serve_refresh _ _ hr, AuthActions.taking, AuthActions.ofService,
      AuthService.refresh_eq] at hstatus ⊢
    cases hrotate : (g.rotate secret expected w).1 with
    | error x =>
      rw [hrotate] at hstatus
      exact absurd hstatus (ApiCode.status_ne _)
    | ok t =>
      have hgranted := granted_of_rotate hg hw.quiet hnamed hrotate
      exact ⟨t, hgranted, Prod.ext (congrArg Reply.ok (htold hgranted)) rfl⟩

theorem kept_of_granted (hg : g.Made c (.plain access) Backends.refreshStore)
    (hacc : access.ttl = c.access.ttl) (hhasher : hasher.Reliable) (hw : Serving hasher w)
    (hsince : 0 ≤ w.now.secs) (hw₁ : Serving hasher w₁) (hgranted : Granted g access w w₁ t) :
    LifetimesKept ⟨Backends.credentialRepo, hasher, g⟩ c w w₁ t.accessToken t.refreshToken
      t.owner := by
  constructor
  case access =>
    intro r v hr hbegun hend
    have htold : ((Span.ofSecs c.access.ttl.secs).nanos : Int) ≤ c.access.ttl.nanos :=
      Int.ofNat_le.mpr c.access.ttl.secs_mul_second_le
    exact whoami_of_granted hg hacc hgranted hsince hr hbegun (by omega)
  case refresh =>
    intro steps k hsteps hlets v hclock hable hfree r expected hr hexp
    exact refresh_of_granted hg hacc hhasher hgranted hw.inCalendar hw₁ hsteps k hlets hclock
      hable hfree hr hexp

/-- Whenever a login or a refresh succeeds, the lifetimes that it tells are the whole seconds of
those that are configured, and they are kept. -/
theorem lifetimes_kept {made : Instant} (hmade : Instant.inCalendar made.secs = true)
    (hg : TokenEngine.ofConfig c Backends.refreshStore made id = .ok g) (hhasher : hasher.Reliable)
    (hw : Serving hasher w) (hnamed : w.stores.store.Named) (hsince : 0 ≤ w.now.secs) {r : Request}
    (hr : (∃ username password, r.LogsIn username password) ∨
      ∃ secret expected, r.Refreshes secret expected) :
    let a : AuthService τ Backends := ⟨Backends.credentialRepo, hasher, g⟩
    let result := serve (.ofService a) r w
    result.1.status = 200 → ∃ token secret owner,
      result.1 = .ok (toldData c token secret owner) ∧
        LifetimesKept a c w result.2 token secret owner := by
  intro a result hstatus
  obtain ⟨access, hacc, hmade⟩ := TokenEngine.made_of_ofConfig hmade hg
  have hw₁ : Serving hasher result.2 := (yields_serve hmade hhasher hw r).serving
  have hserve := granted_of_serve hmade hacc hhasher hw hnamed hr ⟨0⟩
  simp only [AuthActions.taking_zero, leftAfter_zero, World.after_zero] at hserve
  obtain ⟨t, hgranted, hresult⟩ := hserve hstatus
  exact ⟨t.accessToken, t.refreshToken, t.owner, congrArg Prod.fst hresult,
    kept_of_granted hmade hacc hhasher hw hsince hw₁ hgranted⟩

/-- Somebody signs up and logs in, between two seconds of the clock, and both lifetimes end between
two seconds. -/
theorem lifetimes_kept_between_seconds :
    let c : TokenConfig := ⟨⟨"gatehouse", "api", .ofParts 300 500000000, List.replicate 32 7⟩,
      .ofParts 60 250000000, 32⟩
    let g : TokenEngine Entropy Backends :=
      ⟨.plain ⟨"gatehouse", "api", .ofParts 300 500000000, List.replicate 32 7⟩,
        Backends.refreshStore, .ofParts 60 250000000, 32⟩
    let a : AuthService Entropy Backends := ⟨Backends.credentialRepo, .plain, g⟩
    let body := Utf8.encode "\x7b\"username\":\"ada\",\"password\":\"open sesame\"\x7d"
    let start : World Entropy Backends :=
      ⟨.ofParts 100 600000000, { word := 1 }, .memory (.startingAt 5), .memory default⟩
    let w := a.afterSteps start
      [.request ⟨"POST", "/api/v1/signup", [("content-length", Utf8.encode "43")], body⟩] 1
    let result := serve (.ofService a)
      ⟨"POST", "/api/v1/login", [("content-length", Utf8.encode "43")], body⟩ w
    result.1.status = 200 ∧ ∃ token secret owner,
      result.1 = .ok (toldData c token secret owner) ∧
        LifetimesKept a c w result.2 token secret owner := by
  intro c g a body start w result
  have hg : TokenEngine.ofConfig ⟨⟨"gatehouse", "api", .ofParts 300 500000000, List.replicate 32 7⟩,
      .ofParts 60 250000000, 32⟩ Backends.refreshStore ⟨0⟩ id = .ok g := rfl
  obtain ⟨access, -, hmade⟩ := TokenEngine.made_of_ofConfig (by decide) hg
  have hsteps : ∀ s ∈ ([.request ⟨"POST", "/api/v1/signup",
      [("content-length", Utf8.encode "43")], body⟩] : List (ServiceStep Entropy)),
      s.inCalendar = true := by
    decide
  have hstart : InMemory .plain start :=
    .start .plain (show Instant.inCalendar (Instant.ofParts 100 600000000).secs = true by decide)
      (Entropy.mk 1 false) 5
  have hw : Serving .plain w := AuthService.serving_afterSteps hmade PasswordHasher.reliable_plain
    hstart.serving hsteps 1
  have hnamed : w.stores.store.Named := AuthService.named_afterSteps hmade
    PasswordHasher.reliable_plain hstart.serving (RefreshBackend.fresh_memory 5).named hsteps 1
  have hstatus : result.1.status = 200 := by decide +kernel
  have hr : Request.LogsIn ⟨"POST", "/api/v1/login", [("content-length", Utf8.encode "43")], body⟩
      "ada" "open sesame" := ⟨by decide +kernel, by decide +kernel⟩
  exact ⟨hstatus, lifetimes_kept (show Instant.inCalendar (Instant.mk 0).secs = true by decide) hg
    PasswordHasher.reliable_plain hw hnamed (by decide +kernel) (.inl ⟨_, _, hr⟩) hstatus⟩

/-- If time passes while the tokens are made, the reply tells the whole seconds that are left of the
lifetimes. Those that were told at once are kept all the same, and of the access token those also
that the reply tells, counted from the reply. -/
theorem lifetimes_kept_late {made : Instant} (hmade : Instant.inCalendar made.secs = true)
    (hg : TokenEngine.ofConfig c Backends.refreshStore made id = .ok g) (hhasher : hasher.Reliable)
    (hw : Serving hasher w) (hnamed : w.stores.store.Named) (hsince : 0 ≤ w.now.secs) {r : Request}
    (hr : (∃ username password, r.LogsIn username password) ∨
      ∃ secret expected, r.Refreshes secret expected) (elapsed : Span) :
    let a : AuthService τ Backends := ⟨Backends.credentialRepo, hasher, g⟩
    let w' := (serve (.ofService a) r w).2
    let result := serve ((AuthActions.ofService a).taking elapsed) r w
    result.1.status = 200 → ∃ token secret owner,
      result = (.ok (toldData (leftAfter elapsed c) token secret owner), w'.after elapsed) ∧
        LifetimesKept a c w w' token secret owner ∧
        (elapsed.nanos ≤ c.access.ttl.nanos → ∀ (r : Request) (v : World τ Backends),
          r.Bears token → w.now.nanos ≤ v.now.nanos →
          v.now.nanos ≤
            result.2.now.nanos + (Span.ofSecs (leftAfter elapsed c).access.ttl.secs).nanos →
          serve (.ofService a) r v = (.ok (ownerData owner), v)) := by
  intro a w' result hstatus
  obtain ⟨access, hacc, hmade⟩ := TokenEngine.made_of_ofConfig hmade hg
  have hw' : Serving hasher w' := (yields_serve hmade hhasher hw r).serving
  obtain ⟨t, hgranted, hresult⟩ :=
    granted_of_serve hmade hacc hhasher hw hnamed hr elapsed hstatus
  refine ⟨t.accessToken, t.refreshToken, t.owner, hresult,
    kept_of_granted hmade hacc hhasher hw hsince hw' hgranted, ?_⟩
  intro hle r v hr hbegun hend
  have hnow : result.2.now.nanos = w.now.nanos + elapsed.nanos := by
    rw [show result.2 = w'.after elapsed from congrArg Prod.snd hresult]
    exact congrArg (·.nanos + (elapsed.nanos : Int)) hgranted.filed.now
  have htold : (Span.ofSecs (leftAfter elapsed c).access.ttl.secs).nanos ≤
      c.access.ttl.nanos - elapsed.nanos := Span.secs_mul_second_le _
  exact whoami_of_granted hmade hacc hgranted hsince hr hbegun (by omega)

end Kept

end Http

end Gatehouse
