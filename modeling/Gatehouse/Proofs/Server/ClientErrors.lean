import Gatehouse.Proofs.Server.InMemory
import Gatehouse.Proofs.Server.Refused

/-!
# Gatehouse.Proofs.Server.ClientErrors

What a client can bring upon a service in memory. While random bytes can be drawn and every expiry
can be told, each action of the service is done or is refused for what the client gave, so a reply
is never an internal error, but for one slip: a request to `whoami` whose header has more than plain
characters is answered as if the service had failed (`internal_only_if_garbled`).
-/

namespace Gatehouse

theorem AccessCodec.error_of_verify {access : AccessCodec} {token : String} {now : Instant}
    (hsince : 0 ≤ now.secs) {x : TokenError} (h : access.verify token now = .error x) :
    x = .invalid ∨ x = .expired := by
  unfold verify at h
  split at h
  · exact .inl (Except.error.inj h).symm
  · unfold judge at h
    rw [if_neg (Int.not_lt.mpr hsince)] at h
    split_ifs at h
    · exact .inl (Except.error.inj h).symm
    · exact .inr (Except.error.inj h).symm
    · exact .inl (Except.error.inj h).symm
    · exact .inl (Except.error.inj h).symm

namespace TokenEngine

variable {τ : Type} [SteadySource τ] {c : TokenConfig} {access : AccessCodec}

/-- A rotation in memory gives tokens, or else it refuses the secret. -/
theorem rotate_in_memory {g : TokenEngine τ RefreshBackend} {w : World τ RefreshBackend}
    (hg : g.Made c (.plain access) .backend) (hacc : access.ttl = c.access.ttl)
    (hplace : w.stores.place = none) (hs : Steady c w)
    (hfree : w.stores.held (g.nextSecret w).digest = none) (secret : RefreshSecret)
    (expected : Option OwnerId) {x : TokenError} (h : (g.rotate secret expected w).1 = .error x) :
    x = .invalid := by
  have hq := RefreshBackend.quiet_of_place hplace
  cases hold : w.stores.held secret.digest with
  | none =>
    rw [rotate_absent hg hq expected hold] at h
    exact (Except.error.inj h).symm
  | some y =>
    -- a record in memory always has an owner, so the look at it does not fail
    obtain ⟨f, rfl⟩ : ∃ f, y = .filed f := by
      cases hb : w.stores with
      | remote p l => rw [hb] at hplace; cases hplace
      | memory s =>
        rw [hb] at hold
        obtain ⟨f, -, rfl⟩ := Option.map_eq_some_iff.mp hold
        exact ⟨f, rfl⟩
    obtain ⟨hanswer, hshows⟩ := RefreshBackend.get_spec hq secret.digest
    have hcall : g.store.get secret.digest w.stores =
        (.ok f.record, (afterLook secret w).stores) := by
      rw [hg.store]
      refine Prod.ext (hanswer.trans ?_) rfl
      rw [RefreshBackend.getAnswer, hold]
      rfl
    rw [rotate_eq_replace hcall] at h
    split_ifs at h with hexp
    · exact (Except.error.inj h).symm
    · have hs' : Able c (afterLook secret w) :=
        ⟨hs.entropy, hs.access, hs.refresh, (hshows.canDate c.refreshTtl).trans hs.dated⟩
      have hheld : (afterLook secret w).stores.held = w.stores.held := hshows.held
      have haccepts : Accepts expected f.record.owner :=
        any_ne_eq_false_iff.mp (Bool.eq_false_iff.mpr hexp)
      obtain ⟨t, w', hreplace, -⟩ := replace_spec (w := afterLook secret w) hg hshows.quiet hs' hacc
        ((congrFun hheld _).trans hold) rfl (refuses_eq_false haccepts)
        ((congrFun hheld _).trans hfree)
      change (g.replace secret.digest expected (afterLook secret w)).1 = .error x at h
      rw [hreplace] at h
      cases h

end TokenEngine

namespace Http

open AuthService (signup login refresh revoke verifyAccess)
open SteadySource (broken)

/-! ## Actions -/

section Actions

variable {τ : Type} [SteadySource τ] {g : TokenEngine τ Backends} {c : TokenConfig}
  {access : AccessCodec} {hasher : PasswordHasher τ Backends} {w : World τ Backends} {x : AuthError}

theorem signup_not_internal (hhasher : hasher.Apart) {fits : String → Prop}
    (hmakes : hasher.Makes fits) (h : InMemory hasher w) (hworks : broken w.entropy = false)
    {username password : String} (hfits : fits password)
    (hx : (signup ⟨Backends.credentialRepo, hasher, g⟩ username password w).1 = .error x) :
    ApiCode.ofAuth x ≠ .internalError := by
  obtain ⟨r, hrepo, -⟩ := h.accounts
  have hends := AuthService.signup_ends (g := g) hhasher hrepo username password
  generalize signup ⟨Backends.credentialRepo, hasher, g⟩ username password w = ended at hx hends
  cases hends with
  | refused fault _ =>
    cases hx
    exact ApiCode.noConfusion
  | taken e _ _ =>
    cases hx
    exact ApiCode.noConfusion
  | broken y e hbroken =>
    -- with random bytes to draw, the hasher makes its hash
    obtain ⟨hash, hhash, hworks⟩ := hmakes password w hfits hworks
    cases (hbroken hash hhash).symm.trans hworks
  | entered owner hash e _ _ _ _ => cases hx

theorem login_not_internal (hg : g.Made c (.plain access) Backends.refreshStore)
    (hacc : access.ttl = c.access.ttl) (hhasher : hasher.Reliable) (h : InMemory hasher w)
    (hs : TokenEngine.Steady c w.alone)
    (hfree : w.stores.store.held (g.nextSecret w).digest = none) {username password : String}
    (hx : (login ⟨Backends.credentialRepo, hasher, g⟩ username password w).1 = .error x) :
    ApiCode.ofAuth x ≠ .internalError := by
  obtain ⟨r, hrepo, husable⟩ := h.accounts
  have hends := AuthService.login_ends (g := g) hhasher.toApart hrepo username password
  generalize login ⟨Backends.credentialRepo, hasher, g⟩ username password w = ended at hx hends
  cases hends with
  | refused =>
    cases hx
    exact ApiCode.noConfusion
  | unchecked found y hfind hcheck =>
    -- the hash was entered by a signup
    obtain ⟨right, hright⟩ := (husable username found hfind).2 password w
    cases hcheck.symm.trans hright
  | right found hfind =>
    obtain ⟨t, w', hissue, -⟩ := TokenEngine.issue_spec hg.alone
      (RefreshBackend.quiet_of_place h.place) hs.able hacc (husable username found hfind).1 hfree
    rw [TokenEngine.issue_beside hg, World.fst_beside, hissue] at hx
    cases hx

theorem refresh_not_internal (hg : g.Made c (.plain access) Backends.refreshStore)
    (hacc : access.ttl = c.access.ttl) (hplace : w.stores.store.place = none)
    (hs : TokenEngine.Steady c w.alone)
    (hfree : w.stores.store.held (g.nextSecret w).digest = none) {secret : RefreshSecret}
    {expected : Option OwnerId}
    (hx : (refresh ⟨Backends.credentialRepo, hasher, g⟩ secret expected w).1 = .error x) :
    ApiCode.ofAuth x ≠ .internalError := by
  rw [AuthService.refresh_eq, TokenEngine.rotate_beside hg, World.fst_beside] at hx
  cases hrotate : ((g.alone access).rotate secret expected w.alone).1 with
  | ok t =>
    rw [hrotate] at hx
    cases hx
  | error y =>
    rw [hrotate] at hx
    cases hx
    rw [TokenEngine.rotate_in_memory hg.alone hacc hplace hs hfree secret expected hrotate]
    exact ApiCode.noConfusion

/-- An access token is refused for itself, never for the service. -/
theorem verifyAccess_refuses (hg : g.Made c (.plain access) Backends.refreshStore)
    (hsince : 0 ≤ w.now.secs) {token : String}
    (hx : (verifyAccess ⟨Backends.credentialRepo, hasher, g⟩ token w).1 = .error x) :
    x = .token .invalid ∨ x = .token .expired := by
  rw [AuthService.verifyAccess_eq, TokenEngine.validateAccess_beside hg] at hx
  cases hverify : access.verify token w.now with
  | ok owner =>
    rw [hverify] at hx
    cases hx
  | error y =>
    rw [hverify] at hx
    cases hx
    rcases AccessCodec.error_of_verify hsince hverify with rfl | rfl
    · exact .inl rfl
    · exact .inr rfl

end Actions

/-! ## Replies -/

def clientStatuses : List Nat := [200, 400, 401, 404, 405, 409]

theorem status_ofAuth {x : AuthError} (h : ApiCode.ofAuth x ≠ .internalError) :
    (ApiCode.ofAuth x).status ∈ clientStatuses := by
  have hcode (code : ApiCode) (hinternal : code ≠ .internalError) (htimeout : code ≠ .timeout) :
      code.status ∈ clientStatuses := by
    cases code <;> first | decide | contradiction
  refine hcode _ h ?_
  cases x with
  | token e => cases e <;> exact ApiCode.noConfusion
  | _ => exact ApiCode.noConfusion

theorem status_answer {α : Type} {data : α → Json} {result : Except AuthError α}
    (h : ∀ x, result = .error x → ApiCode.ofAuth x ≠ .internalError) :
    (answer data (some result)).status ∈ clientStatuses := by
  cases result with
  | ok a => exact List.mem_cons_self
  | error x => exact status_ofAuth (h x rfl)

theorem status_of_refused {r : Request} (hr : ¬ r.Garbled) {refusal : Refusal}
    (h : Refused r refusal) : refusal.reply.status ∈ clientStatuses := by
  cases h with
  | garbledHeader hgarbled => exact absurd hgarbled hr
  | _ => decide

section Replies

theorem serve_garbled {τ σ : Type} (a : AuthActions τ σ) {r : Request} (hr : r.Garbled)
    (w : World τ σ) : (serve a r w).1 = .ofCode .internalError := by
  simp only [serve, hr.route, serveRoute, hr.header]
  rfl

variable {τ : Type} [SteadySource τ] {g : TokenEngine τ Backends} {c : TokenConfig}
  {hasher : PasswordHasher τ Backends}

theorem status_of_served {access : AccessCodec}
    (hg : g.Made c (.plain access) Backends.refreshStore) (hacc : access.ttl = c.access.ttl)
    (hhasher : hasher.Reliable) {fits : String → Prop} (hmakes : hasher.Makes fits)
    {w : World τ Backends} (h : InMemory hasher w) (hs : TokenEngine.Steady c w.alone)
    (hfree : w.stores.store.held (g.nextSecret w).digest = none) {r : Request} (hr : ¬ r.Garbled)
    (hfits : ∀ username password, r.SignsUp username password → fits password)
    {result : Reply × World τ Backends}
    (hserved : Served (.ofService ⟨Backends.credentialRepo, hasher, g⟩) r w result) :
    result.1.status ∈ clientStatuses := by
  cases hserved with
  | refused hrefused => exact status_of_refused hr hrefused
  | signup username password hsignup =>
    exact status_answer fun x => signup_not_internal hhasher.toApart hmakes h hs.entropy
      (hfits username password hsignup)
  | login username password =>
    exact status_answer fun x => login_not_internal hg hacc hhasher h hs hfree
  | refresh secret expected =>
    exact status_answer fun x => refresh_not_internal hg hacc h.place hs hfree
  | revoke secret =>
    have hok : (revoke ⟨Backends.credentialRepo, hasher, g⟩ secret w).1 = .ok () :=
      AuthService.revoke_ok hg (RefreshBackend.quiet_of_place h.place) secret
    refine status_answer fun x hx => ?_
    cases hok.symm.trans hx
  | whoami token =>
    refine status_answer fun x hx => ?_
    rcases verifyAccess_refuses hg hs.since hx with rfl | rfl <;> exact ApiCode.noConfusion

/-- Argon2 refuses a password only if it is longer than the bodies that a service takes. -/
theorem status_of_argon2 {access : AccessCodec} {d : Argon2.Derivation}
    (hg : g.Made c (.plain access) Backends.refreshStore) (hacc : access.ttl = c.access.ttl)
    {w : World τ Backends} (h : InMemory (.argon2With d) w) (hs : TokenEngine.Steady c w.alone)
    (hfree : w.stores.store.held (g.nextSecret w).digest = none) {r : Request} (hr : ¬ r.Garbled)
    (hbody : r.body.length ≤ longestBody) :
    (serve (.ofService ⟨Backends.credentialRepo, .argon2With d, g⟩) r w).1.status ∈
      clientStatuses := by
  refine status_of_served hg hacc (PasswordHasher.reliable_argon2With d)
    (PasswordHasher.makes_argon2With d) h hs hfree hr (fun username password hsignup => ?_)
    (served _ r w)
  have hsize := hsignup.size_le
  have hlong : 4 * longestBody ≤ Argon2.longestPassword := by decide
  omega

theorem whoami_unverified {access : AccessCodec}
    (hg : g.Made c (.plain access) Backends.refreshStore) {w : World τ Backends}
    (hsince : 0 ≤ w.now.secs) {r : Request} (hroute : Route.find r = .ok .whoami)
    (hr : ¬ r.Garbled)
    (hbad : ∀ token, bearer r = .ok token → ∀ owner, (g.validateAccess token w).1 ≠ .ok owner) :
    (serve (.ofService ⟨Backends.credentialRepo, hasher, g⟩) r w).1.status = 401 := by
  simp only [serve, hroute, serveRoute]
  cases hbearer : bearer r with
  | error refusal =>
    rcases bearer_error hbearer with rfl | rfl | rfl
    · rfl
    · exact absurd ⟨hroute, hbearer⟩ hr
    · rfl
  | ok token =>
    simp only [AuthActions.ofService]
    cases hverify : (verifyAccess ⟨Backends.credentialRepo, hasher, g⟩ token w).1 with
    | error x =>
      rcases verifyAccess_refuses hg hsince hverify with rfl | rfl <;> rfl
    | ok owner =>
      rw [AuthService.verifyAccess_eq] at hverify
      cases hvalid : (g.validateAccess token w).1 with
      | ok owner => exact absurd hvalid (hbad token hbearer owner)
      | error x =>
        rw [hvalid] at hverify
        cases hverify

/-- A service that began empty, with all its records and accounts in memory, is asked anything while
random bytes can be drawn, every expiry can be told and the next secret is a new one. A request that
is not garbled never gets an internal error, and if it asks who its sender is without an access
token that is good, it is refused as such. A garbled request is answered as if the service had
failed. The passwords that `fits` are those which the hasher does not refuse for themselves: with
Argon2 all that a body may bring. -/
theorem internal_only_if_garbled {made : Instant} (hmade : Instant.inCalendar made.secs = true)
    (hg : TokenEngine.ofConfig c Backends.refreshStore made id = .ok g) (hhasher : hasher.Reliable)
    {fits : String → Prop} (hmakes : hasher.Makes fits) {now : Instant}
    (hnow : Instant.inCalendar now.secs = true) (e : τ) (clock : Nat)
    {steps : List (ServiceStep τ)} (hsteps : ∀ s ∈ steps, s.inCalendar = true) (k : Nat) :
    let a : AuthService τ Backends := ⟨Backends.credentialRepo, hasher, g⟩
    let w := a.afterSteps ⟨now, e, .memory (.startingAt clock), .memory default⟩ steps k
    TokenEngine.Steady c w.alone → w.stores.store.held (g.nextSecret w).digest = none →
    ∀ r : Request,
      (¬ r.Garbled → (∀ username password, r.SignsUp username password → fits password) →
        (serve (.ofService a) r w).1.status ∈ [200, 400, 401, 404, 405, 409]) ∧
      (¬ r.Garbled → Route.find r = .ok .whoami →
        (∀ token, bearer r = .ok token → ∀ owner, (g.validateAccess token w).1 ≠ .ok owner) →
        (serve (.ofService a) r w).1.status = 401) ∧
      (r.Garbled → (serve (.ofService a) r w).1 = .ofCode .internalError) := by
  intro a w hs hfree r
  obtain ⟨access, hacc, hmade⟩ := TokenEngine.made_of_ofConfig hmade hg
  have hmemory : InMemory hasher w := AuthService.inMemory_afterSteps hmade hhasher
    (.start hasher hnow e clock) hsteps k
  refine ⟨fun hr hfits => ?_, fun hr hroute hbad => ?_, fun hr => ?_⟩
  · exact status_of_served hmade hacc hhasher hmakes hmemory hs hfree hr hfits (served _ r w)
  · exact whoami_unverified hmade hs.since hroute hr hbad
  · exact serve_garbled _ hr w

/-- After somebody has signed up and logged in, a header that carries no bearer is refused, and so
is a second signup of the same name. -/
theorem internal_only_if_garbled_basic :
    let g : TokenEngine Entropy Backends :=
      ⟨.plain ⟨"gatehouse", "api", .ofSecs 300, List.replicate 32 7⟩, Backends.refreshStore,
        .ofSecs 3600, 32⟩
    let a : AuthService Entropy Backends := ⟨Backends.credentialRepo, .argon2With .plain, g⟩
    let body := Utf8.encode "\x7b\"username\":\"ada\",\"password\":\"open sesame\"\x7d"
    let signup : Request := ⟨"POST", "/api/v1/signup", [("content-length", Utf8.encode "43")], body⟩
    let steps : List (ServiceStep Entropy) :=
      [.request signup, .request { signup with target := "/api/v1/login" }]
    let w := a.afterSteps ⟨⟨0⟩, { word := 1 }, .memory (.startingAt 5), .memory default⟩ steps 2
    let r : Request := ⟨"GET", "/api/v1/whoami", [("authorization", Utf8.encode "Basic YWRh")], []⟩
    ((a.history ⟨⟨0⟩, { word := 1 }, .memory (.startingAt 5), .memory default⟩ steps).map
        fun m => match m.answer with
          | .reply r => r.status
          | _ => 0) = [200, 200] ∧
      (serve (.ofService a) signup w).1.status ∈ [200, 400, 401, 404, 405, 409] ∧
      (serve (.ofService a) r w).1.status = 401 := by
  intro g a body signup steps w r
  have hmade : TokenEngine.ofConfig
      ⟨⟨"gatehouse", "api", .ofSecs 300, List.replicate 32 7⟩, .ofSecs 3600, 32⟩
      Backends.refreshStore ⟨0⟩ id = .ok g := rfl
  have hs : TokenEngine.Steady
      ⟨⟨"gatehouse", "api", .ofSecs 300, List.replicate 32 7⟩, .ofSecs 3600, 32⟩ w.alone := by
    decide +kernel
  have hfree : w.stores.store.held (g.nextSecret w).digest = none := by
    decide +kernel
  have hsteps : ∀ s ∈ steps, s.inCalendar = true := by decide
  have hnow : Instant.inCalendar (Instant.mk 0).secs = true := by decide
  have hreplies := internal_only_if_garbled hnow hmade (PasswordHasher.reliable_argon2With .plain)
    (PasswordHasher.makes_argon2With .plain) hnow { word := 1 } 5 hsteps 2 hs hfree
  refine ⟨by decide +kernel, (hreplies signup).1 ?_ fun _ _ h => h.size_le.trans (by decide),
    (hreplies r).2.1 ?_ ?_ ?_⟩
  · intro h
    cases h.route.symm.trans (show Route.find signup = .ok .signup by decide +kernel)
  · intro h
    cases h.header.symm.trans (show bearer r = .error (.code .invalidToken) by rfl)
  · decide +kernel
  · intro token htoken
    cases htoken.symm.trans (show bearer r = .error (.code .invalidToken) by rfl)

/-- A service that has just begun answers a garbled request as if it had failed. -/
theorem garbled_gets_internal :
    let g : TokenEngine Entropy Backends :=
      ⟨.plain ⟨"gatehouse", "api", .ofSecs 300, List.replicate 32 7⟩, Backends.refreshStore,
        .ofSecs 3600, 32⟩
    let a : AuthService Entropy Backends := ⟨Backends.credentialRepo, .argon2, g⟩
    let w : World Entropy Backends := ⟨⟨0⟩, { word := 1 }, .memory (.startingAt 5), .memory default⟩
    let r : Request :=
      ⟨"GET", "/api/v1/whoami", [("authorization", Utf8.encode "Bearer é")], []⟩
    TokenEngine.Steady ⟨⟨"gatehouse", "api", .ofSecs 300, List.replicate 32 7⟩, .ofSecs 3600, 32⟩
        w.alone ∧
      w.stores.store.held (g.nextSecret w).digest = none ∧
      (serve (.ofService a) r w).1 = .ofCode .internalError ∧
      (serve (.ofService a) r w).1.status = 500 := by
  decide +kernel

end Replies

end Http
end Gatehouse
