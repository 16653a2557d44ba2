import Gatehouse.Proofs.Server.Refused
import Gatehouse.Proofs.Server.Traced

/-!
# Gatehouse.Proofs.Server.SameRefusal

A refusal tells a client nothing of why. A request for new tokens is answered alike for a secret
that was never handed out, for one that is past its lifetime, was revoked or was traded, and for one
that is another owner's; and alike whether the look at the record shows it or the exchange itself
does, because the record changed in between. A login is answered alike whether nobody has the
username or the password is wrong.
-/

namespace Gatehouse

open SteadySource (broken)

/-- The store, to which `others` happens before each rotation. -/
def RefreshStore.interrupted {σ : Type} (s : RefreshStore σ) (others : σ → σ) : RefreshStore σ :=
  { s with
    rotate := fun old new expected issuedAt ttl x =>
      s.rotate old new expected issuedAt ttl (others x) }

/-- Before the `k`th step of a run, at the time `now` of the store, no secret of a digest is good
for a request that expects `expected`. Each that was handed out is past its lifetime, or was revoked
or traded since, or has another owner. -/
def Worthless {τ : Type} (h : List (ServiceMoment τ)) (ttl : Span) (k now : Nat) (d : SecretDigest)
    (expected : Option OwnerId) : Prop :=
  ∀ i m o, i < k → h[i]? = some m → m.Grants d o →
    m.lifetimeEnd ttl ≤ now ∨
    (∃ j n, i < j ∧ j < k ∧ h[j]? = some n ∧ (n.Revokes d ∨ n.Trades d)) ∨
    ∃ e, expected = some e ∧ e ≠ o

/-- The look at the record succeeds, and then the store refuses the exchange. -/
theorem TokenEngine.rotate_refused_late {τ σ : Type} [SteadySource τ] {g : TokenEngine τ σ}
    {w : World τ σ} {secret : RefreshSecret} {expected : Option OwnerId} {refreshEnd : Instant}
    (hlong : RefreshSecret.fewestBytes ≤ g.secretBytes) (hworks : broken w.entropy = false)
    (hlater : w.now.later? g.refreshTtl = some refreshEnd) {record : RefreshRecord} {s s' : σ}
    (hlook : g.store.get secret.digest w.stores = (.ok record, s))
    (hexp : Accepts expected record.owner) {x : StoreError}
    (hx : x = .notFound ∨ x = .ownerMismatch)
    (hcall : g.store.rotate secret.digest (g.nextSecret w).digest expected w.now g.refreshTtl s =
      (.error x, s')) :
    g.rotate secret expected w = (.error .invalid, ⟨w.now, g.entropyAfter w, s'⟩) := by
  have hdraw := g.draw_nextSecret hlong hworks
  rw [rotate_eq_replace hlook, any_ne_eq_false_iff.mpr hexp, if_neg Bool.false_ne_true]
  rw [replace_eq_settle (w := { w with stores := s }) hlater hdraw hcall]
  rcases hx with rfl | rfl
  · rfl
  · rfl

variable {τ : Type} [SteadySource τ]

section Engine

variable {g : TokenEngine τ Backends} {c : TokenConfig} {access : AccessCodec}
  {w : World τ Backends} (hg : g.Made c (.plain access) Backends.refreshStore)
include hg

theorem rotate_refused_beside (hq : w.stores.store.Quiet) {secret : RefreshSecret}
    {expected : Option OwnerId}
    (h : ∀ x, w.stores.store.held secret.digest = some x →
      ∃ o, x.IsOf o ∧ ¬ TokenEngine.Accepts expected o) :
    (g.rotate secret expected w).1 = .error .invalid ∧
      Untouched w (g.rotate secret expected w).2 := by
  have hrefused : w.alone.stores.held secret.digest = none ∨ ∃ x owner,
      w.alone.stores.held secret.digest = some x ∧ x.IsOf owner ∧
        ¬ TokenEngine.Accepts expected owner := by
    cases hx : w.alone.stores.held secret.digest with
    | none => exact .inl rfl
    | some x =>
      obtain ⟨o, ho, hexp⟩ := h x hx
      exact .inr ⟨x, o, rfl, ho, hexp⟩
  obtain ⟨w', hrotate, hleaves⟩ := TokenEngine.rotate_refused hg.alone hq hrefused
  rw [TokenEngine.rotate_beside hg, hrotate]
  exact ⟨rfl, rfl, hleaves.stores⟩

/-- What others do before the exchange stays, and a refused exchange adds nothing to it. -/
theorem rotate_interrupted (others : Backends → Backends) {secret : RefreshSecret}
    {expected : Option OwnerId} {o : OwnerId} (hworks : broken w.entropy = false)
    (hlater : (w.now.later? c.refreshTtl).isSome = true)
    (hlook : (g.validateRefresh secret w).1 = .ok o) (hexp : TokenEngine.Accepts expected o)
    {found : Backends} (hfound : found = others (g.validateRefresh secret w).2.stores)
    (hq : found.store.Quiet)
    (hrefused :
      (found.store.rotate secret.digest (g.nextSecret w).digest expected w.now c.refreshTtl).1 =
        .error .notFound ∨
      (found.store.rotate secret.digest (g.nextSecret w).digest expected w.now c.refreshTtl).1 =
        .error .ownerMismatch) :
    let result :=
      TokenEngine.rotate { g with store := g.store.interrupted others } secret expected w
    result.1 = .error .invalid ∧ result.2.stores.repo = found.repo ∧
      found.store.Shows result.2.stores.store found.store.held := by
  intro result
  obtain ⟨refreshEnd, hrefreshEnd⟩ := Option.isSome_iff_exists.mp hlater
  have hstorable := hg.admitted.storable
  rw [← hg.ttl] at hrefreshEnd hrefused hstorable
  obtain ⟨record, s, hget, rfl, rfl⟩ : ∃ record s,
      g.store.get secret.digest w.stores = (.ok record, s) ∧ record.owner = o ∧
        found = others s := by
    rcases hget : g.store.get secret.digest w.stores with ⟨x | record, s⟩
    · simp only [TokenEngine.validateRefresh, World.onStores, hget] at hlook
      cases hlook
    · simp only [TokenEngine.validateRefresh, World.onStores, hget] at hlook hfound
      exact ⟨record, s, rfl, Except.ok.inj hlook, hfound⟩
  obtain ⟨x, hx, hanswer⟩ : ∃ x, (x = .notFound ∨ x = .ownerMismatch) ∧
      ((others s).store.rotate secret.digest (g.nextSecret w).digest expected w.now
        g.refreshTtl).1 = .error x := by
    rcases hrefused with h | h
    · exact ⟨_, .inl rfl, h⟩
    · exact ⟨_, .inr rfl, h⟩
  have hcall : (g.store.interrupted others).rotate secret.digest (g.nextSecret w).digest expected
      w.now g.refreshTtl s = (.error x, ⟨((others s).store.rotate secret.digest
        (g.nextSecret w).digest expected w.now g.refreshTtl).2, (others s).repo⟩) := by
    simp only [RefreshStore.interrupted, hg.store]
    exact Prod.ext hanswer rfl
  have hrotate : result = _ := TokenEngine.rotate_refused_late
    (g := { g with store := g.store.interrupted others }) hg.long hworks hrefreshEnd hget hexp hx
    hcall
  obtain ⟨hspec, hshows⟩ := RefreshBackend.rotate_spec hq hstorable secret.digest
    (g.nextSecret w).digest expected w.now
  rw [← hspec, hanswer] at hshows
  rw [hrotate]
  exact ⟨rfl, rfl, hshows⟩

end Engine

/-! ## The replies -/

namespace Http

variable {hasher : PasswordHasher τ Backends} {g : TokenEngine τ Backends} {c : TokenConfig}
  {w : World τ Backends} {r : Request}

theorem reply_of_invalid (hasher : PasswordHasher τ Backends) {secret : RefreshSecret}
    {expected : Option OwnerId} (hr : r.Refreshes secret expected) {w' : World τ Backends}
    (h : g.rotate secret expected w = (.error .invalid, w')) :
    serve (.ofService ⟨Backends.credentialRepo, hasher, g⟩) r w = (.ofCode .invalidToken, w') := by
  rw [serve_refresh _ _ hr]
  simp only [AuthActions.ofService, AuthService.refresh_eq, h]
  rfl

def Wrong (hasher : PasswordHasher τ Backends) (repo : RepoBackend) (username password : String) :
    Prop :=
  ∀ found w, (CredentialRepo.backend.find username repo).1 = .ok (some found) →
    (hasher.check password found.passwordHash w).1 ≠ .ok true

theorem reply_of_wrong (hhasher : hasher.Apart) (h : Serving hasher w) {username password : String}
    (hr : r.LogsIn username password) (hwrong : Wrong hasher w.stores.repo username password) :
    let result := serve (.ofService ⟨Backends.credentialRepo, hasher, g⟩) r w
    result.1 = .ofCode .invalidCredentials ∧ result.2.stores.store = w.stores.store := by
  intro result
  obtain ⟨accounts, hshows, husable⟩ := h.repo
  obtain ⟨repo, hrepo, -, hlogin⟩ := login_eq hasher g hshows username password
  obtain ⟨_, hfind, -⟩ := RepoBackend.find_spec hshows username
  have hresult : result =
      let ended := AuthService.login ⟨Backends.credentialRepo, hasher, g⟩ username password w
      (answer (tokensData ended.2.now) (some ended.1), ended.2) := serve_login _ _ hr
  rw [hresult, hlogin]
  cases hfound : accounts username with
  | none => exact ⟨rfl, rfl⟩
  | some found =>
    let w₁ : World τ Backends := { w with stores := ⟨w.stores.store, repo⟩ }
    have hnot := hwrong found w₁ (by rw [hfind, hfound])
    obtain ⟨right, hright⟩ := (husable username found hfound).2 password w₁
    have hleft := hhasher.check password found.passwordHash w₁
    have hcheck : hasher.check password found.passwordHash w₁ = (.ok right, w₁) :=
      Prod.ext hright hleft
    cases right with
    | true => exact absurd hright hnot
    | false =>
      simp only [w₁] at hcheck
      simp only [hcheck]
      exact ⟨rfl, trivial⟩

theorem foreign_of_worthless {access : AccessCodec}
    (hg : g.Made c (.plain access) Backends.refreshStore) (hhasher : hasher.Reliable)
    (hw : Serving hasher w) (hempty : ∀ d, w.stores.store.held d = none)
    {steps : List (ServiceStep τ)} (hsteps : ∀ s ∈ steps, s.inCalendar = true) {k : Nat}
    {d : SecretDigest} {expected : Option OwnerId} :
    let a : AuthService τ Backends := ⟨Backends.credentialRepo, hasher, g⟩
    let w' := a.afterSteps w steps k
    Worthless (a.history w steps) c.refreshTtl k w'.stores.store.clock d expected →
    ∀ x, w'.stores.store.held d = some x → ∃ o, x.IsOf o ∧ ¬ TokenEngine.Accepts expected o := by
  intro a w' hworthless x hx
  -- The record was granted by an earlier step, and none since has revoked or traded it.
  obtain ⟨o, i, m, ht⟩ :=
    AuthService.traced_afterSteps hg hhasher hw hsteps hempty k d x hx
  refine ⟨o, ht.owner, ?_⟩
  rcases hworthless i m o ht.before ht.moment ht.grants with
    hexpired | ⟨j, n, hij, hj, hn, hspent⟩ | ⟨e, rfl, he⟩
  · have hlive := RefreshBackend.clock_lt_deadline hx ht.deadline
    omega
  · obtain ⟨hrevoked, htraded⟩ := ht.unspent j n hij hj hn
    exact absurd hspent (not_or.mpr ⟨hrevoked, htraded⟩)
  · rintro (h | h)
    · cases h
    · exact he (Option.some.inj h)

/-- Every state of a service that began without records and without accounts. A request to refresh
is answered alike for every secret that is worthless, and also if the store refuses the exchange
after the look at the record has succeeded, since something else happened in between. A login is
answered alike for every password that is wrong. No refusal touches a record. -/
theorem refusals_alike {made : Instant} (hmade : Instant.inCalendar made.secs = true)
    (hg : TokenEngine.ofConfig c Backends.refreshStore made id = .ok g) (hhasher : hasher.Reliable)
    (hnow : Instant.inCalendar w.now.secs = true) (hfresh : w.stores.store.Fresh)
    (hrepo : w.stores.repo.Shows fun _ => none) {steps : List (ServiceStep τ)}
    (hsteps : ∀ s ∈ steps, s.inCalendar = true) (k : Nat) :
    let a : AuthService τ Backends := ⟨Backends.credentialRepo, hasher, g⟩
    let w' := a.afterSteps w steps k
    (∀ r secret expected, r.Refreshes secret expected →
      Worthless (a.history w steps) c.refreshTtl k w'.stores.store.clock secret.digest expected →
      let result := serve (.ofService a) r w'
      result.1 = .ofCode .invalidToken ∧ Untouched w' result.2) ∧
    (∀ r secret expected o (others : Backends → Backends), r.Refreshes secret expected →
      broken w'.entropy = false → (w'.now.later? c.refreshTtl).isSome = true →
      (g.validateRefresh secret w').1 = .ok o → TokenEngine.Accepts expected o →
      let found := others (g.validateRefresh secret w').2.stores
      let exchange := (found.store.rotate secret.digest (g.nextSecret w').digest expected w'.now
        c.refreshTtl).1
      found.store.Quiet → exchange = .error .notFound ∨ exchange = .error .ownerMismatch →
      let result := serve (.ofService { a with
        engine := { g with store := g.store.interrupted others } }) r w'
      result.1 = .ofCode .invalidToken ∧ result.2.stores.repo = found.repo ∧
        found.store.Shows result.2.stores.store found.store.held) ∧
    ∀ r username password, r.LogsIn username password →
      Wrong hasher w'.stores.repo username password →
      let result := serve (.ofService a) r w'
      result.1 = .ofCode .invalidCredentials ∧ result.2.stores.store = w'.stores.store := by
  intro a w'
  obtain ⟨access, -, hmade⟩ := TokenEngine.made_of_ofConfig hmade hg
  have hstart : Serving hasher w := by
    refine ⟨hnow, hfresh.quiet, _, hrepo, fun _ _ hfound => ?_⟩
    cases hfound
  have hserving : Serving hasher w' :=
    AuthService.serving_afterSteps hmade hhasher hstart hsteps k
  refine ⟨fun r secret expected hr hworthless => ?_,
    fun r secret expected o others hr hworks hlater hlook hexp hq hrefused => ?_,
    fun r username password hr hwrong => reply_of_wrong hhasher.toApart hserving hr hwrong⟩
  · have hforeign := foreign_of_worthless hmade hhasher hstart hfresh.empty hsteps hworthless
    obtain ⟨hrotate, huntouched⟩ := rotate_refused_beside hmade hserving.quiet hforeign
    have hreply := reply_of_invalid hasher hr (Prod.ext hrotate rfl)
    rw [hreply]
    exact ⟨rfl, huntouched⟩
  · obtain ⟨hrotate, hkept⟩ := rotate_interrupted hmade others hworks hlater hlook hexp rfl hq
      hrefused
    have hreply := reply_of_invalid hasher hr (Prod.ext hrotate rfl)
    rw [hreply]
    exact ⟨rfl, hkept⟩

/-- A client signs up, logs in and revokes the secret. A refresh is refused alike after that, and
before it if another client revokes the secret between look and exchange; a login with another
password is refused like one of nobody. -/
theorem refusals_alike_revoked :
    let g : TokenEngine Entropy Backends :=
      ⟨.plain ⟨"gatehouse", "api", .ofSecs 300, List.replicate 32 7⟩, Backends.refreshStore,
        .ofSecs 3600, 32⟩
    let a : AuthService Entropy Backends := ⟨Backends.credentialRepo, .plain, g⟩
    let w : World Entropy Backends := ⟨⟨0⟩, { word := 1 }, .memory (.startingAt 5), .memory default⟩
    let post (path body : String) : Request :=
      ⟨"POST", path, [("content-length", Utf8.encode (toString (Utf8.encode body).length))],
        Utf8.encode body⟩
    let credentials := "\x7b\"username\":\"ada\",\"password\":\"open sesame\"\x7d"
    let wrong := post "/api/v1/login" "\x7b\"username\":\"ada\",\"password\":\"let me in\"\x7d"
    let nobody := post "/api/v1/login" "\x7b\"username\":\"eve\",\"password\":\"let me in\"\x7d"
    let secret : RefreshSecret := ⟨"bJKfNN36jJ9jyZYO9uNIo1KMij_MLwROOaP8W5RJL48"⟩
    let refresh := post "/api/v1/refresh"
      "\x7b\"refresh_token\":\"bJKfNN36jJ9jyZYO9uNIo1KMij_MLwROOaP8W5RJL48\"\x7d"
    let steps : List (ServiceStep Entropy) := [.request (post "/api/v1/signup" credentials),
      .request (post "/api/v1/login" credentials), .call (.revoke secret)]
    let others (b : Backends) : Backends := { b with store := (b.store.delete secret.digest).2 }
    (serve (.ofService a) refresh (a.afterSteps w steps 3)).1 = .ofCode .invalidToken ∧
      (serve (.ofService { a with engine := { g with store := g.store.interrupted others } })
        refresh (a.afterSteps w steps 2)).1 = .ofCode .invalidToken ∧
      (serve (.ofService a) wrong (a.afterSteps w steps 1)).1 = .ofCode .invalidCredentials ∧
      (serve (.ofService a) nobody (a.afterSteps w steps 1)).1 = .ofCode .invalidCredentials := by
  intro g a w post credentials wrong nobody secret refresh steps others
  let hasher : PasswordHasher Entropy Backends := .plain
  have hsteps : ∀ s ∈ steps, s.inCalendar = true := by decide
  have halike := refusals_alike
    (c := ⟨⟨"gatehouse", "api", .ofSecs 300, List.replicate 32 7⟩, .ofSecs 3600, 32⟩) (g := g)
    (w := w) (show Instant.inCalendar (Instant.mk 0).secs = true by decide) rfl
    PasswordHasher.reliable_plain (show Instant.inCalendar (Instant.mk 0).secs = true by decide)
    (RefreshBackend.fresh_memory 5) rfl hsteps
  have hrefresh : refresh.Refreshes secret none := ⟨by decide +kernel, by decide +kernel⟩
  refine ⟨((halike 3).1 refresh secret none hrefresh ?_).1, ?_, ?_, ?_⟩
  · -- the two steps before the last may have granted the secret, and the last one revoked it
    intro i m o hi hm hgrants
    have hlast : i < 2 ∨ i = 2 := by omega
    rcases hlast with hlast | rfl
    · exact .inr (.inl ⟨2, _, hlast, by decide, rfl, .inl ⟨secret, rfl, .inl rfl⟩⟩)
    · cases hm
      rcases hgrants with ⟨t, ht, -⟩ | ⟨reply, hreply, -⟩
      · simp only [ServiceStep.apply, TokenCall.apply, ServiceAnswer.token.injEq] at ht
        generalize (g.revoke secret _).1 = revoked at ht
        cases revoked <;> cases ht
      · cases hreply
  · exact ((halike 2).2.1 refresh secret none ⟨"bf3e51c8-89be-42d6-908d-80cb62a5826c"⟩ others
      hrefresh (by decide +kernel) (by decide +kernel) (by decide +kernel) (.inl rfl)
      (RefreshBackend.quiet_of_place (by decide +kernel)) (.inl (by decide +kernel))).1
  · have hwrong : Wrong hasher (a.afterSteps w steps 1).stores.repo "ada" "let me in" := by
      intro found w₁ hfound
      have hada : (CredentialRepo.backend.find "ada" (a.afterSteps w steps 1).stores.repo).1 = .ok
          (some ⟨⟨"bf3e51c8-89be-42d6-908d-80cb62a5826c"⟩, "ada", "plain:open sesame", ⟨0⟩⟩) := by
        decide +kernel
      cases hada.symm.trans hfound
      simp only [hasher, PasswordHasher.plain]
      decide
    exact ((halike 1).2.2 wrong "ada" "let me in" ⟨by decide +kernel, by decide +kernel⟩ hwrong).1
  · have hnobody : Wrong hasher (a.afterSteps w steps 1).stores.repo "eve" "let me in" := by
      intro found w₁ hfound
      have heve : (CredentialRepo.backend.find "eve" (a.afterSteps w steps 1).stores.repo).1 =
          .ok none := by
        decide +kernel
      cases heve.symm.trans hfound
    exact ((halike 1).2.2 nobody "eve" "let me in" ⟨by decide +kernel, by decide +kernel⟩ hnobody).1

end Http
end Gatehouse
