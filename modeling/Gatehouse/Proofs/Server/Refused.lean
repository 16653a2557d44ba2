import Gatehouse.Proofs.Accounts.Memory
import Gatehouse.Proofs.Http.Replies
import Gatehouse.Proofs.Password.Hashers
import Gatehouse.Proofs.Server.Interchange
import Gatehouse.Proofs.Token.Refused

/-!
# Gatehouse.Proofs.Server.Refused

A request that is refused leaves everything as it was. Each operation of the service that ends in an
error leaves the accounts alone, and the refresh records too, also if it had done a part of its
work; and a reply whose status is not 200 is one of a refusal or of such an error
(`error_changes_nothing`).

There is one exception. A secret is drawn whose digest is that of a live record, while the clock of
the store is too close to its end to date another: then the clean-up takes this record away
(`late_login_loses_record`).
-/

namespace Gatehouse

variable {τ : Type}

theorem RefreshBackend.Shows.exists_memory {s : MemoryStore} {b : RefreshBackend}
    {records : SecretDigest → Option Holding} (h : (memory s).Shows b records) :
    ∃ s', b = .memory s' ∧ ∀ d, (memory s').held d = records d := by
  cases b with
  | remote p l => cases h.place
  | memory s' => exact ⟨s', rfl, congrFun h.held⟩

theorem MemoryStore.held_eq_of_held {s s' : MemoryStore} {d : SecretDigest}
    (h : (RefreshBackend.memory s').held d = (RefreshBackend.memory s).held d) :
    s'.held d = s.held d :=
  Option.map_injective (fun _ _ => Holding.filed.inj) h

/-- In memory, a refusal leaves each record, or it takes away the one under the digest drawn. -/
theorem RefreshBackend.RefusalLeaves.exists_memory {s : MemoryStore} {b : RefreshBackend}
    {drawn : SecretDigest} {ttl : Span} (h : (memory s).RefusalLeaves drawn ttl b) :
    ∃ s', b = .memory s' ∧ ∀ d, s'.held d = s.held d ∨
      (s.deadline? ttl = none ∧ d = drawn ∧ s'.held d = none) := by
  rcases h with hshows | ⟨hdate, hshows⟩
  · obtain ⟨s', rfl, hheld⟩ := hshows.exists_memory
    exact ⟨s', rfl, fun d => .inl (MemoryStore.held_eq_of_held (hheld d))⟩
  · obtain ⟨s', rfl, hheld⟩ := hshows.exists_memory
    refine ⟨s', rfl, fun d => ?_⟩
    have hd := hheld d
    by_cases hdrawn : d = drawn
    · subst hdrawn
      rw [Function.update_self] at hd
      exact .inr ⟨by simpa [canDate] using hdate, rfl, Option.map_eq_none_iff.mp hd⟩
    · rw [Function.update_of_ne hdrawn] at hd
      exact .inl (MemoryStore.held_eq_of_held hd)

/-- The same accounts, and the same refresh records with the same deadlines. -/
structure Untouched (w w' : World τ Backends) : Prop where
  repo : w'.stores.repo = w.stores.repo
  store : w.stores.store.Shows w'.stores.store w.stores.store.held

theorem Untouched.of_stores {w w' : World τ Backends} (hq : w.stores.store.Quiet)
    (h : w'.stores = w.stores) : Untouched w w' := by
  refine ⟨by rw [h], ?_⟩
  rw [h]
  exact .refl hq

variable [SteadySource τ]

/-- The same accounts, and of the refresh records what a refusal leaves. -/
structure LeftBy (g : TokenEngine τ Backends) (c : TokenConfig) (w w' : World τ Backends) :
    Prop where
  repo : w'.stores.repo = w.stores.repo
  store : w.stores.store.RefusalLeaves (g.nextSecret w).digest c.refreshTtl w'.stores.store

theorem Untouched.leftBy {g : TokenEngine τ Backends} {c : TokenConfig} {w w' : World τ Backends}
    (h : Untouched w w') : LeftBy g c w w' := ⟨h.repo, .inl h.store⟩

section Engine

variable {g : TokenEngine τ Backends} {c : TokenConfig} {access : AccessCodec}
  {w : World τ Backends} (hg : g.Made c (.plain access) Backends.refreshStore)
include hg

theorem TokenEngine.leftBy_issue (hq : w.stores.store.Quiet) {owner : OwnerId} {x : TokenError}
    (h : (g.issue owner w).1 = .error x) : LeftBy g c w (g.issue owner w).2 := by
  rw [issue_beside hg] at h ⊢
  exact ⟨rfl, refusalLeaves_of_issue hg.alone hq h⟩

theorem TokenEngine.leftBy_rotate (hacc : access.ttl = c.access.ttl)
    (hplace : w.stores.store.place = none) (haccess : (w.now.later? c.access.ttl).isSome = true)
    {secret : RefreshSecret} {expected : Option OwnerId} {x : TokenError}
    (h : (g.rotate secret expected w).1 = .error x) :
    LeftBy g c w (g.rotate secret expected w).2 := by
  rw [rotate_beside hg] at h ⊢
  exact ⟨rfl, refusalLeaves_of_rotate (w := w.alone) hg.alone hacc hplace haccess h⟩

end Engine

/-! ## The service -/

namespace AuthService

variable {g : TokenEngine τ Backends} {c : TokenConfig} {access : AccessCodec}
  {hasher : PasswordHasher τ Backends} {w : World τ Backends} {r : MemoryRepo} {x : AuthError}

theorem untouched_of_signup_error (hhasher : hasher.Apart) (hq : w.stores.store.Quiet)
    (hrepo : w.stores.repo = .memory r) {username password : String}
    (h : (signup ⟨Backends.credentialRepo, hasher, g⟩ username password w).1 = .error x) :
    Untouched w (signup ⟨Backends.credentialRepo, hasher, g⟩ username password w).2 := by
  have hends := signup_ends (g := g) hhasher hrepo username password
  generalize signup ⟨Backends.credentialRepo, hasher, g⟩ username password w = ended at h hends ⊢
  cases hends with
  | refused fault _ => exact .of_stores hq rfl
  | taken e _ _ => exact .of_stores hq rfl
  | broken y e _ => exact .of_stores hq rfl
  | entered owner hash e _ _ _ _ => cases h

theorem leftBy_login (hg : g.Made c (.plain access) Backends.refreshStore)
    (hhasher : hasher.Apart) (hq : w.stores.store.Quiet) (hrepo : w.stores.repo = .memory r)
    {username password : String}
    (h : (login ⟨Backends.credentialRepo, hasher, g⟩ username password w).1 = .error x) :
    LeftBy g c w (login ⟨Backends.credentialRepo, hasher, g⟩ username password w).2 := by
  have hends := login_ends (g := g) hhasher hrepo username password
  generalize login ⟨Backends.credentialRepo, hasher, g⟩ username password w = ended at h hends ⊢
  cases hends with
  | refused => exact (Untouched.of_stores hq rfl).leftBy
  | unchecked found y _ _ => exact (Untouched.of_stores hq rfl).leftBy
  | right found _ =>
    cases hissue : (g.issue found.owner w).1 with
    | error y => exact TokenEngine.leftBy_issue hg hq hissue
    | ok t =>
      rw [hissue] at h
      cases h

theorem leftBy_refresh (hg : g.Made c (.plain access) Backends.refreshStore)
    (hacc : access.ttl = c.access.ttl) (hplace : w.stores.store.place = none)
    (haccess : (w.now.later? c.access.ttl).isSome = true) {secret : RefreshSecret}
    {expected : Option OwnerId}
    (h : (refresh ⟨Backends.credentialRepo, hasher, g⟩ secret expected w).1 = .error x) :
    LeftBy g c w (refresh ⟨Backends.credentialRepo, hasher, g⟩ secret expected w).2 := by
  rw [refresh_eq] at h ⊢
  cases hrotate : (g.rotate secret expected w).1 with
  | ok t =>
    rw [hrotate] at h
    cases h
  | error y => exact TokenEngine.leftBy_rotate hg hacc hplace haccess hrotate

/-- Nothing is ever refused to one who ends a secret. -/
theorem revoke_ok (hg : g.Made c (.plain access) Backends.refreshStore)
    (hq : w.stores.store.Quiet) (secret : RefreshSecret) :
    (revoke ⟨Backends.credentialRepo, hasher, g⟩ secret w).1 = .ok () := by
  have hok := (TokenEngine.revoke_spec (w := w.alone) hg.alone hq secret).1
  rw [revoke_eq, TokenEngine.revoke_beside hg, World.fst_beside, hok]
  rfl

theorem verifyAccess_keeps (hg : g.Made c (.plain access) Backends.refreshStore) (token : String) :
    (verifyAccess ⟨Backends.credentialRepo, hasher, g⟩ token w).2 = w := by
  rw [verifyAccess_eq, TokenEngine.validateAccess_beside hg]

end AuthService

/-! ## The replies -/

namespace Http

variable {g : TokenEngine τ Backends} {c : TokenConfig} {hasher : PasswordHasher τ Backends}

theorem error_of_status {α : Type} {data : α → Json} {result : Except AuthError α}
    (h : (answer data (some result)).status ≠ 200) : ∃ x, result = .error x := by
  cases result with
  | error x => exact ⟨x, rfl⟩
  | ok a => exact absurd rfl h

theorem leftBy_of_status {access : AccessCodec}
    (hg : g.Made c (.plain access) Backends.refreshStore) (hacc : access.ttl = c.access.ttl)
    (hhasher : hasher.Apart) {w : World τ Backends} (hplace : w.stores.store.place = none)
    {accounts : MemoryRepo} (hrepo : w.stores.repo = .memory accounts)
    (haccess : (w.now.later? c.access.ttl).isSome = true) {r : Request}
    {served : Reply × World τ Backends}
    (h : Served (.ofService ⟨Backends.credentialRepo, hasher, g⟩) r w served)
    (hstatus : served.1.status ≠ 200) : LeftBy g c w served.2 := by
  have hq := RefreshBackend.quiet_of_place hplace
  cases h with
  | refused => exact (Untouched.of_stores hq rfl).leftBy
  | signup username password =>
    obtain ⟨x, hx⟩ := error_of_status hstatus
    exact (AuthService.untouched_of_signup_error hhasher hq hrepo hx).leftBy
  | login username password =>
    obtain ⟨x, hx⟩ := error_of_status hstatus
    exact AuthService.leftBy_login hg hhasher hq hrepo hx
  | refresh secret expected =>
    obtain ⟨x, hx⟩ := error_of_status hstatus
    exact AuthService.leftBy_refresh hg hacc hplace haccess hx
  | revoke secret =>
    obtain ⟨x, hx⟩ := error_of_status hstatus
    cases (AuthService.revoke_ok hg hq secret).symm.trans hx
  | whoami token =>
    exact Untouched.leftBy
      (.of_stores hq (congrArg World.stores (AuthService.verifyAccess_keeps hg token)))

/-- Every reply of a service in memory is an envelope that agrees with its status. A reply whose
status is not 200 leaves the accounts as they were, and each live refresh record too, unless it is
that of the secret that was drawn and the store's clock cannot tell the end of a new lifetime. The
wall clock can tell when an access token ends. -/
theorem error_changes_nothing {made : Instant} (hmade : Instant.inCalendar made.secs = true)
    (hg : TokenEngine.ofConfig c Backends.refreshStore made id = .ok g) (hhasher : hasher.Apart)
    {w : World τ Backends} {s : MemoryStore} {accounts : MemoryRepo}
    (hw : w.stores = ⟨.memory s, .memory accounts⟩)
    (haccess : (w.now.later? c.access.ttl).isSome = true) (r : Request) :
    let result := serve (.ofService ⟨Backends.credentialRepo, hasher, g⟩) r w
    result.1.Coherent ∧
      (result.1.status ≠ 200 → ∃ s', result.2.stores = ⟨.memory s', .memory accounts⟩ ∧
        ∀ d, s'.held d = s.held d ∨
          (s.deadline? c.refreshTtl = none ∧ d = (g.nextSecret w).digest ∧ s'.held d = none)) := by
  intro result
  obtain ⟨access, hacc, hmade⟩ := TokenEngine.made_of_ofConfig hmade hg
  refine ⟨coherent_serve _ r w, fun hstatus => ?_⟩
  have hplace : w.stores.store.place = none := by rw [hw]; rfl
  have hrepo : w.stores.repo = .memory accounts := by rw [hw]
  obtain ⟨hsame, hleft⟩ := leftBy_of_status hmade hacc hhasher hplace hrepo haccess
    (served _ r w) hstatus
  change result.2.stores.repo = _ at hsame
  change w.stores.store.RefusalLeaves _ _ result.2.stores.store at hleft
  rcases hstores : result.2.stores with ⟨store, repo⟩
  rw [hstores, hw] at hsame hleft
  obtain ⟨s', rfl, hheld⟩ := hleft.exists_memory
  obtain rfl : repo = .memory accounts := hsame
  exact ⟨s', rfl, hheld⟩

theorem error_changes_nothing_taken :
    let g : TokenEngine Entropy Backends :=
      ⟨.plain ⟨"gatehouse", "api", .ofSecs 300, List.replicate 32 7⟩, Backends.refreshStore,
        .ofSecs 3600, 32⟩
    let s : MemoryStore := (MemoryStore.startingAt 5).file ⟨"00ff"⟩ ⟨⟨"eve"⟩, ⟨0⟩⟩ 9
    let accounts : MemoryRepo :=
      MemoryRepo.enter ⟨⟨"eve"⟩, "ada", "plain:open sesame", ⟨0⟩⟩ default
    let w : World Entropy Backends := ⟨⟨0⟩, { word := 1 }, .memory s, .memory accounts⟩
    let body := Utf8.encode "\x7b\"username\":\"ada\",\"password\":\"let me in\"\x7d"
    let r : Request := ⟨"POST", "/api/v1/signup", [("content-length", Utf8.encode "41")], body⟩
    let result := serve (.ofService ⟨Backends.credentialRepo, .argon2, g⟩) r w
    result.1 = .ofCode .usernameTaken ∧ result.1.Coherent ∧
      ∃ s', result.2.stores = ⟨.memory s', .memory accounts⟩ ∧ ∀ d, s'.held d = s.held d := by
  intro g s accounts w body r result
  have hreply : result.1 = .ofCode .usernameTaken := by decide +kernel
  have hmade : TokenEngine.ofConfig
      ⟨⟨"gatehouse", "api", .ofSecs 300, List.replicate 32 7⟩, .ofSecs 3600, 32⟩
      Backends.refreshStore ⟨0⟩ id = .ok g := rfl
  have hhasher : (PasswordHasher.argon2 : PasswordHasher Entropy Backends).Apart :=
    PasswordHasher.apart_argon2With _
  have hstores : w.stores = ⟨.memory s, .memory accounts⟩ := rfl
  obtain ⟨hcoherent, hkept⟩ := error_changes_nothing
    (show Instant.inCalendar (Instant.mk 0).secs = true by decide) hmade
    hhasher hstores (by decide) r
  obtain ⟨s', hstores, hheld⟩ := hkept (by rw [hreply]; decide)
  refine ⟨hreply, hcoherent, s', hstores, fun d => (hheld d).resolve_right ?_⟩
  rintro ⟨hdate, -⟩
  cases hdate.symm.trans (show s.deadline? (.ofSecs 3600) = some (5 + 3600000000000) by decide)

/-- Somebody has signed up and logged in, fifty seconds ago. Then the clock of the store is so close
to its end that no record can be dated, and the source of random bytes begins again where it began:
the next login is answered with an error, and the record of the first is gone. -/
theorem late_login_loses_record :
    let g : TokenEngine Entropy Backends :=
      ⟨.plain ⟨"gatehouse", "api", .ofSecs 300, List.replicate 32 7⟩, Backends.refreshStore,
        .ofSecs 60, 32⟩
    let a : AuthService Entropy Backends := ⟨Backends.credentialRepo, .plain, g⟩
    let body := Utf8.encode "\x7b\"username\":\"ada\",\"password\":\"open sesame\"\x7d"
    let signup : Request :=
      ⟨"POST", "/api/v1/signup", [("content-length", Utf8.encode "43")], body⟩
    let login : Request := ⟨"POST", "/api/v1/login", [("content-length", Utf8.encode "43")], body⟩
    let w₀ : World Entropy Backends := ⟨⟨0⟩, { word := 1 },
      .memory (.startingAt ((MemoryStore.secondsEnd - 100) * Span.second)), .memory default⟩
    let steps : List (ServiceStep Entropy) :=
      [.request signup, .reseed { word := 1 }, .request login, .wait 50000, .reseed { word := 1 }]
    let w := a.afterSteps w₀ steps 5
    let result := serve (.ofService a) login w
    TokenEngine.ofConfig ⟨⟨"gatehouse", "api", .ofSecs 300, List.replicate 32 7⟩, .ofSecs 60, 32⟩
        Backends.refreshStore ⟨0⟩ id = .ok g ∧
      (w.now.later? (.ofSecs 300)).isSome = true ∧ (w.now.later? (.ofSecs 60)).isSome = true ∧
      result.1 = .ofCode .internalError ∧ result.1.status = 500 ∧
      (w.stores.store.held (g.nextSecret w).digest).isSome = true ∧
      (result.2.stores.store.held (g.nextSecret w).digest).isSome = false := by
  intro g a body signup login w₀ steps w result
  refine ⟨rfl, ?_⟩
  decide +kernel

end Http

end Gatehouse
