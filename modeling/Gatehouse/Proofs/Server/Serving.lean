import Gatehouse.Proofs.Accounts.Memory
import Gatehouse.Proofs.Accounts.Repositories
import Gatehouse.Proofs.Http.Replies
import Gatehouse.Proofs.Server.Interchange
import Gatehouse.Proofs.Token.Outcomes

/-!
# Gatehouse.Proofs.Server.Serving

What the steps of a service make of its records and its accounts, on either pair of backends,
whatever its clocks and its source of random bytes do. Each account can be used (`Serving`), and a
record that a step brings is one whose secret the answer of the step hands out (`Yields`).

* `yields_issue`, `yields_rotate`, `yields_revoke`: the operations of the engine.
* `yields_signup`, `yields_login`, `yields_serve`: those of the service, and the requests.
-/

namespace Gatehouse

variable {τ : Type}

/-- A repository that answers, and in which the owner of each account has a name and every password
can be tried on its hash. -/
def RepoBackend.Usable (hasher : PasswordHasher τ Backends) (repo : RepoBackend) : Prop :=
  ∃ accounts, repo.Shows accounts ∧ ∀ username found, accounts username = some found →
    found.owner.isEmpty = false ∧
      ∀ attempt w, ∃ right, (hasher.check attempt found.passwordHash w).1 = .ok right

structure RepoBackend.StaysUsable (hasher : PasswordHasher τ Backends) (repo repo' : RepoBackend) :
    Prop where
  isMemory : repo'.isMemory = repo.isMemory
  usable : repo'.Usable hasher

/-- A service that can go on: nothing interferes with its refresh records, and its accounts can be
used. -/
structure Serving (hasher : PasswordHasher τ Backends) (w : World τ Backends) : Prop where
  inCalendar : Instant.inCalendar w.now.secs = true
  quiet : w.stores.store.Quiet
  repo : w.stores.repo.Usable hasher

/-- An owner who has a name or a record. -/
def World.Knows (w : World τ Backends) (o : OwnerId) : Prop :=
  o.isEmpty = false ∨ ∃ d x, w.stores.store.held d = some x ∧ x.owner = .ok o

/-- What a step makes of a service: each record that is there now was there before, or it is granted
by the step and filed now. -/
structure Yields (hasher : PasswordHasher τ Backends) (ttl : Span) (w w' : World τ Backends)
    (grants : SecretDigest → OwnerId → Prop) : Prop where
  inCalendar : Instant.inCalendar w'.now.secs = true
  quiet : w'.stores.store.Quiet
  place : w'.stores.store.place = w.stores.store.place
  repo : w.stores.repo.StaysUsable hasher w'.stores.repo
  held : ∀ d x, w'.stores.store.held d = some x → w.stores.store.held d = some x ∨
    ∃ o, grants d o ∧ w.Knows o ∧ x = w.stores.store.filing ⟨o, w.now⟩ ttl

def Handed {ε : Type} (a : Except ε IssuedTokens) (d : SecretDigest) (o : OwnerId) : Prop :=
  ∃ t, a = .ok t ∧ t.refreshToken.digest = d ∧ t.owner = o

theorem Handed.mapError {ε ε' : Type} {f : ε → ε'} {a : Except ε IssuedTokens} {d : SecretDigest}
    {o : OwnerId} (h : Handed a d o) : Handed (a.mapError f) d o := by
  obtain ⟨t, rfl, hd, ho⟩ := h
  exact ⟨t, rfl, hd, ho⟩

section Step

variable {hasher : PasswordHasher τ Backends} {ttl : Span} {w w' : World τ Backends}
  {grants grants' : SecretDigest → OwnerId → Prop}

theorem RepoBackend.Usable.stays {repo : RepoBackend} (h : repo.Usable hasher) :
    repo.StaysUsable hasher repo := ⟨rfl, h⟩

theorem Yields.serving (hy : Yields hasher ttl w w' grants) : Serving hasher w' :=
  ⟨hy.inCalendar, hy.quiet, hy.repo.usable⟩

theorem Yields.mono (hy : Yields hasher ttl w w' grants) (h : ∀ d o, grants d o → grants' d o) :
    Yields hasher ttl w w' grants' := by
  refine ⟨hy.inCalendar, hy.quiet, hy.place, hy.repo, fun d x hx => ?_⟩
  rcases hy.held d x hx with hbefore | ⟨o, hd, ho⟩
  · exact .inl hbefore
  · exact .inr ⟨o, h d o hd, ho⟩

/-- A step that leaves no record but some of those that were there. -/
theorem Yields.of_shows (h : Serving hasher w) (hnow : w'.now = w.now)
    (hrepo : w.stores.repo.StaysUsable hasher w'.stores.repo)
    {records : SecretDigest → Option Holding}
    (hshows : w.stores.store.Shows w'.stores.store records)
    (hfew : ∀ d x, records d = some x → w.stores.store.held d = some x) :
    Yields hasher ttl w w' grants := by
  refine ⟨?_, hshows.quiet, hshows.place, hrepo, fun d x hx => .inl (hfew d x ?_)⟩
  · rw [hnow]
    exact h.inCalendar
  · rwa [hshows.held] at hx

theorem Yields.of_stores (h : Serving hasher w) (hnow : w'.now = w.now)
    (hstore : w'.stores.store = w.stores.store)
    (hrepo : w.stores.repo.StaysUsable hasher w'.stores.repo) :
    Yields hasher ttl w w' grants := by
  have hshows : w.stores.store.Shows w'.stores.store w.stores.store.held := by
    rw [hstore]
    exact .refl h.quiet
  exact .of_shows h hnow hrepo hshows fun _ _ => id

theorem held_of_update {records : SecretDigest → Option Holding} {d e : SecretDigest} {x : Holding}
    (h : Function.update records d none e = some x) : records e = some x := by
  by_cases he : e = d
  · subst he
    rw [Function.update_self] at h
    cases h
  · rwa [Function.update_of_ne he] at h

/-- A step that files one record and grants it. -/
theorem Yields.of_filing (h : Serving hasher w) (hnow : w'.now = w.now)
    (hrepo : w.stores.repo.StaysUsable hasher w'.stores.repo) {d : SecretDigest} {o : OwnerId}
    (hknown : w.Knows o) {records : SecretDigest → Option Holding}
    (hshows : w.stores.store.Shows w'.stores.store records)
    (hrecords : ∀ e x, records e = some x → Function.update w.stores.store.held d
      (some (w.stores.store.filing ⟨o, w.now⟩ ttl)) e = some x)
    (hgrants : grants d o) : Yields hasher ttl w w' grants := by
  refine ⟨?_, hshows.quiet, hshows.place, hrepo, fun e x hx => ?_⟩
  · rw [hnow]
    exact h.inCalendar
  · rw [hshows.held] at hx
    have hx' := hrecords e x hx
    by_cases he : e = d
    · subst he
      rw [Function.update_self] at hx'
      cases hx'
      exact .inr ⟨o, hgrants, hknown, rfl⟩
    · rw [Function.update_of_ne he] at hx'
      exact .inl hx'

/-! ## The engine -/

section Engine

variable [SteadySource τ] {g : TokenEngine τ Backends} {c : TokenConfig} {access : AccessCodec}
  (hg : g.Made c (.plain access) Backends.refreshStore)
include hg

theorem yields_issue (h : Serving hasher w) (owner : OwnerId) :
    Yields hasher c.refreshTtl w (g.issue owner w).2 (Handed (g.issue owner w).1) := by
  have hends := TokenEngine.issue_ends (w := w.alone) hg.alone h.quiet owner
  rw [TokenEngine.issue_beside hg]
  generalize (g.alone access).issue owner w.alone = ended at hends ⊢
  cases hends with
  | refused hnow hshows => exact .of_shows h hnow h.repo.stays hshows fun _ _ => id
  | undated hnow _ hshows =>
    exact .of_shows h hnow h.repo.stays hshows fun _ _ => held_of_update
  | @granted t w' hnow hnamed howner hsecret hshows =>
    have hgrants : Handed (World.beside w.stores.repo
        ((Except.ok t : Except TokenError IssuedTokens), w')).1 t.refreshToken.digest owner :=
      ⟨t, rfl, rfl, howner⟩
    rw [hsecret] at hgrants
    rw [← hg.ttl]
    exact .of_filing h hnow h.repo.stays (.inl hnamed) hshows (fun _ _ => id) hgrants

theorem yields_rotate (h : Serving hasher w) (secret : RefreshSecret) (expected : Option OwnerId) :
    Yields hasher c.refreshTtl w (g.rotate secret expected w).2
      (Handed (g.rotate secret expected w).1) := by
  have hends := TokenEngine.rotate_ends (w := w.alone) hg.alone h.quiet secret expected
  rw [TokenEngine.rotate_beside hg]
  generalize (g.alone access).rotate secret expected w.alone = ended at hends ⊢
  cases hends with
  | refused hnow hshows => exact .of_shows h hnow h.repo.stays hshows fun _ _ => id
  | failed hnow _ hshows => exact .of_shows h hnow h.repo.stays hshows fun _ _ => held_of_update
  | unsigned hnow _ _ hshows =>
    exact .of_shows h hnow h.repo.stays hshows fun _ _ => held_of_update
  | @granted t w' x hnow hold howner hsecret hshows =>
    have hgrants : Handed (World.beside w.stores.repo
        ((Except.ok t : Except TokenError IssuedTokens), w')).1 t.refreshToken.digest t.owner :=
      ⟨t, rfl, rfl, rfl⟩
    rw [hsecret] at hgrants
    rw [← hg.ttl]
    exact .of_filing h hnow h.repo.stays (.inr ⟨_, x, hold, howner⟩) hshows
      (fun _ _ => held_of_update) hgrants

theorem held_of_rotate_ok (hq : w.stores.store.Quiet) {secret : RefreshSecret}
    {expected : Option OwnerId} {t : IssuedTokens} (h : (g.rotate secret expected w).1 = .ok t) :
    (g.rotate secret expected w).2.stores.store.held secret.digest = none := by
  have hends := TokenEngine.rotate_ends (w := w.alone) hg.alone hq secret expected
  rw [TokenEngine.rotate_beside hg] at h ⊢
  generalize (g.alone access).rotate secret expected w.alone = ended at h hends ⊢
  cases hends with
  | refused => cases h
  | failed => cases h
  | unsigned => cases h
  | granted _ _ _ _ hshows =>
    change RefreshBackend.held _ _ = none
    rw [World.beside, hshows.held, Function.update_self]

theorem revoke_shows (hq : w.stores.store.Quiet) (secret : RefreshSecret) :
    (g.revoke secret w).2.now = w.now ∧ (g.revoke secret w).2.stores.repo = w.stores.repo ∧
      w.stores.store.Shows (g.revoke secret w).2.stores.store
        (Function.update w.stores.store.held secret.digest none) := by
  obtain ⟨-, hleaves⟩ := TokenEngine.revoke_spec (w := w.alone) hg.alone hq secret
  rw [TokenEngine.revoke_beside hg]
  exact ⟨hleaves.now, rfl, hleaves.stores⟩

theorem yields_revoke (h : Serving hasher w) (secret : RefreshSecret) :
    Yields hasher c.refreshTtl w (g.revoke secret w).2 grants := by
  obtain ⟨hnow, hrepo, hshows⟩ := revoke_shows hg h.quiet secret
  exact .of_shows h hnow (hrepo ▸ h.repo.stays) hshows fun _ _ => held_of_update

theorem held_of_revoke (hq : w.stores.store.Quiet) (secret : RefreshSecret) :
    (g.revoke secret w).2.stores.store.held secret.digest = none := by
  rw [(revoke_shows hg hq secret).2.2.held, Function.update_self]

theorem yields_validateRefresh (h : Serving hasher w) (secret : RefreshSecret) :
    Yields hasher c.refreshTtl w (g.validateRefresh secret w).2 grants := by
  obtain ⟨-, hleaves⟩ := TokenEngine.validateRefresh_spec (w := w.alone) hg.alone h.quiet secret
  rw [TokenEngine.validateRefresh_beside hg]
  exact .of_shows h hleaves.now h.repo.stays hleaves.stores fun _ _ => id

end Engine

/-! ## The accounts -/

section Accounts

variable {g : TokenEngine τ Backends} {accounts : Accounts} {username password : String}

theorem RepoBackend.Usable.create {repo : RepoBackend} (h : repo.Usable hasher) {c : Credentials}
    (hnamed : c.owner.isEmpty = false)
    (hchecked : ∀ attempt w, ∃ right, (hasher.check attempt c.passwordHash w).1 = .ok right) :
    repo.StaysUsable hasher (CredentialRepo.backend.create c repo).2 := by
  refine ⟨RepoBackend.isMemory_create c repo, ?_⟩
  obtain ⟨accounts, hshows, husable⟩ := h
  obtain ⟨accounts', hshows', hentered⟩ := RepoBackend.create_spec hshows c
  refine ⟨accounts', hshows', fun username found hfound => ?_⟩
  rcases hentered username found hfound with hbefore | ⟨howner, hhash⟩
  · exact husable username found hbefore
  · rw [howner, hhash]
    exact ⟨hnamed, hchecked⟩

theorem OwnerId.named_of_draw [ByteSource τ] {e e' : τ} {owner : OwnerId}
    (h : OwnerId.draw e = (some owner, e')) : owner.isEmpty = false := by
  rcases hdraw : ByteSource.draw 16 e with ⟨_ | bytes, e₁⟩
  · simp only [OwnerId.draw, Uuid.draw, hdraw] at h
    cases h
  · simp only [OwnerId.draw, Uuid.draw, hdraw, Option.map_some] at h
    cases h
    simpa [OwnerId.isEmpty] using Uuid.text_ne_empty _

theorem World.onStores_create (w : World τ Backends) (c : Credentials) :
    w.onStores (Backends.credentialRepo.create c) =
      ((CredentialRepo.backend.create c w.stores.repo).1, { w with
        stores := ⟨w.stores.store, (CredentialRepo.backend.create c w.stores.repo).2⟩ }) := rfl

variable [SteadySource τ]

/-- A signup leaves the accounts as they are, or creates those of a new owner. -/
theorem signup_leaves (hhasher : hasher.Apart) (w : World τ Backends) (username password : String) :
    let w' := (AuthService.signup ⟨Backends.credentialRepo, hasher, g⟩ username password w).2
    w'.now = w.now ∧ w'.stores.store = w.stores.store ∧
      (w'.stores.repo = w.stores.repo ∨ ∃ owner hash, owner.isEmpty = false ∧
        (hasher.hash password w).1 = .ok hash ∧ w'.stores.repo =
          (CredentialRepo.backend.create ⟨owner, username, hash, w.now⟩ w.stores.repo).2) := by
  intro w'
  simp only [w', AuthService.signup]
  cases AuthService.inputFault? username password with
  | some fault => exact ⟨rfl, rfl, .inl rfl⟩
  | none =>
    obtain ⟨e, hleft⟩ := hhasher.hash password w
    rcases hhash : hasher.hash password w with ⟨hashed, w₁⟩
    rw [hhash] at hleft
    cases hleft
    cases hashed with
    | error x => exact ⟨rfl, rfl, .inl rfl⟩
    | ok hash =>
      simp only [World.onEntropy]
      rcases hdraw : OwnerId.draw e with ⟨_ | owner, e'⟩
      · exact ⟨rfl, rfl, .inl rfl⟩
      · have hnamed := OwnerId.named_of_draw hdraw
        simp only [World.onStores_create]
        cases (CredentialRepo.backend.create ⟨owner, username, hash, w.now⟩ w.stores.repo).1 with
        | error x => exact ⟨rfl, rfl, .inr ⟨owner, hash, hnamed, rfl, rfl⟩⟩
        | ok _ => exact ⟨rfl, rfl, .inr ⟨owner, hash, hnamed, rfl, rfl⟩⟩

theorem yields_signup (hhasher : hasher.Reliable) (h : Serving hasher w)
    (username password : String) :
    Yields hasher ttl w
      (AuthService.signup ⟨Backends.credentialRepo, hasher, g⟩ username password w).2 grants := by
  obtain ⟨hnow, hstore, hrepo⟩ := signup_leaves (g := g) hhasher.toApart w username password
  refine .of_stores h hnow hstore ?_
  rcases hrepo with hrepo | ⟨owner, hash, hnamed, hhash, hrepo⟩
  · rw [hrepo]
    exact h.repo.stays
  · rw [hrepo]
    exact h.repo.create hnamed (hhasher.checked hhash)

theorem login_eq (hasher : PasswordHasher τ Backends) (g : TokenEngine τ Backends)
    (hrepo : w.stores.repo.Shows accounts) (username password : String) :
    ∃ repo : RepoBackend, repo.Shows accounts ∧ repo.isMemory = w.stores.repo.isMemory ∧
      AuthService.login ⟨Backends.credentialRepo, hasher, g⟩ username password w =
        (let w₁ : World τ Backends := { w with stores := ⟨w.stores.store, repo⟩ }
        match accounts username with
        | none => (.error .invalidCredentials, w₁)
        | some found =>
          match hasher.check password found.passwordHash w₁ with
          | (.error x, w₁) => (.error x, w₁)
          | (.ok false, w₁) => (.error .invalidCredentials, w₁)
          | (.ok true, w₁) =>
            ((g.issue found.owner w₁).1.mapError .token, (g.issue found.owner w₁).2)) := by
  obtain ⟨repo, hfind, hshows⟩ := RepoBackend.find_spec hrepo username
  have hplace := RepoBackend.isMemory_find username w.stores.repo
  rw [hfind] at hplace
  refine ⟨repo, hshows, hplace, ?_⟩
  simp only [AuthService.login, World.onStores, Backends.credentialRepo, Backends.onRepo, hfind]
  cases accounts username with
  | none => rfl
  | some found =>
    dsimp only
    rcases hasher.check password found.passwordHash _ with ⟨_ | right, w₁⟩
    · rfl
    · cases right with
      | false => rfl
      | true =>
        dsimp only
        rcases g.issue found.owner w₁ with ⟨_ | _, _⟩ <;> rfl

omit [SteadySource τ] in
theorem Serving.withRepo (h : Serving hasher w) {repo : RepoBackend} (hrepo : repo.Usable hasher) :
    Serving hasher { w with stores := ⟨w.stores.store, repo⟩ } :=
  ⟨h.inCalendar, h.quiet, hrepo⟩

/-- A login is refused, or it is an issue in the world in which the accounts have been looked at. -/
theorem login_issues (hhasher : hasher.Apart) (g : TokenEngine τ Backends)
    (h : w.stores.repo.Usable hasher) (username password : String) :
    ∃ repo, w.stores.repo.StaysUsable hasher repo ∧
      let w₁ : World τ Backends := { w with stores := ⟨w.stores.store, repo⟩ }
      let result := AuthService.login ⟨Backends.credentialRepo, hasher, g⟩ username password w
      (∃ x, result = (.error x, w₁)) ∨ ∃ owner,
        result = ((g.issue owner w₁).1.mapError .token, (g.issue owner w₁).2) := by
  obtain ⟨accounts, hshows, husable⟩ := h
  obtain ⟨repo, hrepo, hplace, hlogin⟩ := login_eq hasher g hshows username password
  refine ⟨repo, ⟨hplace, accounts, hrepo, husable⟩, ?_⟩
  simp only [hlogin]
  cases accounts username with
  | none => exact .inl ⟨_, rfl⟩
  | some found =>
    have hleft := hhasher.check password found.passwordHash
      { w with stores := ⟨w.stores.store, repo⟩ }
    dsimp only
    rcases hcheck : hasher.check password found.passwordHash
      { w with stores := ⟨w.stores.store, repo⟩ } with ⟨right, w₁⟩
    rw [hcheck] at hleft
    cases hleft
    cases right with
    | error x => exact .inl ⟨_, rfl⟩
    | ok right =>
      cases right with
      | false => exact .inl ⟨_, rfl⟩
      | true => exact .inr ⟨found.owner, rfl⟩

theorem yields_login {c : TokenConfig} {access : AccessCodec}
    (hg : g.Made c (.plain access) Backends.refreshStore) (hhasher : hasher.Reliable)
    (h : Serving hasher w) (username password : String) :
    Yields hasher c.refreshTtl w
      (AuthService.login ⟨Backends.credentialRepo, hasher, g⟩ username password w).2
      (Handed (AuthService.login ⟨Backends.credentialRepo, hasher, g⟩ username password w).1) := by
  obtain ⟨repo, hstays, ⟨x, hlogin⟩ | ⟨owner, hlogin⟩⟩ :=
    login_issues hhasher.toApart g h.repo username password
  · rw [hlogin]
    exact .of_stores h rfl rfl hstays
  · have hissue := yields_issue hg (h.withRepo hstays.usable) owner
    have hkept : w.stores.repo.StaysUsable hasher (g.issue owner _).2.stores.repo :=
      ⟨hissue.repo.isMemory.trans hstays.isMemory, hissue.repo.usable⟩
    rw [hlogin]
    exact ⟨hissue.inCalendar, hissue.quiet, hissue.place, hkept,
      (hissue.mono fun _ _ hd => hd.mapError).held⟩

end Accounts

end Step

/-! ## Requests -/

namespace Http

/-- The reply hands out a secret of this digest to an owner. -/
def Reply.Hands (reply : Reply) (d : SecretDigest) (o : OwnerId) : Prop :=
  ∃ (t : IssuedTokens) (now : Instant), reply = .ok (tokensData now t) ∧
    t.refreshToken.digest = d ∧ t.owner = o

theorem hands_of_handed {result : Except AuthError IssuedTokens} {d : SecretDigest} {o : OwnerId}
    (h : Handed result d o) (now : Instant) :
    (answer (tokensData now) (some result)).Hands d o := by
  obtain ⟨t, rfl, hd, ho⟩ := h
  exact ⟨t, now, rfl, hd, ho⟩

end Http

section Serve

variable [SteadySource τ] {hasher : PasswordHasher τ Backends} {g : TokenEngine τ Backends}
  {c : TokenConfig} {access : AccessCodec} {w : World τ Backends}
  (hg : g.Made c (.plain access) Backends.refreshStore)
include hg

theorem yields_serve (hhasher : hasher.Reliable) (h : Serving hasher w) (r : Http.Request) :
    let result := Http.serve (.ofService ⟨Backends.credentialRepo, hasher, g⟩) r w
    Yields hasher c.refreshTtl w result.2 result.1.Hands := by
  intro result
  have hserved := Http.served (.ofService ⟨Backends.credentialRepo, hasher, g⟩) r w
  change Http.Served _ r w result at hserved
  generalize result = served at hserved
  cases hserved with
  | refused => exact .of_stores h rfl rfl h.repo.stays
  | signup username password => exact yields_signup hhasher h username password
  | login username password =>
    exact (yields_login hg hhasher h username password).mono fun _ _ hd =>
      Http.hands_of_handed hd _
  | refresh secret expected =>
    simp only [Http.AuthActions.ofService, AuthService.refresh_eq]
    exact (yields_rotate hg h secret expected).mono fun _ _ hd =>
      Http.hands_of_handed hd.mapError _
  | revoke secret =>
    simp only [Http.AuthActions.ofService, AuthService.revoke_eq]
    exact yields_revoke hg h secret
  | whoami token =>
    simp only [Http.AuthActions.ofService, AuthService.verifyAccess_eq,
      TokenEngine.validateAccess_beside hg]
    exact .of_stores h rfl rfl h.repo.stays

end Serve

end Gatehouse
