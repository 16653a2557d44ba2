import Gatehouse.Http.Service
import Gatehouse.Proofs.Refresh.Leases
import Gatehouse.Proofs.Token.Engine
import Gatehouse.Server

/-!
# Gatehouse.Proofs.Server.Alike

A service with its records in memory and the same service with its records on a server. Their
worlds are `Alike` if all else is the same and the stores keep the same leases. Every operation then
answers alike and leaves worlds that are alike (`Agrees`): what does not touch the store because it
is `Blind`, the engine because it gives a store nothing that the two treat differently, and the
routes because they are made of these.
-/

namespace Gatehouse

variable {τ α β : Type} {p : String} {ttl : Span}

/-- The stores in memory and on a server under `p` keep the same leases. -/
structure Twins (p : String) (leases : Leases) (b b' : RefreshBackend) : Prop where
  memory : b.Keeps none leases
  server : b'.Keeps (some p) leases

/-- Worlds that are the same but for the place of the records. -/
inductive Alike (p : String) : World τ Backends → World τ Backends → Prop where
  | intro {now : Instant} {e : τ} {repo : RepoBackend} {b b' : RefreshBackend}
      {leases : Leases} (hnow : Instant.inCalendar now.secs = true) (h : Twins p leases b b') :
      Alike p ⟨now, e, b, repo⟩ ⟨now, e, b', repo⟩

theorem Alike.now_eq {w w' : World τ Backends} (h : Alike p w w') : w'.now = w.now := by
  cases h
  rfl

/-- While the clock in memory can tell when a lifetime is over, the operation answers alike in
worlds that are alike. -/
def Agrees (p : String) (ttl : Span) (f : World τ Backends → α × World τ Backends) : Prop :=
  ∀ w w', Alike p w w' → w.stores.store.canDate ttl = true →
    (f w).1 = (f w').1 ∧ Alike p (f w).2 (f w').2

/-- The operation has nothing to do with refresh records. -/
def Blind (f : World τ Backends → α × World τ Backends) : Prop :=
  ∀ now e repo, ∃ a e' repo', ∀ b, f ⟨now, e, b, repo⟩ = (a, ⟨now, e', b, repo'⟩)

theorem Blind.agrees {f : World τ Backends → α × World τ Backends} (hf : Blind f) :
    Agrees p ttl f := by
  rintro _ _ ⟨hnow, h⟩ -
  obtain ⟨a, e', repo', hf⟩ := hf _ _ _
  rw [hf, hf]
  exact ⟨rfl, .intro hnow h⟩

theorem Agrees.reply {f : World τ Backends → α × World τ Backends} (hf : Agrees p ttl f)
    {g : World τ Backends → β × World τ Backends} (k : α → Instant → β)
    (hg : ∀ w, g w = (k (f w).1 (f w).2.now, (f w).2)) : Agrees p ttl g := by
  intro w w' h hdate
  obtain ⟨hanswer, hworlds⟩ := hf w w' h hdate
  rw [hg, hg]
  exact ⟨by rw [hanswer, hworlds.now_eq], hworlds⟩

/-! ## What is blind -/

theorem blind_entropy (f : τ → α × τ) : Blind (World.onEntropy f) :=
  fun _ e repo => ⟨(f e).1, (f e).2, repo, fun _ => rfl⟩

theorem blind_repo (f : RepoBackend → α × RepoBackend) :
    Blind (World.onStores (Backends.onRepo f) : World τ Backends → α × World τ Backends) :=
  fun _ e repo => ⟨(f repo).1, e, (f repo).2, fun _ => rfl⟩

structure PasswordHasher.IsBlind (h : PasswordHasher τ Backends) : Prop where
  hash : ∀ password, Blind (h.hash password)
  check : ∀ password hash, Blind (h.check password hash)

theorem PasswordHasher.isBlind_argon2With [ByteSource τ] (d : Argon2.Derivation) :
    (argon2With d : PasswordHasher τ Backends).IsBlind where
  hash password now e repo := by
    obtain ⟨salt, e', repo', hdraw⟩ := blind_entropy (ByteSource.draw Argon2.newSaltSize) now e repo
    cases salt with
    | none => exact ⟨_, e', repo', fun b => by simp only [argon2With, hdraw]; rfl⟩
    | some salt =>
      by_cases hlong : Argon2.longestPassword < Utf8.size password
      · exact ⟨_, e', repo', fun b => by simp only [argon2With, hdraw, if_pos hlong]; rfl⟩
      · exact ⟨_, e', repo', fun b => by simp only [argon2With, hdraw, if_neg hlong]; rfl⟩
  check _ _ _ e repo := ⟨_, e, repo, fun _ => rfl⟩

/-! ## The stores -/

namespace Twins

variable {leases : Leases} {b b' : RefreshBackend}

theorem canDate_server (h : Twins p leases b b') (ttl : Span) : b'.canDate ttl = true := by
  have hplace := h.server.place
  cases b' with
  | memory s => cases hplace
  | remote q l => rfl

theorem delete (h : Twins p leases b b') (d : SecretDigest) :
    ∃ b₁ b₁', b.delete d = (.ok (), b₁) ∧ b'.delete d = (.ok (), b₁') ∧
      Twins p (Function.update leases d none) b₁ b₁' := by
  obtain ⟨ha, hb⟩ := h.memory.delete d
  obtain ⟨ha', hb'⟩ := h.server.delete d
  exact ⟨_, _, Prod.ext ha rfl, Prod.ext ha' rfl, hb, hb'⟩

/-- The records may differ in the fraction of the second in which they were made. -/
theorem get (h : Twins p leases b b') (ttl : Span) (d : SecretDigest) :
    ∃ b₁ b₁', Twins p leases b₁ b₁' ∧ b₁.canDate ttl = b.canDate ttl ∧
      ((b.get d = (.error .notFound, b₁) ∧ b'.get d = (.error .notFound, b₁')) ∨
        ∃ l t t', leases d = some l ∧ b.get d = (.ok ⟨l.owner, t⟩, b₁) ∧
          b'.get d = (.ok ⟨l.owner, t'⟩, b₁')) := by
  obtain ⟨hb, ha⟩ := h.memory.get d
  obtain ⟨hb', ha'⟩ := h.server.get d
  refine ⟨_, _, ⟨hb, hb'⟩, (RefreshBackend.get_spec h.memory.quiet d).2.canDate ttl, ?_⟩
  cases hd : leases d with
  | none =>
    rw [hd] at ha ha'
    exact .inl ⟨Prod.ext ha rfl, Prod.ext ha' rfl⟩
  | some l =>
    rw [hd] at ha ha'
    obtain ⟨t, ha⟩ := ha
    obtain ⟨t', ha'⟩ := ha'
    exact .inr ⟨l, t, t', rfl, Prod.ext ha rfl, Prod.ext ha' rfl⟩

variable {secs : Nat}

theorem put (h : Twins p leases b b') (ht : ttl.Storable) (hsecs : ttl = .ofSecs secs)
    (hdate : b.canDate ttl = true) (d : SecretDigest) {owner : OwnerId} {now : Instant}
    (hnamed : owner.isEmpty = false) (hnow : Instant.inCalendar now.secs = true) :
    ∃ a b₁ b₁' leases', b.put d ⟨owner, now⟩ ttl = (a, b₁) ∧ b'.put d ⟨owner, now⟩ ttl = (a, b₁') ∧
      Twins p leases' b₁ b₁' := by
  obtain ⟨ha, hb⟩ := h.memory.put ht hsecs hdate d hnamed hnow
  obtain ⟨ha', hb'⟩ := h.server.put ht hsecs (h.canDate_server ttl) d hnamed hnow
  exact ⟨_, _, _, _, Prod.ext ha rfl, Prod.ext ha' rfl, hb, hb'⟩

theorem rotate (h : Twins p leases b b') (ht : ttl.Storable) (hsecs : ttl = .ofSecs secs)
    (hdate : b.canDate ttl = true) {old : SecretDigest} (new : SecretDigest)
    {expected : Option OwnerId} {now : Instant}
    (hexp : ∀ l, leases old = some l → TokenEngine.Accepts expected l.owner)
    (hnow : Instant.inCalendar now.secs = true) :
    ∃ a b₁ b₁' leases', b.rotate old new expected now ttl = (a, b₁) ∧
      b'.rotate old new expected now ttl = (a, b₁') ∧ Twins p leases' b₁ b₁' := by
  obtain ⟨ha, hb⟩ := h.memory.rotate ht hsecs hdate new
    (fun l hl => TokenEngine.refuses_eq_false (hexp l hl)) hnow
  obtain ⟨ha', hb'⟩ := h.server.rotate ht hsecs (h.canDate_server ttl) new
    (fun l hl => TokenEngine.refuses_eq_false (hexp l hl)) hnow
  exact ⟨_, _, _, _, Prod.ext ha rfl, Prod.ext ha' rfl, hb, hb'⟩

end Twins

theorem World.onStores_onStore {f : RefreshBackend → α × RefreshBackend} {a : α}
    {b b₁ : RefreshBackend} (h : f b = (a, b₁)) (now : Instant) (e : τ) (repo : RepoBackend) :
    World.onStores (Backends.onStore f) ⟨now, e, b, repo⟩ = (a, ⟨now, e, b₁, repo⟩) := by
  simp only [World.onStores, Backends.onStore, h]

/-! ## The engine -/

namespace TokenEngine

variable [ByteSource τ] {g : TokenEngine τ Backends} {c : TokenConfig} {access : AccessCodec}
  {secs : Nat} {leases : Leases} {now : Instant} {e : τ} {repo : RepoBackend}
  {b b' : RefreshBackend}

theorem discard_alike (hg : g.Made c (.plain access) Backends.refreshStore)
    (hnow : Instant.inCalendar now.secs = true) (h : Twins p leases b b') (d : SecretDigest) :
    Alike p (g.discard d ⟨now, e, b, repo⟩) (g.discard d ⟨now, e, b', repo⟩) := by
  obtain ⟨b₁, b₁', hdelete, hdelete', h₁⟩ := h.delete d
  simp only [discard, hg.store, Backends.refreshStore, RefreshStore.backend,
    World.onStores_onStore hdelete, World.onStores_onStore hdelete']
  exact .intro hnow h₁

theorem agrees_issue (hg : g.Made c (.plain access) Backends.refreshStore)
    (hsecs : c.refreshTtl = .ofSecs secs) (owner : OwnerId) :
    Agrees p c.refreshTtl (g.issue owner) := by
  rintro _ _ ⟨hnow, h⟩ hdate
  rename_i now e repo b b' leases
  cases hnamed : owner.isEmpty with
  | true =>
    simp only [issue, hnamed, if_true]
    exact ⟨trivial, .intro hnow h⟩
  | false =>
    simp only [issue, hnamed, hg.ttl, Bool.false_eq_true, if_false]
    cases now.later? c.refreshTtl with
    | none => exact ⟨rfl, .intro hnow h⟩
    | some refreshEnd =>
      obtain ⟨drawn, e₁, repo₁, hdraw⟩ :=
        blind_entropy (RefreshSecret.draw g.secretBytes) now e repo
      simp only [hdraw]
      cases drawn with
      | error x => exact ⟨rfl, .intro hnow h⟩
      | ok secret =>
        obtain ⟨signed, e₂, repo₂, hsign⟩ := blind_entropy (access.sign owner now) now e₁ repo₁
        simp only [hg.codec, TokenCodec.plain, hsign]
        cases signed with
        | error x => exact ⟨rfl, .intro hnow h⟩
        | ok signed =>
          obtain ⟨a, b₁, b₁', leases', hput, hput', h₁⟩ :=
            h.put hg.admitted.storable hsecs hdate secret.digest hnamed hnow
          simp only [hg.store, Backends.refreshStore, RefreshStore.backend,
            World.onStores_onStore hput, World.onStores_onStore hput']
          cases a with
          | ok _ => exact ⟨rfl, .intro hnow h₁⟩
          | error x =>
            cases x with
            | failed fault => exact ⟨rfl, discard_alike hg hnow h₁ secret.digest⟩
            | notFound => exact ⟨rfl, .intro hnow h₁⟩
            | ownerMismatch => exact ⟨rfl, .intro hnow h₁⟩
            | alreadyExists => exact ⟨rfl, .intro hnow h₁⟩

theorem agrees_validateRefresh (hg : g.Made c (.plain access) Backends.refreshStore)
    (secret : RefreshSecret) : Agrees p c.refreshTtl (g.validateRefresh secret) := by
  rintro _ _ ⟨hnow, h⟩ -
  obtain ⟨b₁, b₁', h₁, -, hget⟩ := h.get c.refreshTtl secret.digest
  rcases hget with ⟨hget, hget'⟩ | ⟨l, t, t', -, hget, hget'⟩ <;>
    simp only [validateRefresh, hg.store, Backends.refreshStore, RefreshStore.backend,
      World.onStores_onStore hget, World.onStores_onStore hget'] <;>
    exact ⟨trivial, .intro hnow h₁⟩

theorem agrees_revoke (hg : g.Made c (.plain access) Backends.refreshStore)
    (secret : RefreshSecret) : Agrees p c.refreshTtl (g.revoke secret) := by
  rintro _ _ ⟨hnow, h⟩ -
  obtain ⟨b₁, b₁', hdelete, hdelete', h₁⟩ := h.delete secret.digest
  simp only [revoke, hg.store, Backends.refreshStore, RefreshStore.backend,
    World.onStores_onStore hdelete, World.onStores_onStore hdelete']
  exact ⟨trivial, .intro hnow h₁⟩

theorem agrees_validateAccess (hg : g.Made c (.plain access) Backends.refreshStore)
    (token : String) : Agrees p c.refreshTtl (g.validateAccess token) := by
  refine Blind.agrees fun now e repo => ⟨access.verify token now, e, repo, fun b => ?_⟩
  simp only [validateAccess, hg.codec, TokenCodec.plain]

theorem replace_agrees (hg : g.Made c (.plain access) Backends.refreshStore)
    (hsecs : c.refreshTtl = .ofSecs secs) (hnow : Instant.inCalendar now.secs = true)
    (h : Twins p leases b b') (hdate : b.canDate c.refreshTtl = true) {old : SecretDigest}
    {expected : Option OwnerId} (hexp : ∀ l, leases old = some l → Accepts expected l.owner) :
    (g.replace old expected ⟨now, e, b, repo⟩).1 = (g.replace old expected ⟨now, e, b', repo⟩).1 ∧
      Alike p (g.replace old expected ⟨now, e, b, repo⟩).2
        (g.replace old expected ⟨now, e, b', repo⟩).2 := by
  simp only [replace, hg.ttl]
  cases now.later? c.refreshTtl with
  | none => exact ⟨rfl, .intro hnow h⟩
  | some refreshEnd =>
    obtain ⟨drawn, e₁, repo₁, hdraw⟩ := blind_entropy (RefreshSecret.draw g.secretBytes) now e repo
    simp only [hdraw]
    cases drawn with
    | error x => exact ⟨rfl, .intro hnow h⟩
    | ok secret =>
      obtain ⟨a, b₁, b₁', leases', hrotate, hrotate', h₁⟩ :=
        h.rotate hg.admitted.storable hsecs hdate secret.digest hexp hnow
      simp only [hg.store, Backends.refreshStore, RefreshStore.backend,
        World.onStores_onStore hrotate, World.onStores_onStore hrotate']
      cases a with
      | error x =>
        cases x with
        | failed fault => exact ⟨rfl, discard_alike hg hnow h₁ secret.digest⟩
        | notFound => exact ⟨rfl, .intro hnow h₁⟩
        | ownerMismatch => exact ⟨rfl, .intro hnow h₁⟩
        | alreadyExists => exact ⟨rfl, .intro hnow h₁⟩
      | ok record =>
        obtain ⟨signed, e₂, repo₂, hsign⟩ :=
          blind_entropy (access.sign record.owner now) now e₁ repo₁
        simp only [hg.codec, TokenCodec.plain, hsign]
        cases signed with
        | ok signed => exact ⟨rfl, .intro hnow h₁⟩
        | error x =>
          by_cases hx : x = .aborted
          · subst hx
            exact ⟨rfl, .intro hnow h₁⟩
          · simp only
            exact ⟨trivial, discard_alike hg hnow h₁ secret.digest⟩

/-- The engine asks for the owner itself before it lets the store look, so an owner that a server
would take for none is refused on either backend. -/
theorem agrees_rotate (hg : g.Made c (.plain access) Backends.refreshStore)
    (hsecs : c.refreshTtl = .ofSecs secs) (secret : RefreshSecret) (expected : Option OwnerId) :
    Agrees p c.refreshTtl (g.rotate secret expected) := by
  rintro _ _ ⟨hnow, h⟩ hdate
  obtain ⟨b₁, b₁', h₁, hdate₁, hget⟩ := h.get c.refreshTtl secret.digest
  rcases hget with ⟨hget, hget'⟩ | ⟨l, t, t', hl, hget, hget'⟩
  · simp only [rotate, hg.store, Backends.refreshStore, RefreshStore.backend,
      World.onStores_onStore hget, World.onStores_onStore hget']
    exact ⟨trivial, .intro hnow h₁⟩
  · simp only [rotate, hg.store, Backends.refreshStore, RefreshStore.backend,
      World.onStores_onStore hget, World.onStores_onStore hget']
    cases hexp : expected.any fun o => o ≠ l.owner with
    | true => exact ⟨rfl, .intro hnow h₁⟩
    | false =>
      refine replace_agrees hg hsecs hnow h₁ (hdate₁.trans hdate) fun l' hl' => ?_
      cases hl.symm.trans hl'
      exact any_ne_eq_false_iff.mp hexp

theorem agrees_apply (hg : g.Made c (.plain access) Backends.refreshStore)
    (hsecs : c.refreshTtl = .ofSecs secs) (call : TokenCall) :
    Agrees p c.refreshTtl (call.apply g) := by
  cases call with
  | issue owner => exact (agrees_issue hg hsecs owner).reply (fun a _ => a.map .tokens) fun _ => rfl
  | validateRefresh secret =>
    exact (agrees_validateRefresh hg secret).reply (fun a _ => a.map .owner) fun _ => rfl
  | rotate secret expected =>
    exact (agrees_rotate hg hsecs secret expected).reply (fun a _ => a.map .tokens) fun _ => rfl
  | revoke secret =>
    exact (agrees_revoke hg secret).reply (fun a _ => a.map fun _ => .done) fun _ => rfl

end TokenEngine

/-! ## The service -/

namespace AuthService

variable [ByteSource τ] {g : TokenEngine τ Backends} {c : TokenConfig} {access : AccessCodec}
  {secs : Nat} {hasher : PasswordHasher τ Backends}

theorem blind_signup (hhasher : hasher.IsBlind) (username password : String) :
    Blind (signup ⟨Backends.credentialRepo, hasher, g⟩ username password) := by
  intro now e repo
  cases hinput : inputFault? username password with
  | some fault => exact ⟨_, e, repo, fun b => by simp only [signup, hinput]; rfl⟩
  | none =>
    obtain ⟨hashed, e₁, repo₁, hhash⟩ := hhasher.hash password now e repo
    cases hashed with
    | error x => exact ⟨_, e₁, repo₁, fun b => by simp only [signup, hinput, hhash]; rfl⟩
    | ok hash =>
      obtain ⟨owner, e₂, repo₂, hdraw⟩ := blind_entropy OwnerId.draw now e₁ repo₁
      cases owner with
      | none => exact ⟨_, e₂, repo₂, fun b => by simp only [signup, hinput, hhash, hdraw]; rfl⟩
      | some owner =>
        obtain ⟨created, e₃, repo₃, hcreate⟩ := blind_repo
          (CredentialRepo.backend.create ⟨owner, username, hash, now⟩) now e₂ repo₂
        cases created <;>
          exact ⟨_, e₃, repo₃, fun b => by
            simp only [signup, hinput, hhash, hdraw, Backends.credentialRepo, hcreate]; rfl⟩

theorem agrees_login (hg : g.Made c (.plain access) Backends.refreshStore)
    (hsecs : c.refreshTtl = .ofSecs secs) (hhasher : hasher.IsBlind) (username password : String) :
    Agrees p c.refreshTtl (login ⟨Backends.credentialRepo, hasher, g⟩ username password) := by
  rintro _ _ ⟨hnow, h⟩ hdate
  rename_i now e repo b b' leases
  obtain ⟨found, e₁, repo₁, hfind⟩ :=
    blind_repo (CredentialRepo.backend.find username) now e repo
  simp only [login, Backends.credentialRepo, hfind]
  cases found with
  | error x => exact ⟨rfl, .intro hnow h⟩
  | ok found =>
    cases found with
    | none => exact ⟨rfl, .intro hnow h⟩
    | some found =>
      obtain ⟨right, e₂, repo₂, hcheck⟩ := hhasher.check password found.passwordHash now e₁ repo₁
      simp only [hcheck]
      cases right with
      | error x => exact ⟨rfl, .intro hnow h⟩
      | ok right =>
        cases right with
        | false => exact ⟨rfl, .intro hnow h⟩
        | true =>
          have hissue := TokenEngine.agrees_issue hg hsecs found.owner
            ⟨now, e₂, b, repo₂⟩ ⟨now, e₂, b', repo₂⟩ (.intro hnow h) hdate
          rcases hx : g.issue found.owner ⟨now, e₂, b, repo₂⟩ with ⟨x, w₁⟩
          rcases hx' : g.issue found.owner ⟨now, e₂, b', repo₂⟩ with ⟨x', w₁'⟩
          rw [hx, hx'] at hissue
          obtain ⟨rfl, hworlds⟩ := hissue
          simp only [hx, hx']
          cases x <;> exact ⟨rfl, hworlds⟩

theorem agrees_refresh (hg : g.Made c (.plain access) Backends.refreshStore)
    (hsecs : c.refreshTtl = .ofSecs secs) (secret : RefreshSecret) (expected : Option OwnerId) :
    Agrees p c.refreshTtl (refresh ⟨Backends.credentialRepo, hasher, g⟩ secret expected) := by
  refine (TokenEngine.agrees_rotate hg hsecs secret expected).reply
    (fun a _ => a.mapError .token) fun w => ?_
  simp only [refresh]
  rcases g.rotate secret expected w with ⟨_ | _, _⟩ <;> rfl

theorem agrees_revoke (hg : g.Made c (.plain access) Backends.refreshStore)
    (secret : RefreshSecret) :
    Agrees p c.refreshTtl (revoke ⟨Backends.credentialRepo, hasher, g⟩ secret) := by
  refine (TokenEngine.agrees_revoke hg secret).reply (fun a _ => a.mapError .token) fun w => ?_
  simp only [revoke]
  rcases g.revoke secret w with ⟨_ | _, _⟩ <;> rfl

theorem agrees_verifyAccess (hg : g.Made c (.plain access) Backends.refreshStore)
    (token : String) :
    Agrees p c.refreshTtl (verifyAccess ⟨Backends.credentialRepo, hasher, g⟩ token) := by
  refine (TokenEngine.agrees_validateAccess hg token).reply
    (fun a _ => a.mapError .token) fun w => ?_
  simp only [verifyAccess]
  rcases g.validateAccess token w with ⟨_ | _, _⟩ <;> rfl

end AuthService

/-! ## The routes -/

namespace Http

variable {g : TokenEngine τ Backends} {c : TokenConfig} {access : AccessCodec} {secs : Nat}
  {hasher : PasswordHasher τ Backends}

theorem agrees_withBody (r : Request) (read? : Json → Option α)
    {f : α → World τ Backends → Reply × World τ Backends} (hf : ∀ a, Agrees p ttl (f a)) :
    Agrees p ttl (withBody r read? f) := by
  intro w w' h hdate
  simp only [withBody]
  cases (jsonBody? r).bind read? with
  | none => exact ⟨rfl, h⟩
  | some a => exact hf a w w' h hdate

theorem agrees_serve [ByteSource τ] (hg : g.Made c (.plain access) Backends.refreshStore)
    (hsecs : c.refreshTtl = .ofSecs secs) (hhasher : hasher.IsBlind) (r : Request) :
    Agrees p c.refreshTtl (serve (.ofService ⟨Backends.credentialRepo, hasher, g⟩) r) := by
  intro w w' h hdate
  simp only [serve]
  cases Route.find r with
  | error refusal => exact ⟨rfl, h⟩
  | ok route =>
    revert w w'
    cases route with
    | signup =>
      exact agrees_withBody r readCredentials? fun (username, password) =>
        (AuthService.blind_signup hhasher username password).agrees.reply
          (fun a _ => answer ownerData (some a)) fun _ => rfl
    | login =>
      exact agrees_withBody r readCredentials? fun (username, password) =>
        (AuthService.agrees_login hg hsecs hhasher username password).reply
          (fun a now => answer (tokensData now) (some a)) fun _ => rfl
    | refresh =>
      exact agrees_withBody r readRefresh? fun (secret, expected) =>
        (AuthService.agrees_refresh hg hsecs secret expected).reply
          (fun a now => answer (tokensData now) (some a)) fun _ => rfl
    | revoke =>
      exact agrees_withBody r readRevoke? fun secret =>
        (AuthService.agrees_revoke hg secret).reply
          (fun a _ => answer (fun _ => revokedData) (some a)) fun _ => rfl
    | whoami =>
      intro w w' h hdate
      simp only [serveRoute]
      cases bearer r with
      | error refusal => exact ⟨rfl, h⟩
      | ok token =>
        have hverify : Agrees p c.refreshTtl
            (AuthService.verifyAccess ⟨Backends.credentialRepo, hasher, g⟩ token) :=
          AuthService.agrees_verifyAccess hg token
        obtain ⟨hanswer, hworlds⟩ := hverify w w' h hdate
        exact ⟨congrArg (fun a => answer ownerData (some a)) hanswer, hworlds⟩

end Http
end Gatehouse
