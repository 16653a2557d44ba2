import Gatehouse.Http.Service
import Gatehouse.Proofs.Accounts.Memory
import Gatehouse.Proofs.Run
import Gatehouse.Proofs.Watch.Retold

/-!
# Gatehouse.Proofs.Server.Texts

The texts of errors never reach a client. A service under watch is run twice, with failures of the
same kinds for the same calls that are told in other words. The engine and the service take their
course by the kind of an error alone (`oblivious_issue`, `oblivious_rotate`, `oblivious_login`), and
so do the replies (`retold_serve`); so the two runs are the same, but for the words
(`texts_stay_inside`).
-/

namespace Gatehouse

open Watch (Watched Faults)

variable {τ σ ρ α : Type}

/-! ## The engine -/

namespace TokenEngine

variable {g : TokenEngine τ (Watched σ ρ)}

theorem retold_discard (hstore : g.store.Oblivious) (d : SecretDigest)
    {w w' : World τ (Watched σ ρ)} (hw : w.Retold w') : (g.discard d w).Retold (g.discard d w') :=
  (Oblivious.onStores (hstore.delete d) w w' hw).state

theorem oblivious_revoke (hstore : g.store.Oblivious) (secret : RefreshSecret) :
    Oblivious TokenError.Retold (g.revoke secret) := by
  intro w w' hw
  have hdelete := Oblivious.onStores (hstore.delete secret.digest) w w' hw
  simp only [revoke]
  generalize w.onStores _ = done at hdelete ⊢
  generalize w'.onStores _ = done' at hdelete ⊢
  cases hdelete with
  | ok _ hw => exact .ok _ hw
  | error he hw => exact .error he.ofStore hw

variable [ByteSource τ]

theorem oblivious_issue (hcodec : g.codec.Oblivious) (hstore : g.store.Oblivious)
    (owner : OwnerId) : Oblivious TokenError.Retold (g.issue owner) := by
  rintro _ _ ⟨hp⟩
  rename_i now e p p'
  cases hnamed : owner.isEmpty with
  | true =>
    simp only [issue, hnamed, if_true]
    exact .error (.refl _) (.intro hp)
  | false =>
    simp only [issue, hnamed, Bool.false_eq_true, if_false]
    cases now.later? g.refreshTtl with
    | none => exact .error (.refl _) (.intro hp)
    | some refreshEnd =>
      simp only [World.onEntropy]
      rcases RefreshSecret.draw g.secretBytes e with ⟨x | secret, e⟩
      · exact .error (.refl _) (.intro hp)
      · have hsign := hcodec.sign owner now ⟨now, e, p⟩ ⟨now, e, p'⟩ (.intro hp)
        simp only
        generalize g.codec.sign owner now ⟨now, e, p⟩ = signed at hsign ⊢
        generalize g.codec.sign owner now ⟨now, e, p'⟩ = signed' at hsign ⊢
        cases hsign with
        | error he hw => exact .error he hw
        | @ok access w w' hw =>
          have hput := Oblivious.onStores
            (hstore.put secret.digest ⟨owner, now⟩ g.refreshTtl) w w' hw
          simp only
          generalize w.onStores _ = put at hput ⊢
          generalize w'.onStores _ = put' at hput ⊢
          cases hput with
          | ok _ hw => exact .ok _ hw
          | @error x _ _ _ he hw =>
            cases he with
            | failed fault fault' =>
              exact .error (.storage _ _) (retold_discard hstore secret.digest hw)
            | refl =>
              cases x with
              | failed fault => exact .error (.refl _) (retold_discard hstore secret.digest hw)
              | _ => exact .error (.refl _) hw

theorem oblivious_replace (hcodec : g.codec.Oblivious) (hstore : g.store.Oblivious)
    (old : SecretDigest) (expected : Option OwnerId) :
    Oblivious TokenError.Retold (g.replace old expected) := by
  rintro _ _ ⟨hp⟩
  rename_i now e p p'
  simp only [replace]
  cases now.later? g.refreshTtl with
  | none => exact .error (.refl _) (.intro hp)
  | some refreshEnd =>
    simp only [World.onEntropy]
    rcases RefreshSecret.draw g.secretBytes e with ⟨x | secret, e⟩
    · exact .error (.refl _) (.intro hp)
    · have hrotate := Oblivious.onStores
        (hstore.rotate old secret.digest expected now g.refreshTtl)
        ⟨now, e, p⟩ ⟨now, e, p'⟩ (.intro hp)
      simp only
      generalize World.onStores _ ⟨now, e, p⟩ = moved at hrotate ⊢
      generalize World.onStores _ ⟨now, e, p'⟩ = moved' at hrotate ⊢
      cases hrotate with
      | @error x _ _ _ he hw =>
        cases he with
        | failed fault fault' =>
          exact .error (.storage _ _) (retold_discard hstore secret.digest hw)
        | refl =>
          cases x with
          | failed fault => exact .error (.refl _) (retold_discard hstore secret.digest hw)
          | _ => exact .error (.refl _) hw
      | @ok record w w' hw =>
        have hsign := hcodec.sign record.owner now w w' hw
        simp only
        generalize g.codec.sign record.owner now w = signed at hsign ⊢
        generalize g.codec.sign record.owner now w' = signed' at hsign ⊢
        cases hsign with
        | ok access hw => exact .ok _ hw
        | @error x _ _ _ he hw =>
          -- whether the new record is removed depends on the kind of the failure alone
          have hdiscard := retold_discard hstore secret.digest hw
          cases he with
          | refl =>
            cases x with
            | aborted => exact .error (.refl _) hw
            | _ => exact .error (.refl _) hdiscard
          | generation => exact .error (.generation _ _) hdiscard
          | storage => exact .error (.storage _ _) hdiscard
          | config => exact .error (.config _ _) hdiscard

theorem oblivious_rotate (hcodec : g.codec.Oblivious) (hstore : g.store.Oblivious)
    (secret : RefreshSecret) (expected : Option OwnerId) :
    Oblivious TokenError.Retold (g.rotate secret expected) := by
  intro w w' hw
  have hget := Oblivious.onStores (hstore.get secret.digest) w w' hw
  simp only [rotate]
  generalize w.onStores _ = found at hget ⊢
  generalize w'.onStores _ = found' at hget ⊢
  cases hget with
  | error he hw => exact .error he.ofStore hw
  | ok record hw =>
    simp only
    split
    · exact .error (.refl _) hw
    · exact oblivious_replace hcodec hstore secret.digest expected _ _ hw

end TokenEngine

/-! ## The service -/

namespace AuthService

/-- Every part of the service takes its course by the kind of an error alone. -/
structure Oblivious (a : AuthService τ (Watched σ ρ)) : Prop where
  repo : a.repo.Oblivious
  hasher : a.hasher.Oblivious
  codec : a.engine.codec.Oblivious
  store : a.engine.store.Oblivious

variable {a : AuthService τ (Watched σ ρ)}

theorem oblivious_verifyAccess (ha : a.Oblivious) (token : String) :
    Gatehouse.Oblivious AuthError.Retold (a.verifyAccess token) := by
  intro w w' hw
  rw [verifyAccess_eq, verifyAccess_eq]
  exact (ha.codec.verify token w w' hw).mapError fun _ _ => .token

theorem oblivious_revoke (ha : a.Oblivious) (secret : RefreshSecret) :
    Gatehouse.Oblivious AuthError.Retold (a.revoke secret) := by
  intro w w' hw
  rw [revoke_eq, revoke_eq]
  exact (TokenEngine.oblivious_revoke ha.store secret w w' hw).mapError fun _ _ => .token

variable [ByteSource τ]

theorem oblivious_signup (ha : a.Oblivious) (username password : String) :
    Gatehouse.Oblivious AuthError.Retold (a.signup username password) := by
  intro w w' hw
  simp only [signup]
  cases inputFault? username password with
  | some fault => exact .error (.refl _) hw
  | none =>
    have hhash := ha.hasher.hash password w w' hw
    simp only
    generalize a.hasher.hash password w = hashed at hhash ⊢
    generalize a.hasher.hash password w' = hashed' at hhash ⊢
    cases hhash with
    | error he hw => exact .error he hw
    | ok hash hw =>
      obtain ⟨hp⟩ := hw
      rename_i now e p p'
      simp only [World.onEntropy]
      rcases OwnerId.draw e with ⟨_ | owner, e⟩
      · exact .error (.refl _) (.intro hp)
      · have hcreate := Gatehouse.Oblivious.onStores
          (ha.repo.create ⟨owner, username, hash, now⟩) ⟨now, e, p⟩ ⟨now, e, p'⟩ (.intro hp)
        simp only
        generalize World.onStores _ ⟨now, e, p⟩ = created at hcreate ⊢
        generalize World.onStores _ ⟨now, e, p'⟩ = created' at hcreate ⊢
        cases hcreate with
        | ok _ hw => exact .ok _ hw
        | error he hw => exact .error he.ofRepo hw

theorem oblivious_login (ha : a.Oblivious) (username password : String) :
    Gatehouse.Oblivious AuthError.Retold (a.login username password) := by
  intro w w' hw
  have hfind := Gatehouse.Oblivious.onStores (ha.repo.find username) w w' hw
  simp only [login]
  generalize w.onStores _ = found at hfind ⊢
  generalize w'.onStores _ = found' at hfind ⊢
  cases hfind with
  | error he hw => exact .error he.ofRepo hw
  | @ok found w w' hw =>
    cases found with
    | none => exact .error (.refl _) hw
    | some found =>
      have hcheck := ha.hasher.check password found.passwordHash w w' hw
      simp only
      generalize a.hasher.check password found.passwordHash w = right at hcheck ⊢
      generalize a.hasher.check password found.passwordHash w' = right' at hcheck ⊢
      cases hcheck with
      | error he hw => exact .error he hw
      | @ok right w w' hw =>
        cases right with
        | false => exact .error (.refl _) hw
        | true =>
          have hissue := TokenEngine.oblivious_issue ha.codec ha.store found.owner w w' hw
          simp only
          generalize a.engine.issue found.owner w = issued at hissue ⊢
          generalize a.engine.issue found.owner w' = issued' at hissue ⊢
          cases hissue with
          | ok tokens hw => exact .ok _ hw
          | error he hw => exact .error (.token he) hw

theorem oblivious_refresh (ha : a.Oblivious) (secret : RefreshSecret)
    (expected : Option OwnerId) :
    Gatehouse.Oblivious AuthError.Retold (a.refresh secret expected) := by
  intro w w' hw
  rw [refresh_eq, refresh_eq]
  exact (TokenEngine.oblivious_rotate ha.codec ha.store secret expected w w' hw).mapError
    fun _ _ => .token

end AuthService

/-! ## The routes -/

namespace Http

variable {a : AuthService τ (Watched σ ρ)} {w w' : World τ (Watched σ ρ)}

theorem answer_eq (data : Instant → α → Json) {r r' : Except AuthError α × World τ (Watched σ ρ)}
    (h : Same AuthError.Retold World.Retold r r') :
    answer (data r.2.now) (some r.1) = answer (data r'.2.now) (some r'.1) := by
  rw [h.state.now_eq]
  cases h with
  | ok x _ => rfl
  | error he _ => simp only [answer, he.code]

theorem retold_withBody (r : Request) (read? : Json → Option α)
    {f : α → World τ (Watched σ ρ) → Reply × World τ (Watched σ ρ)}
    (hf : ∀ x, (f x w).1 = (f x w').1 ∧ (f x w).2.Retold (f x w').2) (hw : w.Retold w') :
    (withBody r read? f w).1 = (withBody r read? f w').1 ∧
      (withBody r read? f w).2.Retold (withBody r read? f w').2 := by
  simp only [withBody]
  cases (jsonBody? r).bind read? with
  | none => exact ⟨rfl, hw⟩
  | some x => exact hf x

theorem retold_serve [ByteSource τ] (ha : a.Oblivious) (r : Request) (hw : w.Retold w') :
    (serve (.ofService a) r w).1 = (serve (.ofService a) r w').1 ∧
      (serve (.ofService a) r w).2.Retold (serve (.ofService a) r w').2 := by
  simp only [serve]
  cases Route.find r with
  | error refusal => exact ⟨rfl, hw⟩
  | ok route =>
    cases route with
    | signup =>
      refine retold_withBody r readCredentials? (fun input => ?_) hw
      have h := AuthService.oblivious_signup ha input.1 input.2 w w' hw
      exact ⟨answer_eq (fun _ => ownerData) h, h.state⟩
    | login =>
      refine retold_withBody r readCredentials? (fun input => ?_) hw
      have h := AuthService.oblivious_login ha input.1 input.2 w w' hw
      exact ⟨answer_eq tokensData h, h.state⟩
    | refresh =>
      refine retold_withBody r readRefresh? (fun input => ?_) hw
      have h := AuthService.oblivious_refresh ha input.1 input.2 w w' hw
      exact ⟨answer_eq tokensData h, h.state⟩
    | revoke =>
      refine retold_withBody r readRevoke? (fun secret => ?_) hw
      have h := AuthService.oblivious_revoke ha secret w w' hw
      exact ⟨answer_eq (fun _ _ => revokedData) h, h.state⟩
    | whoami =>
      simp only [serveRoute]
      cases bearer r with
      | error refusal => exact ⟨rfl, hw⟩
      | ok token =>
        have h := AuthService.oblivious_verifyAccess ha token w w' hw
        exact ⟨answer_eq (fun _ => ownerData) h, h.state⟩

end Http

/-! ## Runs -/

/-- A step of a run under watch: a request, a clock or the source of random bytes that moves, or
failures that are laid down for the calls to come. -/
inductive WatchedStep (τ σ : Type) where
  | request (r : Http.Request)
  | setClock (now : Instant)
  | reseed (e : τ)
  /-- The store's own clock moves, or the store is touched by others. -/
  | elsewhere (f : σ → σ)
  | lay (faults : Faults)

variable [ByteSource τ]

namespace WatchedStep

def apply (a : AuthService τ (Watched σ ρ)) :
    WatchedStep τ σ → World τ (Watched σ ρ) → Option Http.Reply × World τ (Watched σ ρ)
  | request r, w => (some (Http.serve (.ofService a) r w).1, (Http.serve (.ofService a) r w).2)
  | setClock now, w => (none, { w with now := now })
  | reseed e, w => (none, { w with entropy := e })
  | elsewhere f, w => (none, { w with stores := { w.stores with store := f w.stores.store } })
  | lay faults, w => (none, { w with stores := w.stores.withFaults faults })

/-- The same step, but for the words of failures. -/
inductive Retold : WatchedStep τ σ → WatchedStep τ σ → Prop where
  | refl (s : WatchedStep τ σ) : Retold s s
  | lay {faults faults' : Faults} (h : faults.Retold faults') : Retold (.lay faults) (.lay faults')

theorem retold_apply {a : AuthService τ (Watched σ ρ)} (ha : a.Oblivious) {s s' : WatchedStep τ σ}
    (hs : s.Retold s') {w w' : World τ (Watched σ ρ)} (hw : w.Retold w') :
    (s.apply a w).1 = (s'.apply a w').1 ∧ (s.apply a w).2.Retold (s'.apply a w').2 := by
  cases hs with
  | lay h =>
    obtain ⟨⟨-⟩⟩ := hw
    exact ⟨rfl, .intro (.intro h)⟩
  | refl =>
    cases s with
    | request r =>
      obtain ⟨hreply, hleft⟩ := Http.retold_serve ha r hw
      exact ⟨congrArg some hreply, hleft⟩
    | setClock now =>
      obtain ⟨h⟩ := hw
      exact ⟨rfl, .intro h⟩
    | reseed e =>
      obtain ⟨h⟩ := hw
      exact ⟨rfl, .intro h⟩
    | elsewhere f =>
      obtain ⟨⟨h⟩⟩ := hw
      exact ⟨rfl, .intro (.intro h)⟩
    | lay faults =>
      obtain ⟨⟨-⟩⟩ := hw
      exact ⟨rfl, .intro (.intro (.refl faults))⟩

end WatchedStep

namespace AuthService

def repliesTo (a : AuthService τ (Watched σ ρ)) (w : World τ (Watched σ ρ))
    (steps : List (WatchedStep τ σ)) : List (Option Http.Reply) :=
  (Run.moments (WatchedStep.apply a) steps w).map Moment.answer

def partsAfter (a : AuthService τ (Watched σ ρ)) (w : World τ (Watched σ ρ))
    (steps : List (WatchedStep τ σ)) (k : Nat) : Watched σ ρ :=
  (Run.after (WatchedStep.apply a) steps w k).stores

def watched (store : RefreshStore σ) (repo : CredentialRepo ρ)
    (hasher : PasswordHasher τ (Watched σ ρ)) (access : AccessCodec) (refreshTtl : Span)
    (secretBytes : Nat) : AuthService τ (Watched σ ρ) :=
  ⟨Watch.repo repo, Watch.hasher hasher,
    ⟨Watch.codec (.plain access), Watch.store store, refreshTtl, secretBytes⟩⟩

theorem oblivious_watched (store : RefreshStore σ) (repo : CredentialRepo ρ)
    {hasher : PasswordHasher τ (Watched σ ρ)} (hhasher : hasher.Oblivious) (access : AccessCodec)
    (refreshTtl : Span) (secretBytes : Nat) :
    (watched store repo hasher access refreshTtl secretBytes).Oblivious where
  repo := Watch.oblivious_repo repo
  hasher := Watch.oblivious_hasher hhasher
  codec := Watch.oblivious_codec (TokenCodec.oblivious_plain access)
  store := Watch.oblivious_store store

/-- Two runs of a service, on any stores and with a hasher that does not look at the faults, in
which the same calls fail with errors of the same kinds: they give the same replies, make the same
calls with the same arguments, and leave the same stores, whatever the errors say. -/
theorem texts_stay_inside (store : RefreshStore σ) (repo : CredentialRepo ρ)
    {hasher : PasswordHasher τ (Watched σ ρ)} (hhasher : hasher.Oblivious) (access : AccessCodec)
    (refreshTtl : Span) (secretBytes : Nat) (now : Instant) (e : τ) (s : σ) (r : ρ)
    {faults faults' : Faults} (hfaults : faults.Retold faults')
    {steps steps' : List (WatchedStep τ σ)}
    (hsteps : List.Forall₂ WatchedStep.Retold steps steps') :
    let a := watched store repo hasher access refreshTtl secretBytes
    let w : World τ (Watched σ ρ) := ⟨now, e, ⟨s, r, faults, []⟩⟩
    let w' : World τ (Watched σ ρ) := ⟨now, e, ⟨s, r, faults', []⟩⟩
    a.repliesTo w steps = a.repliesTo w' steps' ∧
      ∀ k, (a.partsAfter w steps k).calls = (a.partsAfter w' steps' k).calls ∧
        (a.partsAfter w steps k).store = (a.partsAfter w' steps' k).store ∧
        (a.partsAfter w steps k).repo = (a.partsAfter w' steps' k).repo := by
  intro a w w'
  have ha : a.Oblivious := oblivious_watched store repo hhasher access refreshTtl secretBytes
  have hw : w.Retold w' := .intro (.intro hfaults)
  obtain ⟨hreplies, hafter⟩ := Run.related hsteps hw fun m _ c' u hc hu =>
    WatchedStep.retold_apply ha hc hu
  refine ⟨hreplies, fun k => ?_⟩
  have hleft := hafter k
  simp only [partsAfter]
  generalize Run.after (WatchedStep.apply a) steps w k = u at hleft ⊢
  generalize Run.after (WatchedStep.apply a) steps' w' k = u' at hleft ⊢
  obtain ⟨⟨-⟩⟩ := hleft
  exact ⟨rfl, rfl, rfl⟩

/-- One login fails when the password is checked, and the next one after its record was written. -/
theorem texts_stay_inside_login :
    let a : AuthService Entropy (Watched RefreshBackend RepoBackend) :=
      watched .backend .backend (.argon2With .plain)
        ⟨"gatehouse", "api", .ofSecs 300, List.replicate 32 7⟩ (.ofSecs 3600) 32
    let w : World Entropy (Watched RefreshBackend RepoBackend) :=
      ⟨⟨0⟩, { word := 1 }, ⟨.memory (.startingAt 5), .memory default, {}, []⟩⟩
    let body := Utf8.encode "\x7b\"username\":\"ada\",\"password\":\"open sesame\"\x7d"
    let signup : Http.Request :=
      ⟨"POST", "/api/v1/signup", [("content-length", Utf8.encode "43")], body⟩
    let login : Http.Request := { signup with target := "/api/v1/login" }
    let steps (fault : StoreFault) (text : String) : List (WatchedStep Entropy RefreshBackend) :=
      [.request signup, .lay { put := [⟨true, .failed fault⟩], check := [.store text] },
        .request login, .request login]
    (a.repliesTo w (steps .timedOut "no route")).map (Option.map Http.Reply.status) =
        [some 200, none, some 500, some 500] ∧
      a.repliesTo w (steps .timedOut "no route") =
        a.repliesTo w (steps (.reported "node 3 is full") "node 4 is down") := by
  intro a w body signup login steps
  have hput : List.Forall₂ Watch.StoreFailure.Retold
      [⟨true, .failed .timedOut⟩] [⟨true, .failed (.reported "node 3 is full")⟩] :=
    .cons ⟨rfl, .failed _ _⟩ .nil
  have hcheck : List.Forall₂ AuthError.Retold [.store "no route"] [.store "node 4 is down"] :=
    .cons (.store _ _) .nil
  have hsteps : List.Forall₂ WatchedStep.Retold (steps .timedOut "no route")
      (steps (.reported "node 3 is full") "node 4 is down") :=
    .cons (.refl _) (.cons (.lay { Faults.Retold.refl {} with put := hput, check := hcheck })
      (.cons (.refl _) (.cons (.refl _) .nil)))
  refine ⟨by decide +kernel, ?_⟩
  exact (texts_stay_inside .backend .backend (PasswordHasher.oblivious_argon2With .plain)
    _ _ _ _ _ _ _ (.refl _) hsteps).1

end AuthService

end Gatehouse
