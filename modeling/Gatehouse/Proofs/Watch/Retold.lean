import Mathlib.Data.List.Forall2
import Gatehouse.Http.Reply
import Gatehouse.Password.Argon2Hasher
import Gatehouse.Watch.Watched

/-!
# Gatehouse.Proofs.Watch.Retold

The same failures told in other words. Errors are `Retold` if they are of one kind, whatever their
texts; faults are if they fail the same calls with such errors; and worlds are if they differ in
nothing but the faults that are laid down. A call is `Oblivious` if in such worlds it gives the same
answer, or errors that are told in other words, and leaves such worlds. Every part under watch is.
-/

namespace Gatehouse

/-! ## Errors -/

inductive StoreError.Retold : StoreError → StoreError → Prop where
  | refl (e : StoreError) : Retold e e
  | failed (fault fault' : StoreFault) : Retold (.failed fault) (.failed fault')

inductive TokenError.Retold : TokenError → TokenError → Prop where
  | refl (e : TokenError) : Retold e e
  | generation (cause cause' : GenerationFault) : Retold (.generation cause) (.generation cause')
  | storage (text text' : String) : Retold (.storage text) (.storage text')
  | config (cause cause' : ConfigFault) : Retold (.config cause) (.config cause')

inductive RepoError.Retold : RepoError → RepoError → Prop where
  | refl (e : RepoError) : Retold e e
  | failed (text text' : String) : Retold (.failed text) (.failed text')

inductive AuthError.Retold : AuthError → AuthError → Prop where
  | refl (e : AuthError) : Retold e e
  | invalidInput (fault fault' : InputFault) : Retold (.invalidInput fault) (.invalidInput fault')
  | token {e e' : TokenError} (h : e.Retold e') : Retold (.token e) (.token e')
  | store (text text' : String) : Retold (.store text) (.store text')
  | hasher (e e' : HasherError) : Retold (.hasher e) (.hasher e')

theorem StoreError.Retold.ofStore {e e' : StoreError} (h : e.Retold e') :
    (TokenError.ofStore e).Retold (.ofStore e') := by
  cases h with
  | refl => exact .refl _
  | failed fault fault' => exact .storage _ _

theorem RepoError.Retold.ofRepo {e e' : RepoError} (h : e.Retold e') :
    (AuthError.ofRepo e).Retold (.ofRepo e') := by
  cases h with
  | refl => exact .refl _
  | failed text text' => exact .store _ _

/-- A client is told of the kind of an error alone. -/
theorem AuthError.Retold.code {e e' : AuthError} (h : e.Retold e') :
    Http.ApiCode.ofAuth e = Http.ApiCode.ofAuth e' := by
  cases h with
  | token h => cases h <;> rfl
  | _ => rfl

/-! ## Answers -/

/-- The same answer, or errors that are related, with states that are related. -/
inductive Same {σ ε α : Type} (E : ε → ε → Prop) (R : σ → σ → Prop) :
    Except ε α × σ → Except ε α × σ → Prop where
  | ok (a : α) {s s' : σ} (hs : R s s') : Same E R (.ok a, s) (.ok a, s')
  | error {e e' : ε} {s s' : σ} (he : E e e') (hs : R s s') : Same E R (.error e, s) (.error e', s')

section Same

variable {σ ε ε' α β : Type} {E : ε → ε → Prop} {E' : ε' → ε' → Prop} {R : σ → σ → Prop}
  {r r' : Except ε α × σ}

theorem Same.state (h : Same E R r r') : R r.2 r'.2 := by
  cases h with
  | ok a hs => exact hs
  | error he hs => exact hs

theorem Same.of_refl (hE : ∀ e, E e e) (a : Except ε α) {s s' : σ} (hs : R s s') :
    Same E R (a, s) (a, s') := by
  cases a with
  | ok a => exact .ok a hs
  | error e => exact .error (hE e) hs

theorem Same.mapError (h : Same E R r r') {f : ε → ε'} (hf : ∀ e e', E e e' → E' (f e) (f e')) :
    Same E' R (r.1.mapError f, r.2) (r'.1.mapError f, r'.2) := by
  cases h with
  | ok a hs => exact .ok a hs
  | error he hs => exact .error (hf _ _ he) hs

end Same

namespace Watch

/-! ## Faults and worlds -/

structure StoreFailure.Retold (x x' : StoreFailure) : Prop where
  afterwards : x.afterwards = x'.afterwards
  error : x.error.Retold x'.error

/-- Faults of the same kinds for the same calls. -/
structure Faults.Retold (f f' : Faults) : Prop where
  put : List.Forall₂ StoreFailure.Retold f.put f'.put
  get : List.Forall₂ StoreFailure.Retold f.get f'.get
  delete : List.Forall₂ StoreFailure.Retold f.delete f'.delete
  rotate : List.Forall₂ StoreFailure.Retold f.rotate f'.rotate
  sign : List.Forall₂ TokenError.Retold f.sign f'.sign
  verify : List.Forall₂ TokenError.Retold f.verify f'.verify
  find : List.Forall₂ RepoError.Retold f.find f'.find
  create : List.Forall₂ RepoError.Retold f.create f'.create
  hash : List.Forall₂ AuthError.Retold f.hash f'.hash
  check : List.Forall₂ AuthError.Retold f.check f'.check

theorem StoreFailure.Retold.refl (x : StoreFailure) : x.Retold x := ⟨rfl, .refl x.error⟩

theorem Faults.Retold.refl (f : Faults) : f.Retold f := by
  have hstore (l : List StoreFailure) : List.Forall₂ StoreFailure.Retold l l :=
    List.forall₂_same.mpr fun x _ => .refl x
  have hcodec (l : List TokenError) : List.Forall₂ TokenError.Retold l l :=
    List.forall₂_same.mpr fun x _ => .refl x
  have hrepo (l : List RepoError) : List.Forall₂ RepoError.Retold l l :=
    List.forall₂_same.mpr fun x _ => .refl x
  have hhasher (l : List AuthError) : List.Forall₂ AuthError.Retold l l :=
    List.forall₂_same.mpr fun x _ => .refl x
  exact ⟨hstore _, hstore _, hstore _, hstore _, hcodec _, hcodec _, hrepo _, hrepo _, hhasher _,
    hhasher _⟩

/-- What is left of the faults once a call has taken one. -/
theorem forall₂_tail {α β : Type} {R : α → β → Prop} {l : List α} {l' : List β}
    (h : List.Forall₂ R l l') : List.Forall₂ R l.tail l'.tail := by
  simpa only [List.drop_one] using List.forall₂_drop 1 h

variable {σ ρ α : Type}

inductive Watched.Retold : Watched σ ρ → Watched σ ρ → Prop where
  | intro {store : σ} {repo : ρ} {calls : List Call} {faults faults' : Faults}
      (h : faults.Retold faults') :
      Retold ⟨store, repo, faults, calls⟩ ⟨store, repo, faults', calls⟩

end Watch

open Watch (Watched Faults StoreFailure)

variable {τ σ ρ ε α : Type}

inductive World.Retold : World τ (Watched σ ρ) → World τ (Watched σ ρ) → Prop where
  | intro {now : Instant} {e : τ} {p p' : Watched σ ρ} (h : p.Retold p') :
      Retold ⟨now, e, p⟩ ⟨now, e, p'⟩

theorem World.Retold.now_eq {w w' : World τ (Watched σ ρ)} (h : w.Retold w') : w.now = w'.now := by
  cases h
  rfl

/-- An operation that does the same in worlds whose faults are told in other words. -/
def Oblivious (E : ε → ε → Prop) (f : Operation τ (Watched σ ρ) ε α) : Prop :=
  ∀ w w', w.Retold w' → Same E World.Retold (f w) (f w')

theorem Oblivious.onStores {E : ε → ε → Prop} {f : Watched σ ρ → Except ε α × Watched σ ρ}
    (hf : ∀ p p', p.Retold p' → Same E Watched.Retold (f p) (f p')) :
    Oblivious E (World.onStores f : Operation τ (Watched σ ρ) ε α) := by
  rintro _ _ ⟨hp⟩
  have h := hf _ _ hp
  simp only [World.onStores]
  generalize f _ = r at h ⊢
  generalize f _ = r' at h ⊢
  cases h with
  | ok a hs => exact .ok a (.intro hs)
  | error he hs => exact .error he (.intro hs)

/-! ## Parts -/

structure RefreshStore.Oblivious (s : RefreshStore (Watched σ ρ)) : Prop where
  put : ∀ d r ttl p p', p.Retold p' →
    Same StoreError.Retold Watched.Retold (s.put d r ttl p) (s.put d r ttl p')
  get : ∀ d p p', p.Retold p' → Same StoreError.Retold Watched.Retold (s.get d p) (s.get d p')
  delete : ∀ d p p', p.Retold p' →
    Same StoreError.Retold Watched.Retold (s.delete d p) (s.delete d p')
  rotate : ∀ old new expected issuedAt ttl p p', p.Retold p' →
    Same StoreError.Retold Watched.Retold (s.rotate old new expected issuedAt ttl p)
      (s.rotate old new expected issuedAt ttl p')

structure CredentialRepo.Oblivious (r : CredentialRepo (Watched σ ρ)) : Prop where
  find : ∀ username p p', p.Retold p' →
    Same RepoError.Retold Watched.Retold (r.find username p) (r.find username p')
  create : ∀ c p p', p.Retold p' →
    Same RepoError.Retold Watched.Retold (r.create c p) (r.create c p')

structure TokenCodec.Oblivious (c : TokenCodec τ (Watched σ ρ)) : Prop where
  sign : ∀ owner now, Gatehouse.Oblivious TokenError.Retold (c.sign owner now)
  verify : ∀ token, Gatehouse.Oblivious TokenError.Retold (c.verify token)

structure PasswordHasher.Oblivious (h : PasswordHasher τ (Watched σ ρ)) : Prop where
  hash : ∀ password, Gatehouse.Oblivious AuthError.Retold (h.hash password)
  check : ∀ password hash, Gatehouse.Oblivious AuthError.Retold (h.check password hash)

theorem TokenCodec.oblivious_plain [ByteSource τ] (access : AccessCodec) :
    TokenCodec.Oblivious (plain access : TokenCodec τ (Watched σ ρ)) where
  sign owner now := by
    rintro _ _ ⟨hp⟩
    exact .of_refl .refl _ (.intro hp)
  verify token := by
    rintro _ _ ⟨hp⟩
    exact .of_refl .refl _ (.intro hp)

theorem PasswordHasher.oblivious_argon2With [ByteSource τ] (d : Argon2.Derivation) :
    PasswordHasher.Oblivious (argon2With d : PasswordHasher τ (Watched σ ρ)) where
  hash password := by
    rintro _ _ ⟨hp⟩
    rename_i now e p p'
    simp only [argon2With, World.onEntropy]
    rcases ByteSource.draw Argon2.newSaltSize e with ⟨_ | salt, e⟩
    · exact .error (.refl _) (.intro hp)
    · dsimp only
      split_ifs
      · exact .error (.refl _) (.intro hp)
      · exact .ok _ (.intro hp)
  check _ _ _ _ hw := .of_refl .refl _ hw

namespace Watch

/-- A call on a store fails in the same way, if it does. -/
theorem same_apply {l l' : List StoreFailure} (h : List.Forall₂ StoreFailure.Retold l l')
    (call : σ → Except StoreError α × σ) (s : σ) :
    Same StoreError.Retold Eq (StoreFailure.apply l.head? call s)
      (StoreFailure.apply l'.head? call s) := by
  cases h with
  | nil => exact .of_refl .refl _ rfl
  | @cons x x' _ _ hx _ =>
    obtain ⟨afterwards, e⟩ := x
    obtain ⟨afterwards', e'⟩ := x'
    obtain ⟨rfl, he⟩ := hx
    cases afterwards with
    | false => exact .error he rfl
    | true =>
      simp only [List.head?_cons, StoreFailure.apply]
      rcases call s with ⟨a, s'⟩
      cases a with
      | ok a => exact .error he rfl
      | error x => exact .error (.refl x) rfl

theorem same_onStore {l l' : List StoreFailure} (h : List.Forall₂ StoreFailure.Retold l l')
    (call : σ → Except StoreError α × σ) {p p' : Watched σ ρ} (hp : p.Retold p') :
    Same StoreError.Retold Watched.Retold (p.onStore (StoreFailure.apply l.head? call))
      (p'.onStore (StoreFailure.apply l'.head? call)) := by
  obtain ⟨hfaults⟩ := hp
  have hcall := same_apply h call ‹σ›
  simp only [Watched.onStore]
  generalize StoreFailure.apply l.head? call _ = r at hcall ⊢
  generalize StoreFailure.apply l'.head? call _ = r' at hcall ⊢
  cases hcall with
  | ok a hs =>
    subst hs
    exact .ok a (.intro hfaults)
  | error he hs =>
    subst hs
    exact .error he (.intro hfaults)

theorem same_tryRepo {l l' : List RepoError} (h : List.Forall₂ RepoError.Retold l l')
    (call : ρ → Except RepoError α × ρ) {p p' : Watched σ ρ} (hp : p.Retold p') :
    Same RepoError.Retold Watched.Retold (p.tryRepo l.head? call) (p'.tryRepo l'.head? call) := by
  cases h with
  | nil =>
    obtain ⟨hfaults⟩ := hp
    exact .of_refl .refl _ (.intro hfaults)
  | cons he _ => exact .error he hp

theorem same_unlessFailing {E : ε → ε → Prop} {l l' : List ε} (h : List.Forall₂ E l l')
    {op : Operation τ (Watched σ ρ) ε α} (hop : Oblivious E op) :
    ∀ w w', w.Retold w' →
      Same E World.Retold (unlessFailing l.head? op w) (unlessFailing l'.head? op w') := by
  intro w w' hw
  cases h with
  | nil => exact hop w w' hw
  | cons he _ => exact .error he hw

theorem oblivious_store (s : RefreshStore σ) :
    RefreshStore.Oblivious (store s : RefreshStore (Watched σ ρ)) where
  put d r ttl := by
    rintro _ _ ⟨h⟩
    exact same_onStore h.put _ (.intro { h with put := forall₂_tail h.put })
  get d := by
    rintro _ _ ⟨h⟩
    exact same_onStore h.get _ (.intro { h with get := forall₂_tail h.get })
  delete d := by
    rintro _ _ ⟨h⟩
    exact same_onStore h.delete _ (.intro { h with delete := forall₂_tail h.delete })
  rotate old new expected issuedAt ttl := by
    rintro _ _ ⟨h⟩
    exact same_onStore h.rotate _ (.intro { h with rotate := forall₂_tail h.rotate })

theorem oblivious_repo (r : CredentialRepo ρ) :
    CredentialRepo.Oblivious (repo r : CredentialRepo (Watched σ ρ)) where
  find username := by
    rintro _ _ ⟨h⟩
    exact same_tryRepo h.find _ (.intro { h with find := forall₂_tail h.find })
  create c := by
    rintro _ _ ⟨h⟩
    exact same_tryRepo h.create _ (.intro { h with create := forall₂_tail h.create })

theorem oblivious_codec {c : TokenCodec τ (Watched σ ρ)} (hc : c.Oblivious) :
    (codec c).Oblivious where
  sign owner now := by
    rintro _ _ ⟨⟨h⟩⟩
    exact same_unlessFailing h.sign (hc.sign owner now) _ _
      (.intro (.intro { h with sign := forall₂_tail h.sign }))
  verify token := by
    rintro _ _ ⟨⟨h⟩⟩
    exact same_unlessFailing h.verify (hc.verify token) _ _
      (.intro (.intro { h with verify := forall₂_tail h.verify }))

theorem oblivious_hasher {h : PasswordHasher τ (Watched σ ρ)} (hh : h.Oblivious) :
    (hasher h).Oblivious where
  hash password := by
    rintro _ _ ⟨⟨h⟩⟩
    exact same_unlessFailing h.hash (hh.hash password) _ _
      (.intro (.intro { h with hash := forall₂_tail h.hash }))
  check password hash := by
    rintro _ _ ⟨⟨h⟩⟩
    exact same_unlessFailing h.check (hh.check password hash) _ _
      (.intro (.intro { h with check := forall₂_tail h.check }))

end Watch
end Gatehouse
