import Gatehouse.Token.Engine

/-!
# Gatehouse.Proofs.Token.Stages

The two operations that make a pair of tokens, in stages. Either asks its store for one write
(`RefreshStore.put` or `RefreshStore.rotate`) and has an end that depends on the answer: `conclude`
is the end of an issue and `settle` that of an exchange. What comes before the write is a premise of
`issue_eq_conclude`, of `replace_eq_settle` and of `rotate_eq_replace`.
-/

namespace Gatehouse.TokenEngine

variable {τ σ : Type} [ByteSource τ] {g : TokenEngine τ σ} {w : World τ σ}

/-! ## Issuing -/

/-- The end of an issue, once the store has answered. -/
def conclude (g : TokenEngine τ σ) (t : IssuedTokens) (a : Except StoreError Unit) (w : World τ σ) :
    Except TokenError IssuedTokens × World τ σ :=
  match a with
  | .error (.failed fault) => (.error (.storage fault.message), g.discard t.refreshToken.digest w)
  | .error e => (.error (.ofStore e), w)
  | .ok () => (.ok t, w)

section Issue

variable {owner : OwnerId} {refreshEnd : Instant} {secret : RefreshSecret} {e : τ}
  {w₁ : World τ σ}

theorem issue_unnamed (howner : owner.isEmpty = true) :
    g.issue owner w = (.error (.generation .emptyOwner), w) := by
  rw [issue, if_pos howner]

theorem issue_undated (howner : owner.isEmpty = false) (hlater : w.now.later? g.refreshTtl = none) :
    g.issue owner w = (.error (.generation .refreshExpiryOutOfRange), w) := by
  simp only [issue, hlater]
  rw [if_neg (by simp [howner])]

theorem issue_undrawn (howner : owner.isEmpty = false)
    (hlater : w.now.later? g.refreshTtl = some refreshEnd) {x : SecretError}
    (hdraw : RefreshSecret.draw g.secretBytes w.entropy = (.error x, e)) :
    g.issue owner w = (.error (.generation (.secret x)), { w with entropy := e }) := by
  simp only [issue, hlater, World.onEntropy, hdraw]
  rw [if_neg (by simp [howner])]

theorem issue_unsigned (howner : owner.isEmpty = false)
    (hlater : w.now.later? g.refreshTtl = some refreshEnd)
    (hdraw : RefreshSecret.draw g.secretBytes w.entropy = (.ok secret, e)) {x : TokenError}
    (hsign : g.codec.sign owner w.now { w with entropy := e } = (.error x, w₁)) :
    g.issue owner w = (.error x, w₁) := by
  simp only [issue, hlater, World.onEntropy, hdraw, hsign]
  rw [if_neg (by simp [howner])]

theorem issue_eq_conclude (howner : owner.isEmpty = false)
    (hlater : w.now.later? g.refreshTtl = some refreshEnd)
    (hdraw : RefreshSecret.draw g.secretBytes w.entropy = (.ok secret, e)) {access : SignedAccess}
    (hsign : g.codec.sign owner w.now { w with entropy := e } = (.ok access, w₁))
    {a : Except StoreError Unit} {s : σ}
    (hcall : g.store.put secret.digest ⟨owner, w.now⟩ g.refreshTtl w₁.stores = (a, s)) :
    g.issue owner w =
      g.conclude ⟨owner, access.token, secret, access.expiresAt, refreshEnd⟩ a
        { w₁ with stores := s } := by
  simp only [issue, hlater, World.onEntropy, hdraw, hsign, World.onStores, hcall]
  rw [if_neg (by simp [howner])]
  cases a with
  | error x => cases x <;> rfl
  | ok _ => rfl

end Issue

/-! ## Exchanging -/

/-- The end of an exchange, once the store has answered. -/
def settle (g : TokenEngine τ σ) (secret : RefreshSecret) (now refreshEnd : Instant)
    (a : Except StoreError RefreshRecord) (w : World τ σ) :
    Except TokenError IssuedTokens × World τ σ :=
  match a with
  | .error (.failed fault) => (.error (.storage fault.message), g.discard secret.digest w)
  | .error e => (.error (.ofStore e), w)
  | .ok record =>
    match g.codec.sign record.owner now w with
    | (.error .aborted, w) => (.error .aborted, w)
    | (.error e, w) => (.error e, g.discard secret.digest w)
    | (.ok access, w) =>
      (.ok ⟨record.owner, access.token, secret, access.expiresAt, refreshEnd⟩, w)

section Replace

variable {old : SecretDigest} {expected : Option OwnerId} {refreshEnd : Instant} {e : τ}

theorem replace_undated (hlater : w.now.later? g.refreshTtl = none) :
    g.replace old expected w = (.error (.generation .refreshExpiryOutOfRange), w) := by
  simp only [replace, hlater]

theorem replace_undrawn (hlater : w.now.later? g.refreshTtl = some refreshEnd) {x : SecretError}
    (hdraw : RefreshSecret.draw g.secretBytes w.entropy = (.error x, e)) :
    g.replace old expected w = (.error (.generation (.secret x)), { w with entropy := e }) := by
  simp only [replace, hlater, World.onEntropy, hdraw]

theorem replace_eq_settle (hlater : w.now.later? g.refreshTtl = some refreshEnd)
    {secret : RefreshSecret}
    (hdraw : RefreshSecret.draw g.secretBytes w.entropy = (.ok secret, e))
    {a : Except StoreError RefreshRecord} {s : σ}
    (hcall : g.store.rotate old secret.digest expected w.now g.refreshTtl w.stores = (a, s)) :
    g.replace old expected w = g.settle secret w.now refreshEnd a ⟨w.now, e, s⟩ := by
  simp only [replace, hlater, World.onEntropy, hdraw, World.onStores, hcall]
  cases a with
  | error e => cases e <;> rfl
  | ok record => rfl

end Replace

section Rotate

variable {secret : RefreshSecret} {expected : Option OwnerId} {s : σ}

theorem rotate_unread {x : StoreError}
    (hcall : g.store.get secret.digest w.stores = (.error x, s)) :
    g.rotate secret expected w = (.error (.ofStore x), { w with stores := s }) := by
  simp only [rotate, World.onStores, hcall]

/-- A rotation of a secret that is found is the exchange of it, if the owner is accepted. -/
theorem rotate_eq_replace {r : RefreshRecord}
    (hcall : g.store.get secret.digest w.stores = (.ok r, s)) :
    g.rotate secret expected w =
      if expected.any fun o => o ≠ r.owner then (.error .invalid, { w with stores := s })
      else g.replace secret.digest expected { w with stores := s } := by
  simp only [rotate, World.onStores, hcall]

end Rotate

end Gatehouse.TokenEngine
