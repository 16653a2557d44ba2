import Gatehouse.Proofs.Token.Engine
import Gatehouse.Proofs.Token.Stages

/-!
# Gatehouse.Proofs.Token.Preserved

An engine reaches its store through calls alone, so what each call keeps is kept by every operation
(`preserves_apply`), whether the calls succeed or fail. Of what is filed no more need be known than
that it is the digest of a secret, that its owner has a name, and that it is issued now.
-/

namespace Gatehouse

variable {τ σ : Type}

/-- Every call of an engine keeps `P`. -/
structure RefreshStore.Preserves (s : RefreshStore σ) (ttl : Span) (P : σ → Prop) : Prop where
  put : ∀ {x} (secret : RefreshSecret) {owner : OwnerId} {now : Instant}, owner.isEmpty = false →
    Instant.inCalendar now.secs = true → P x → P (s.put secret.digest ⟨owner, now⟩ ttl x).2
  get : ∀ {x} (d : SecretDigest), P x → P (s.get d x).2
  delete : ∀ {x} (d : SecretDigest), P x → P (s.delete d x).2
  rotate : ∀ {x} (old : SecretDigest) (secret : RefreshSecret) (expected : Option OwnerId)
    {now : Instant}, Instant.inCalendar now.secs = true → P x →
      P (s.rotate old secret.digest expected now ttl x).2

structure World.Keeps (P : σ → Prop) (w w' : World τ σ) : Prop where
  now : w'.now = w.now
  stores : P w'.stores

namespace TokenEngine

variable {g : TokenEngine τ σ} {access : AccessCodec} {P : σ → Prop} {w : World τ σ}

theorem preserves_discard (hs : g.store.Preserves g.refreshTtl P) (hw : P w.stores)
    (d : SecretDigest) : w.Keeps P (g.discard d w) :=
  ⟨rfl, hs.delete d hw⟩

theorem preserves_conclude (hs : g.store.Preserves g.refreshTtl P) (hw : P w.stores)
    (t : IssuedTokens) (a : Except StoreError Unit) : w.Keeps P (g.conclude t a w).2 := by
  cases a with
  | ok _ => exact ⟨rfl, hw⟩
  | error x =>
    cases x with
    | failed fault => exact preserves_discard hs hw t.refreshToken.digest
    | _ => exact ⟨rfl, hw⟩

theorem preserves_validateRefresh (hs : g.store.Preserves g.refreshTtl P) (hw : P w.stores)
    (secret : RefreshSecret) : w.Keeps P (g.validateRefresh secret w).2 := by
  have hget := hs.get secret.digest hw
  rcases hcall : g.store.get secret.digest w.stores with ⟨a, s⟩
  rw [hcall] at hget
  simp only [validateRefresh, World.onStores, hcall]
  cases a with
  | error x => exact ⟨rfl, hget⟩
  | ok record => exact ⟨rfl, hget⟩

theorem preserves_revoke (hs : g.store.Preserves g.refreshTtl P) (hw : P w.stores)
    (secret : RefreshSecret) : w.Keeps P (g.revoke secret w).2 := by
  have hdelete := hs.delete secret.digest hw
  rcases hcall : g.store.delete secret.digest w.stores with ⟨a, s⟩
  rw [hcall] at hdelete
  simp only [revoke, World.onStores, hcall]
  cases a with
  | error x => exact ⟨rfl, hdelete⟩
  | ok _ => exact ⟨rfl, hdelete⟩

variable [ByteSource τ]

theorem sign_plain (hcodec : g.codec = .plain access) (owner : OwnerId) (now : Instant) :
    ∃ a e, g.codec.sign owner now w = (a, { w with entropy := e }) := by
  rw [hcodec]
  exact ⟨_, _, rfl⟩

theorem preserves_issue (hcodec : g.codec = .plain access)
    (hs : g.store.Preserves g.refreshTtl P) (hw : P w.stores)
    (hnow : Instant.inCalendar w.now.secs = true) (owner : OwnerId) :
    w.Keeps P (g.issue owner w).2 := by
  cases howner : owner.isEmpty with
  | true =>
    rw [issue_unnamed howner]
    exact ⟨rfl, hw⟩
  | false =>
    cases hlater : w.now.later? g.refreshTtl with
    | none =>
      rw [issue_undated howner hlater]
      exact ⟨rfl, hw⟩
    | some refreshEnd =>
      rcases hdraw : RefreshSecret.draw g.secretBytes w.entropy with ⟨x | secret, e⟩
      · rw [issue_undrawn howner hlater hdraw]
        exact ⟨rfl, hw⟩
      · obtain ⟨a, e', hsign⟩ :=
          sign_plain (w := { w with entropy := e }) hcodec owner w.now
        cases a with
        | error x =>
          rw [issue_unsigned howner hlater hdraw hsign]
          exact ⟨rfl, hw⟩
        | ok signed =>
          have hput := hs.put secret howner hnow hw
          rcases hcall : g.store.put secret.digest ⟨owner, w.now⟩ g.refreshTtl w.stores with ⟨a, s⟩
          rw [hcall] at hput
          rw [issue_eq_conclude howner hlater hdraw hsign hcall]
          obtain ⟨hsame, hkept⟩ := preserves_conclude (w := ⟨w.now, e', s⟩) hs hput
            ⟨owner, signed.token, secret, signed.expiresAt, refreshEnd⟩ a
          exact ⟨hsame, hkept⟩

theorem preserves_settle (hcodec : g.codec = .plain access)
    (hs : g.store.Preserves g.refreshTtl P) (hw : P w.stores) (secret : RefreshSecret)
    (now refreshEnd : Instant) (a : Except StoreError RefreshRecord) :
    w.Keeps P (g.settle secret now refreshEnd a w).2 := by
  cases a with
  | error x =>
    cases x with
    | failed fault => exact preserves_discard hs hw secret.digest
    | _ => exact ⟨rfl, hw⟩
  | ok record =>
    obtain ⟨a, e, hsign⟩ := sign_plain (w := w) hcodec record.owner now
    have hdiscard := preserves_discard (w := { w with entropy := e }) hs hw secret.digest
    cases a with
    | ok signed =>
      simp only [settle, hsign]
      exact ⟨rfl, hw⟩
    | error x =>
      cases x with
      | aborted =>
        simp only [settle, hsign]
        exact ⟨rfl, hw⟩
      | _ =>
        simp only [settle, hsign]
        exact ⟨hdiscard.now, hdiscard.stores⟩

theorem preserves_replace (hcodec : g.codec = .plain access)
    (hs : g.store.Preserves g.refreshTtl P) (hw : P w.stores)
    (hnow : Instant.inCalendar w.now.secs = true) (old : SecretDigest)
    (expected : Option OwnerId) : w.Keeps P (g.replace old expected w).2 := by
  cases hlater : w.now.later? g.refreshTtl with
  | none =>
    rw [replace_undated hlater]
    exact ⟨rfl, hw⟩
  | some refreshEnd =>
    rcases hdraw : RefreshSecret.draw g.secretBytes w.entropy with ⟨x | secret, e⟩
    · rw [replace_undrawn hlater hdraw]
      exact ⟨rfl, hw⟩
    · have hrotate := hs.rotate old secret expected hnow hw
      rcases hcall : g.store.rotate old secret.digest expected w.now g.refreshTtl w.stores
        with ⟨a, s⟩
      rw [hcall] at hrotate
      rw [replace_eq_settle hlater hdraw hcall]
      obtain ⟨hsame, hkept⟩ := preserves_settle (w := ⟨w.now, e, s⟩) hcodec hs hrotate secret w.now
        refreshEnd a
      exact ⟨hsame, hkept⟩

theorem preserves_rotate (hcodec : g.codec = .plain access)
    (hs : g.store.Preserves g.refreshTtl P) (hw : P w.stores)
    (hnow : Instant.inCalendar w.now.secs = true) (secret : RefreshSecret)
    (expected : Option OwnerId) : w.Keeps P (g.rotate secret expected w).2 := by
  have hget := hs.get secret.digest hw
  rcases hcall : g.store.get secret.digest w.stores with ⟨a, s⟩
  rw [hcall] at hget
  cases a with
  | error x =>
    rw [rotate_unread hcall]
    exact ⟨rfl, hget⟩
  | ok record =>
    rw [rotate_eq_replace hcall]
    split
    · exact ⟨rfl, hget⟩
    · obtain ⟨hsame, hkept⟩ := preserves_replace (w := ⟨w.now, w.entropy, s⟩) hcodec hs hget hnow
        secret.digest expected
      exact ⟨hsame, hkept⟩

/-- What every call of an engine keeps is kept by every operation of it. -/
theorem preserves_apply (hcodec : g.codec = .plain access)
    (hs : g.store.Preserves g.refreshTtl P) (hw : P w.stores)
    (hnow : Instant.inCalendar w.now.secs = true) (call : TokenCall) :
    w.Keeps P (call.apply g w).2 := by
  cases call with
  | issue owner => exact preserves_issue hcodec hs hw hnow owner
  | validateRefresh secret => exact preserves_validateRefresh hs hw secret
  | rotate secret expected => exact preserves_rotate hcodec hs hw hnow secret expected
  | revoke secret => exact preserves_revoke hs hw secret

end TokenEngine
end Gatehouse
