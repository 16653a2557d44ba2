import Gatehouse.Proofs.Access.Signed
import Gatehouse.Proofs.Token.Outcomes

/-!
# Gatehouse.Proofs.Token.Kept

What an engine hands out, and what it leaves alone. The tokens of an issue or of a rotation are made
of two lifetimes that begin now (`HandedOut`), and when the operation is over the record of their
secret is there (`filed_of_issue`, `filed_of_rotate`). From then on it stays: an operation takes no
record away but that of the secret it is given, even where the secret that it draws is known
already (`issue_keeps`, `rotate_keeps`). The clock of the store has to be able to tell the end of a
lifetime.
-/

namespace Gatehouse.TokenEngine

/-! ## What is handed out -/

section HandedOut

variable {τ σ : Type} {g : TokenEngine τ σ} {access : AccessCodec} {w : World τ σ}
  {t : IssuedTokens}

/-- Tokens that an engine hands out in a world. -/
structure HandedOut (g : TokenEngine τ σ) (access : AccessCodec) (w : World τ σ)
    (t : IssuedTokens) : Prop where
  token : ∃ jti, t.accessToken = AccessCodec.sealed access.key
    (access.claims t.owner jti w.now t.accessExpiresAt).toJson
  accessEnd : w.now.later? access.ttl = some t.accessExpiresAt
  refreshEnd : w.now.later? g.refreshTtl = some t.refreshExpiresAt

theorem conclude_eq_ok {t' : IssuedTokens} {a : Except StoreError Unit}
    (h : (g.conclude t' a w).1 = .ok t) : t = t' ∧ a = .ok () := by
  cases a with
  | ok _ => exact ⟨(Except.ok.inj h).symm, rfl⟩
  | error x => cases x <;> cases h

variable [ByteSource τ]

theorem HandedOut.of_sign {owner : OwnerId} {e : τ} {signed : SignedAccess}
    (hsign : (access.sign owner w.now e).1 = .ok signed) {refreshEnd : Instant}
    (hlater : w.now.later? g.refreshTtl = some refreshEnd) (secret : RefreshSecret) :
    HandedOut g access w ⟨owner, signed.token, secret, signed.expiresAt, refreshEnd⟩ := by
  obtain ⟨haccess, hsealed⟩ := AccessCodec.sealed_of_sign hsign
  exact ⟨hsealed, haccess, hlater⟩

theorem settle_eq_ok (hcodec : g.codec = .plain access) {secret : RefreshSecret}
    {now refreshEnd : Instant} {a : Except StoreError RefreshRecord}
    (h : (g.settle secret now refreshEnd a w).1 = .ok t) :
    ∃ record signed, a = .ok record ∧ (access.sign record.owner now w.entropy).1 = .ok signed ∧
      t = ⟨record.owner, signed.token, secret, signed.expiresAt, refreshEnd⟩ := by
  cases a with
  | error x => cases x <;> cases h
  | ok record =>
    simp only [settle, hcodec, TokenCodec.plain, World.onEntropy] at h
    rcases hsign : access.sign record.owner now w.entropy with ⟨x | signed, e⟩
    · rw [hsign] at h
      cases x <;> cases h
    · rw [hsign] at h
      exact ⟨record, signed, rfl, congrArg Prod.fst hsign, (Except.ok.inj h).symm⟩

theorem handedOut_of_issue (hcodec : g.codec = .plain access) {owner : OwnerId}
    (h : (g.issue owner w).1 = .ok t) : HandedOut g access w t := by
  cases howner : owner.isEmpty with
  | true =>
    rw [issue_unnamed howner] at h
    cases h
  | false =>
    cases hlater : w.now.later? g.refreshTtl with
    | none =>
      rw [issue_undated howner hlater] at h
      cases h
    | some refreshEnd =>
      rcases hdraw : RefreshSecret.draw g.secretBytes w.entropy with ⟨x | secret, e⟩
      · rw [issue_undrawn howner hlater hdraw] at h
        cases h
      · rcases hsign : access.sign owner w.now e with ⟨x | signed, e'⟩
        · have hcall : g.codec.sign owner w.now { w with entropy := e } =
              (.error x, { w with entropy := e' }) := by
            simp only [hcodec, TokenCodec.plain, World.onEntropy, hsign]
          rw [issue_unsigned howner hlater hdraw hcall] at h
          cases h
        · have hcall : g.codec.sign owner w.now { w with entropy := e } =
              (.ok signed, { w with entropy := e' }) := by
            simp only [hcodec, TokenCodec.plain, World.onEntropy, hsign]
          rw [issue_eq_conclude howner hlater hdraw hcall rfl] at h
          obtain ⟨rfl, -⟩ := conclude_eq_ok h
          exact .of_sign (congrArg Prod.fst hsign) hlater secret

theorem handedOut_of_replace (hcodec : g.codec = .plain access) {old : SecretDigest}
    {expected : Option OwnerId} (h : (g.replace old expected w).1 = .ok t) :
    HandedOut g access w t := by
  cases hlater : w.now.later? g.refreshTtl with
  | none =>
    rw [replace_undated hlater] at h
    cases h
  | some refreshEnd =>
    rcases hdraw : RefreshSecret.draw g.secretBytes w.entropy with ⟨x | secret, e⟩
    · rw [replace_undrawn hlater hdraw] at h
      cases h
    · rw [replace_eq_settle hlater hdraw rfl] at h
      obtain ⟨record, signed, -, hsign, rfl⟩ := settle_eq_ok hcodec h
      exact .of_sign hsign hlater secret

theorem replace_of_rotate {secret : RefreshSecret} {expected : Option OwnerId}
    (h : (g.rotate secret expected w).1 = .ok t) : ∃ s record,
      g.store.get secret.digest w.stores = (.ok record, s) ∧
      g.rotate secret expected w = g.replace secret.digest expected { w with stores := s } := by
  rcases hcall : g.store.get secret.digest w.stores with ⟨x | record, s⟩
  · rw [rotate_unread hcall] at h
    cases h
  · have hrotate : g.rotate secret expected w = _ := rotate_eq_replace hcall
    split_ifs at hrotate
    · rw [hrotate] at h
      cases h
    · exact ⟨s, record, rfl, hrotate⟩

theorem handedOut_of_rotate (hcodec : g.codec = .plain access) {secret : RefreshSecret}
    {expected : Option OwnerId} (h : (g.rotate secret expected w).1 = .ok t) :
    HandedOut g access w t := by
  obtain ⟨s, record, -, hrotate⟩ := replace_of_rotate h
  rw [hrotate] at h
  obtain ⟨htoken, haccess, hrefresh⟩ := handedOut_of_replace hcodec h
  exact ⟨htoken, haccess, hrefresh⟩

end HandedOut

/-! ## What is filed -/

variable {τ : Type} [SteadySource τ] {g : TokenEngine τ RefreshBackend} {c : TokenConfig}
  {access : AccessCodec} {w : World τ RefreshBackend} {d : SecretDigest} {x : Holding}

section Filed

variable {t : IssuedTokens} (hg : g.Made c (.plain access) .backend) (hq : w.stores.Quiet)
include hg hq

theorem free_of_issue {owner : OwnerId} (h : (g.issue owner w).1 = .ok t) :
    w.stores.held (g.nextSecret w).digest = none := by
  rcases issue_stages hg hq owner with ⟨w', ⟨cause, hissue⟩, -, -⟩ | ⟨t', w', hwrites⟩
  · rw [show g.issue owner w = _ from hissue g.store.delete] at h
    cases h
  · rw [show g.issue owner w = _ from hwrites.ends g.store.delete] at h
    have hput := (conclude_eq_ok h).2
    simp only [RefreshBackend.putAnswer] at hput
    split_ifs at hput with hdate hheld
    exact Option.not_isSome_iff_eq_none.mp hheld

theorem free_of_replace {old : SecretDigest} {expected : Option OwnerId}
    (h : (g.replace old expected w).1 = .ok t) :
    w.stores.held (g.nextSecret w).digest = none := by
  rcases replace_stages hg hq old expected with
    ⟨w', ⟨cause, hreplace⟩, -, -⟩ | ⟨refreshEnd, w', hwrites⟩
  · rw [show g.replace old expected w = _ from hreplace g.store.delete] at h
    cases h
  · rw [show g.replace old expected w = _ from hwrites.ends g.store.delete] at h
    obtain ⟨record, signed, hrotate, -, -⟩ := settle_eq_ok hg.codec h
    exact (RefreshBackend.rotateAnswer_eq_ok hrotate).2.2.1

theorem replaced_of_rotate {secret : RefreshSecret} {expected : Option OwnerId}
    (h : (g.rotate secret expected w).1 = .ok t) :
    (∃ r, w.stores.getAnswer secret.digest = .ok r) ∧
      g.rotate secret expected w = g.replace secret.digest expected (afterLook secret w) := by
  obtain ⟨s, r, hget, hrotate⟩ := replace_of_rotate h
  have hlook := (RefreshBackend.get_spec hq secret.digest).1
  rw [hg.store] at hget
  obtain rfl : s = (w.stores.get secret.digest).2 := (congrArg Prod.snd hget).symm
  exact ⟨⟨r, hlook.symm.trans (congrArg Prod.fst hget)⟩, hrotate⟩

theorem free_of_rotate {secret : RefreshSecret} {expected : Option OwnerId}
    (h : (g.rotate secret expected w).1 = .ok t) :
    w.stores.held (g.nextSecret w).digest = none := by
  have hshows := shows_afterLook hq secret
  rw [(replaced_of_rotate hg hq h).2] at h
  have hfree := free_of_replace (w := afterLook secret w) hg hshows.quiet h
  rwa [hshows.held] at hfree

structure Filed (g : TokenEngine τ RefreshBackend) (w w' : World τ RefreshBackend)
    (t : IssuedTokens) : Prop where
  held : w'.stores.held t.refreshToken.digest =
    some (w.stores.filing ⟨t.owner, w.now⟩ g.refreshTtl)
  now : w'.now = w.now
  clock : w'.stores.clock = w.stores.clock
  place : w'.stores.place = w.stores.place

theorem filed_of_issue {owner : OwnerId} (h : (g.issue owner w).1 = .ok t) :
    Filed g w (g.issue owner w).2 t ∧ t.owner.isEmpty = false := by
  have hends := issue_ends hg hq owner
  generalize g.issue owner w = ended at h hends ⊢
  cases hends with
  | refused => cases h
  | undated => cases h
  | granted hnow hnamed howner hsecret hshows =>
    cases h
    refine ⟨⟨?_, hnow, hshows.clock, hshows.place⟩, howner ▸ hnamed⟩
    rw [hshows.held, hsecret, howner, Function.update_self]

/-- The new record is of the owner that the look at the old one has told. -/
theorem filed_of_rotate {secret : RefreshSecret} {expected : Option OwnerId}
    (h : (g.rotate secret expected w).1 = .ok t) :
    Filed g w (g.rotate secret expected w).2 t ∧
      ∃ x r, w.stores.held secret.digest = some x ∧ x.record = .ok r ∧ r.owner = t.owner := by
  have hfree := free_of_rotate hg hq h
  obtain ⟨r, hlook⟩ := (replaced_of_rotate hg hq h).1
  have hends := rotate_ends hg hq secret expected
  generalize g.rotate secret expected w = ended at h hends ⊢
  cases hends with
  | refused => cases h
  | failed => cases h
  | unsigned => cases h
  | @granted _ _ x hnow hold howner hsecret hshows =>
    cases h
    simp only [RefreshBackend.getAnswer, hold] at hlook
    have hsame : r.owner = t.owner :=
      Except.ok.inj ((Holding.owner_of_record hlook).symm.trans howner)
    refine ⟨⟨?_, hnow, hshows.clock, hshows.place⟩, x, r, hold, hlook, hsame⟩
    have hne : (g.nextSecret w).digest ≠ secret.digest := by
      intro hsame
      rw [← hsame, hfree] at hold
      cases hold
    rw [hshows.held, hsecret, Function.update_of_ne hne, Function.update_self]

end Filed

/-! ## What is left alone -/

theorem IssueEnds.shows {owner : OwnerId}
    {r : Except TokenError IssuedTokens × World τ RefreshBackend} (h : IssueEnds g w owner r) :
    ∃ records, w.stores.Shows r.2.stores records := by
  cases h with
  | refused _ hshows => exact ⟨_, hshows⟩
  | undated _ _ hshows => exact ⟨_, hshows⟩
  | granted _ _ _ _ hshows => exact ⟨_, hshows⟩

theorem RotateEnds.shows {old : SecretDigest} {expected : Option OwnerId}
    {r : Except TokenError IssuedTokens × World τ RefreshBackend}
    (h : RotateEnds g access w old expected r) :
    ∃ records, w.stores.Shows r.2.stores records := by
  cases h with
  | refused _ hshows => exact ⟨_, hshows⟩
  | failed _ _ hshows => exact ⟨_, hshows⟩
  | unsigned _ _ _ hshows => exact ⟨_, hshows⟩
  | granted _ _ _ _ hshows => exact ⟨_, hshows⟩

section Keeps

variable (hg : g.Made c (.plain access) .backend) (hq : w.stores.Quiet)
  (hdate : w.stores.canDate g.refreshTtl = true)
include hg hq hdate

theorem issue_keeps (owner : OwnerId) (hx : w.stores.held d = some x) :
    (g.issue owner w).2.stores.held d = some x := by
  have hfree (t : IssuedTokens) (h : (g.issue owner w).1 = .ok t) :
      w.stores.held (g.nextSecret w).digest = none := free_of_issue hg hq h
  have hends := issue_ends hg hq owner
  generalize g.issue owner w = ended at hfree hends ⊢
  cases hends with
  | refused hnow hshows => rw [hshows.held, hx]
  | undated hnow hundated => cases hundated.symm.trans hdate
  | @granted t w' hnow hnamed howner hsecret hshows =>
    have hne : d ≠ (g.nextSecret w).digest := by
      rintro rfl
      cases hx.symm.trans (hfree t rfl)
    rw [hshows.held, Function.update_of_ne hne, hx]

/-- An exchange keeps every record but the one that it is given, if that can be read. -/
theorem replace_keeps {old : SecretDigest} {expected : Option OwnerId}
    (hread : ∀ y, w.stores.held old = some y → ∃ owner, y.owner = .ok owner)
    (hspent : old = d → (w.now.later? access.ttl).isSome = true ∧
      ∀ t, (g.replace old expected w).1 ≠ .ok t)
    (hx : w.stores.held d = some x) : (g.replace old expected w).2.stores.held d = some x := by
  have hfree (t : IssuedTokens) (h : (g.replace old expected w).1 = .ok t) :
      w.stores.held (g.nextSecret w).digest = none := free_of_replace hg hq h
  have hends := replace_ends hg hq old expected
  generalize g.replace old expected w = ended at hspent hfree hends ⊢
  cases hends with
  | refused hnow hshows => rw [hshows.held, hx]
  | @failed _ _ fault hnow hfault hshows =>
    -- A clock that tells the end and an owner who can be read leave no reason to fail.
    exfalso
    simp only [RefreshBackend.rotateAnswer, hdate, if_true] at hfault
    cases hold : w.stores.held old with
    | none =>
      rw [hold] at hfault
      cases hfault
    | some y =>
      obtain ⟨owner, howner⟩ := hread y hold
      simp only [hold, howner] at hfault
      split_ifs at hfault <;> cases hfault
  | unsigned hnow hlater hnew hshows =>
    have hne : d ≠ old := by
      rintro rfl
      have hsome := (hspent rfl).1
      rw [hlater] at hsome
      cases hsome
    rw [hshows.held, Function.update_of_ne hne, hx]
  | @granted t w' y hnow hold howner hsecret hshows =>
    have hne : d ≠ old := by
      rintro rfl
      exact (hspent rfl).2 t rfl
    have hnew : d ≠ (g.nextSecret w).digest := by
      rintro rfl
      cases hx.symm.trans (hfree t rfl)
    rw [hshows.held, Function.update_of_ne hne, Function.update_of_ne hnew, hx]

theorem rotate_keeps {secret : RefreshSecret} {expected : Option OwnerId}
    (hspent : secret.digest = d → (w.now.later? access.ttl).isSome = true ∧
      ∀ t, (g.rotate secret expected w).1 ≠ .ok t)
    (hx : w.stores.held d = some x) : (g.rotate secret expected w).2.stores.held d = some x := by
  have hshows := shows_afterLook hq secret
  have hheld : (afterLook secret w).stores.held d = some x := by rw [hshows.held, hx]
  have hcall : g.store.get secret.digest w.stores =
      (w.stores.getAnswer secret.digest, (afterLook secret w).stores) := by
    rw [hg.store]
    exact Prod.ext (RefreshBackend.get_spec hq secret.digest).1 rfl
  cases hget : w.stores.getAnswer secret.digest with
  | error e =>
    rw [hget] at hcall
    rw [rotate_unread hcall]
    exact hheld
  | ok record =>
    rw [hget] at hcall
    have hrotate : g.rotate secret expected w = _ := rotate_eq_replace hcall
    split_ifs at hrotate
    · rw [hrotate]
      exact hheld
    · rw [hrotate] at hspent ⊢
      refine replace_keeps (w := afterLook secret w) hg hshows.quiet ?_ (fun y hy => ?_) hspent
        hheld
      · rw [hshows.canDate, hdate]
      · -- The look has read the record, and so the owner.
        rw [hshows.held] at hy
        simp only [RefreshBackend.getAnswer, hy] at hget
        exact ⟨record.owner, Holding.owner_of_record hget⟩

end Keeps

end Gatehouse.TokenEngine
