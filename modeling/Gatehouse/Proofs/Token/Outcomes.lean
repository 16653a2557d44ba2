import Gatehouse.Proofs.Token.Engine
import Gatehouse.Proofs.Token.Stages

/-!
# Gatehouse.Proofs.Token.Outcomes

The ways in which an issue and a rotation end on a store that is left alone, with the records that
each leaves: `IssueEnds` and `RotateEnds`. Nothing is asked of the clocks or of the source of random
bytes, so an operation may fail after a part of its work, and then it takes back the record that no
client will learn of.

Up to its write an operation asks for no deletion. Either it fails before (`StopsEarly`), or the
answer of the store decides how it ends (`IssueWrites`, `ReplaceWrites`); which of the two it is
does not depend on what a deletion does.
-/

namespace Gatehouse.TokenEngine

open SteadySource (broken)

variable {τ : Type} {g : TokenEngine τ RefreshBackend} {c : TokenConfig} {access : AccessCodec}
  {w : World τ RefreshBackend}

/-! ## Up to the write -/

def withDelete (g : TokenEngine τ RefreshBackend)
    (delete : SecretDigest → RefreshBackend → Except StoreError Unit × RefreshBackend) :
    TokenEngine τ RefreshBackend :=
  { g with store := { g.store with delete } }

theorem shows_discard [ByteSource τ] (hg : g.Made c (.plain access) .backend)
    {v : World τ RefreshBackend} {records : SecretDigest → Option Holding}
    (hshows : w.stores.Shows v.stores records) (d : SecretDigest) :
    w.stores.Shows (g.discard d v).stores (Function.update records d none) := by
  have hdelete := (RefreshBackend.delete_spec hshows.quiet d).2
  rw [hshows.held] at hdelete
  rw [discard, hg.store]
  exact hshows.trans hdelete

variable [SteadySource τ]

/-- The operation fails because no tokens could be made, before it asks the store for a write. -/
structure StopsEarly
    (operation : TokenEngine τ RefreshBackend → Operation τ RefreshBackend TokenError IssuedTokens)
    (g : TokenEngine τ RefreshBackend) (w w' : World τ RefreshBackend) : Prop where
  ends : ∃ cause, ∀ delete, operation (g.withDelete delete) w = (.error (.generation cause), w')
  now : w'.now = w.now
  stores : w'.stores = w.stores

/-- The issue comes to its write: `w'` is the world after it, and `t` is what will be handed out. -/
structure IssueWrites (g : TokenEngine τ RefreshBackend) (owner : OwnerId)
    (w w' : World τ RefreshBackend) (t : IssuedTokens) : Prop where
  named : owner.isEmpty = false
  owned : t.owner = owner
  secret : t.refreshToken = g.nextSecret w
  now : w'.now = w.now
  shows : w.stores.Shows w'.stores (w.stores.filed (g.nextSecret w).digest ⟨owner, w.now⟩
    g.refreshTtl (w.stores.putAnswer (g.nextSecret w).digest g.refreshTtl))
  ends : ∀ delete, (g.withDelete delete).issue owner w = (g.withDelete delete).conclude t
    (w.stores.putAnswer (g.nextSecret w).digest g.refreshTtl) w'

theorem issue_stages (hg : g.Made c (.plain access) .backend) (hq : w.stores.Quiet)
    (owner : OwnerId) :
    (∃ w', StopsEarly (fun g => g.issue owner) g w w') ∨ ∃ t w', IssueWrites g owner w w' t := by
  cases howner : owner.isEmpty with
  | true => exact .inl ⟨w, ⟨_, fun delete => issue_unnamed howner⟩, rfl, rfl⟩
  | false =>
    cases hlater : w.now.later? g.refreshTtl with
    | none => exact .inl ⟨w, ⟨_, fun delete => issue_undated howner hlater⟩, rfl, rfl⟩
    | some refreshEnd =>
      cases hworks : broken w.entropy with
      | true =>
        have hdraw := g.draw_undrawn hg.long hworks
        exact .inl ⟨_, ⟨_, fun delete =>
          issue_undrawn (g := g.withDelete delete) howner hlater hdraw⟩, rfl, rfl⟩
      | false =>
        have hdraw := g.draw_nextSecret hg.long hworks
        rcases hsign : access.sign owner w.now (g.entropyAfter w) with ⟨a, e⟩
        have hsigned : g.codec.sign owner w.now { w with entropy := g.entropyAfter w } =
            (a, { w with entropy := e }) := by
          simp only [hg.codec, TokenCodec.plain, World.onEntropy, hsign]
        cases a with
        | error x =>
          obtain rfl := access.error_of_sign ((g.broken_entropyAfter w).trans hworks)
            (congrArg Prod.fst hsign)
          exact .inl ⟨_, ⟨_, fun delete =>
            issue_unsigned (g := g.withDelete delete) howner hlater hdraw hsigned⟩, rfl, rfl⟩
        | ok signed =>
          obtain ⟨hanswer, hshows⟩ := RefreshBackend.put_spec hq
            (hg.ttl ▸ hg.admitted.storable) (g.nextSecret w).digest ⟨owner, w.now⟩
          have hcall : g.store.put (g.nextSecret w).digest ⟨owner, w.now⟩ g.refreshTtl w.stores =
              (w.stores.putAnswer (g.nextSecret w).digest g.refreshTtl,
                (w.stores.put (g.nextSecret w).digest ⟨owner, w.now⟩ g.refreshTtl).2) := by
            rw [hg.store]
            exact Prod.ext hanswer rfl
          exact .inr ⟨⟨owner, signed.token, g.nextSecret w, signed.expiresAt, refreshEnd⟩,
            ⟨w.now, e, _⟩, howner, rfl, rfl, rfl, hshows, fun delete =>
              issue_eq_conclude (g := g.withDelete delete) howner hlater hdraw hsigned hcall⟩

structure ReplaceWrites (g : TokenEngine τ RefreshBackend) (old : SecretDigest)
    (expected : Option OwnerId) (w w' : World τ RefreshBackend) (refreshEnd : Instant) : Prop where
  now : w'.now = w.now
  works : broken w'.entropy = false
  shows : w.stores.Shows w'.stores (w.stores.rotated old (g.nextSecret w).digest g.refreshTtl
    (w.stores.rotateAnswer old (g.nextSecret w).digest expected w.now g.refreshTtl))
  ends : ∀ delete, (g.withDelete delete).replace old expected w =
    (g.withDelete delete).settle (g.nextSecret w) w.now refreshEnd
      (w.stores.rotateAnswer old (g.nextSecret w).digest expected w.now g.refreshTtl) w'

theorem replace_stages (hg : g.Made c (.plain access) .backend) (hq : w.stores.Quiet)
    (old : SecretDigest) (expected : Option OwnerId) :
    (∃ w', StopsEarly (fun g => g.replace old expected) g w w') ∨
      ∃ refreshEnd w', ReplaceWrites g old expected w w' refreshEnd := by
  cases hlater : w.now.later? g.refreshTtl with
  | none => exact .inl ⟨w, ⟨_, fun delete => replace_undated hlater⟩, rfl, rfl⟩
  | some refreshEnd =>
    cases hworks : broken w.entropy with
    | true =>
      have hdraw := g.draw_undrawn hg.long hworks
      exact .inl ⟨_, ⟨_, fun delete =>
        replace_undrawn (g := g.withDelete delete) hlater hdraw⟩, rfl, rfl⟩
    | false =>
      have hdraw := g.draw_nextSecret hg.long hworks
      obtain ⟨hanswer, hshows⟩ := RefreshBackend.rotate_spec hq (hg.ttl ▸ hg.admitted.storable) old
        (g.nextSecret w).digest expected w.now
      have hcall : g.store.rotate old (g.nextSecret w).digest expected w.now g.refreshTtl
          w.stores =
          (w.stores.rotateAnswer old (g.nextSecret w).digest expected w.now g.refreshTtl,
            (w.stores.rotate old (g.nextSecret w).digest expected w.now g.refreshTtl).2) := by
        rw [hg.store]
        exact Prod.ext hanswer rfl
      exact .inr ⟨refreshEnd, ⟨w.now, g.entropyAfter w, _⟩, rfl,
        (g.broken_entropyAfter w).trans hworks, hshows, fun delete =>
        replace_eq_settle (g := g.withDelete delete) hlater hdraw hcall⟩

/-! ## The ends -/

/-- How an issue ends, and the world that it leaves. -/
inductive IssueEnds (g : TokenEngine τ RefreshBackend) (w : World τ RefreshBackend)
    (owner : OwnerId) : Except TokenError IssuedTokens × World τ RefreshBackend → Prop where
  | refused {x : TokenError} {w' : World τ RefreshBackend} (hnow : w'.now = w.now)
      (hshows : w.stores.Shows w'.stores w.stores.held) : IssueEnds g w owner (.error x, w')
  | undated {x : TokenError} {w' : World τ RefreshBackend} (hnow : w'.now = w.now)
      (hdate : w.stores.canDate g.refreshTtl = false)
      (hshows : w.stores.Shows w'.stores
        (Function.update w.stores.held (g.nextSecret w).digest none)) :
      IssueEnds g w owner (.error x, w')
  | granted {t : IssuedTokens} {w' : World τ RefreshBackend} (hnow : w'.now = w.now)
      (hnamed : owner.isEmpty = false) (howner : t.owner = owner)
      (hsecret : t.refreshToken = g.nextSecret w)
      (hshows : w.stores.Shows w'.stores (Function.update w.stores.held (g.nextSecret w).digest
        (some (w.stores.filing ⟨owner, w.now⟩ g.refreshTtl)))) :
      IssueEnds g w owner (.ok t, w')

theorem canDate_of_putAnswer {b : RefreshBackend} {d : SecretDigest} {ttl : Span}
    {fault : StoreFault} (h : b.putAnswer d ttl = .error (.failed fault)) :
    b.canDate ttl = false := by
  cases hdate : b.canDate ttl with
  | false => rfl
  | true =>
    rw [RefreshBackend.putAnswer, if_pos hdate] at h
    split_ifs at h
    cases h

theorem issue_ends (hg : g.Made c (.plain access) .backend) (hq : w.stores.Quiet)
    (owner : OwnerId) : IssueEnds g w owner (g.issue owner w) := by
  rcases issue_stages hg hq owner with ⟨w', ⟨cause, hissue⟩, hnow, hstores⟩ | ⟨t, w', hwrites⟩
  · have hshows : w.stores.Shows w'.stores w.stores.held := by
      rw [hstores]
      exact .refl hq
    exact hissue g.store.delete ▸ .refused hnow hshows
  · have hissue : g.issue owner w = g.conclude t
        (w.stores.putAnswer (g.nextSecret w).digest g.refreshTtl) w' := hwrites.ends g.store.delete
    have hshows := hwrites.shows
    rw [hissue]
    cases hput : w.stores.putAnswer (g.nextSecret w).digest g.refreshTtl with
    | ok _ =>
      rw [hput] at hshows
      exact .granted hwrites.now hwrites.named hwrites.owned hwrites.secret hshows
    | error e =>
      rw [hput] at hshows
      cases e with
      | failed fault =>
        have hdiscard := shows_discard hg hshows t.refreshToken.digest
        exact .undated hwrites.now (canDate_of_putAnswer hput) (hwrites.secret ▸ hdiscard)
      | notFound => exact .refused hwrites.now hshows
      | ownerMismatch => exact .refused hwrites.now hshows
      | alreadyExists => exact .refused hwrites.now hshows

inductive RotateEnds (g : TokenEngine τ RefreshBackend) (access : AccessCodec)
    (w : World τ RefreshBackend) (old : SecretDigest) (expected : Option OwnerId) :
    Except TokenError IssuedTokens × World τ RefreshBackend → Prop where
  | refused {x : TokenError} {w' : World τ RefreshBackend} (hnow : w'.now = w.now)
      (hshows : w.stores.Shows w'.stores w.stores.held) :
      RotateEnds g access w old expected (.error x, w')
  | failed {x : TokenError} {w' : World τ RefreshBackend} {fault : StoreFault}
      (hnow : w'.now = w.now) (hfault : w.stores.rotateAnswer old (g.nextSecret w).digest expected
        w.now g.refreshTtl = .error (.failed fault))
      (hshows : w.stores.Shows w'.stores
        (Function.update w.stores.held (g.nextSecret w).digest none)) :
      RotateEnds g access w old expected (.error x, w')
  /-- The record has moved, and then its owner's access token cannot be signed. -/
  | unsigned {x : TokenError} {w' : World τ RefreshBackend} (hnow : w'.now = w.now)
      (hlater : w.now.later? access.ttl = none)
      (hfree : w.stores.held (g.nextSecret w).digest = none)
      (hshows : w.stores.Shows w'.stores (Function.update w.stores.held old none)) :
      RotateEnds g access w old expected (.error x, w')
  | granted {t : IssuedTokens} {w' : World τ RefreshBackend} {x : Holding} (hnow : w'.now = w.now)
      (hold : w.stores.held old = some x) (howner : x.owner = .ok t.owner)
      (hsecret : t.refreshToken = g.nextSecret w)
      (hshows : w.stores.Shows w'.stores (Function.update
        (Function.update w.stores.held (g.nextSecret w).digest
          (some (w.stores.filing ⟨t.owner, w.now⟩ g.refreshTtl))) old none)) :
      RotateEnds g access w old expected (.ok t, w')

theorem replace_ends (hg : g.Made c (.plain access) .backend) (hq : w.stores.Quiet)
    (old : SecretDigest) (expected : Option OwnerId) :
    RotateEnds g access w old expected (g.replace old expected w) := by
  rcases replace_stages hg hq old expected with
    ⟨w', ⟨cause, hreplace⟩, hnow, hstores⟩ | ⟨refreshEnd, w', hwrites⟩
  · have hshows : w.stores.Shows w'.stores w.stores.held := by
      rw [hstores]
      exact .refl hq
    exact hreplace g.store.delete ▸ .refused hnow hshows
  · have hreplace : g.replace old expected w = g.settle (g.nextSecret w) w.now refreshEnd
        (w.stores.rotateAnswer old (g.nextSecret w).digest expected w.now g.refreshTtl) w' :=
      hwrites.ends g.store.delete
    have hshows := hwrites.shows
    rw [hreplace]
    cases hrotate : w.stores.rotateAnswer old (g.nextSecret w).digest expected w.now
        g.refreshTtl with
    | error e =>
      rw [hrotate] at hshows
      cases e with
      | failed fault => exact .failed hwrites.now hrotate (shows_discard hg hshows _)
      | notFound => exact .refused hwrites.now hshows
      | ownerMismatch => exact .refused hwrites.now hshows
      | alreadyExists => exact .refused hwrites.now hshows
    | ok record =>
      obtain ⟨-, ⟨x, hold, howner, -⟩, hfree, hissued⟩ := RefreshBackend.rotateAnswer_eq_ok hrotate
      obtain ⟨owner, issuedAt⟩ := record
      obtain rfl : issuedAt = w.now := hissued
      rw [hrotate] at hshows
      simp only [settle, hg.codec, TokenCodec.plain, World.onEntropy]
      rcases hsign : access.sign owner w.now w'.entropy with ⟨x | signed, e⟩
      · -- random bytes can still be drawn, so it is the expiry that cannot be told
        have hx := access.error_of_sign hwrites.works (congrArg Prod.fst hsign)
        have hnone : w.now.later? access.ttl = none := by
          by_contra hsome
          obtain ⟨accessEnd, hend⟩ := Option.ne_none_iff_exists'.mp hsome
          obtain ⟨token, e', hok, -⟩ := access.sign_eq owner hend hwrites.works
          cases hsign.symm.trans hok
        subst hx
        have hdiscard := shows_discard (v := { w' with entropy := e }) hg hshows
          (g.nextSecret w).digest
        have hrecords : Function.update (w.stores.rotated old (g.nextSecret w).digest
            g.refreshTtl (.ok ⟨owner, w.now⟩)) (g.nextSecret w).digest none =
            Function.update w.stores.held old none := by
          funext d
          simp only [RefreshBackend.rotated, Function.update_apply]
          split_ifs with h₁ h₂ <;> simp_all
        rw [hrecords] at hdiscard
        exact .unsigned hwrites.now hnone hfree hdiscard
      · exact .granted hwrites.now hold howner rfl hshows

theorem rotate_ends (hg : g.Made c (.plain access) .backend) (hq : w.stores.Quiet)
    (secret : RefreshSecret) (expected : Option OwnerId) :
    RotateEnds g access w secret.digest expected (g.rotate secret expected w) := by
  have hshows := shows_afterLook hq secret
  have hcall : g.store.get secret.digest w.stores =
      (w.stores.getAnswer secret.digest, (afterLook secret w).stores) := by
    rw [hg.store]
    exact Prod.ext (RefreshBackend.get_spec hq secret.digest).1 rfl
  cases hget : w.stores.getAnswer secret.digest with
  | error e =>
    rw [hget] at hcall
    rw [rotate_unread hcall]
    exact .refused rfl hshows
  | ok record =>
    rw [hget] at hcall
    rw [rotate_eq_replace hcall]
    split_ifs
    · exact .refused rfl hshows
    · have hends := replace_ends (w := afterLook secret w) hg hshows.quiet secret.digest expected
      have hheld : (afterLook secret w).stores.held = w.stores.held := hshows.held
      change RotateEnds g access w secret.digest expected
        (g.replace secret.digest expected (afterLook secret w))
      generalize g.replace secret.digest expected (afterLook secret w) = ended at hends ⊢
      cases hends with
      | refused hnow hsame =>
        rw [hheld] at hsame
        exact .refused hnow (hshows.trans hsame)
      | failed hnow hfault hgone =>
        rw [hheld] at hgone
        exact .failed hnow (hshows.rotateAnswer .. ▸ hfault) (hshows.trans hgone)
      | unsigned hnow hlater hfree hgone =>
        rw [hheld] at hfree hgone
        exact .unsigned hnow hlater hfree (hshows.trans hgone)
      | granted hnow hold howner hsecret hmoved =>
        rw [hheld, hshows.filing] at hmoved
        rw [hheld] at hold
        exact .granted hnow hold howner hsecret (hshows.trans hmoved)

end Gatehouse.TokenEngine
