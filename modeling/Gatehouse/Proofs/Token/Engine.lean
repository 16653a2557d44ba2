import Gatehouse.Proofs.Refresh.Contract

/-!
# Gatehouse.Proofs.Token.Engine

The operations of an engine on a store that is left alone, in terms of the records that are held.
While random bytes can be drawn and every expiry can be told (`Able`), an operation is refused for
what it is given, and for nothing else; `Steady` is the case that the clock has passed 1970.

* `made_of_ofConfig`: what an accepted configuration says of its engine.
* `issue_spec`, `validateRefresh_spec`, `rotate_spec`, `revoke_spec`: one lemma for each operation.
-/

namespace Gatehouse

open SteadySource (broken isSome_draw broken_draw)

/-! ## Random bytes and signatures -/

def ByteSource.next {τ : Type} [ByteSource τ] (n : Nat) (e : τ) : List UInt8 :=
  (draw n e).1.getD []

section Sources

variable {τ : Type} [SteadySource τ] {e : τ}

theorem SteadySource.draw_eq (n : Nat) (he : broken e = false) :
    ∃ bytes e', ByteSource.draw n e = (some bytes, e') ∧ broken e' = false := by
  have hsome := isSome_draw n e
  have hworks := broken_draw n e
  rw [he] at hsome hworks
  obtain ⟨bytes, hbytes⟩ := Option.isSome_iff_exists.mp hsome
  exact ⟨bytes, _, Prod.ext hbytes rfl, hworks⟩

theorem SteadySource.draw_broken (n : Nat) (he : broken e = true) :
    ∃ e', ByteSource.draw n e = (none, e') := by
  have hnone := isSome_draw n e
  rw [he] at hnone
  exact ⟨_, Prod.ext (Option.isNone_iff_eq_none.mp (Option.isSome_eq_false_iff.mp hnone)) rfl⟩

theorem AccessCodec.sign_eq (c : AccessCodec) (owner : OwnerId) {now expiresAt : Instant}
    (h : now.later? c.ttl = some expiresAt) (he : broken e = false) :
    ∃ token e', c.sign owner now e = (.ok ⟨token, expiresAt⟩, e') ∧ broken e' = false := by
  obtain ⟨bytes, e', hdraw, hworks⟩ := SteadySource.draw_eq 16 he
  simp only [sign, h, Uuid.draw, hdraw]
  exact ⟨_, _, rfl, hworks⟩

/-- While random bytes can be drawn, only an expiry that cannot be told keeps a token from being
signed. -/
theorem AccessCodec.error_of_sign (c : AccessCodec) {owner : OwnerId} {now : Instant}
    (he : broken e = false) {x : TokenError} (h : (c.sign owner now e).1 = .error x) :
    x = .generation .accessExpiryOutOfRange := by
  cases hlater : now.later? c.ttl with
  | none =>
    simp only [sign, hlater] at h
    exact (Except.error.inj h).symm
  | some expiresAt =>
    obtain ⟨token, e', hsign, -⟩ := c.sign_eq owner hlater he
    rw [hsign] at h
    cases h

end Sources

/-! ## Calls -/

inductive TokenCall where
  | issue (owner : OwnerId)
  | validateRefresh (secret : RefreshSecret)
  | rotate (secret : RefreshSecret) (expected : Option OwnerId)
  | revoke (secret : RefreshSecret)

inductive TokenAnswer where
  | tokens (t : IssuedTokens)
  | owner (o : OwnerId)
  | done

def TokenCall.apply {τ σ : Type} [ByteSource τ] (g : TokenEngine τ σ) :
    TokenCall → World τ σ → Except TokenError TokenAnswer × World τ σ
  | issue owner, w => ((g.issue owner w).1.map .tokens, (g.issue owner w).2)
  | validateRefresh secret, w =>
    ((g.validateRefresh secret w).1.map .owner, (g.validateRefresh secret w).2)
  | rotate secret expected, w =>
    ((g.rotate secret expected w).1.map .tokens, (g.rotate secret expected w).2)
  | revoke secret, w => ((g.revoke secret w).1.map fun _ => .done, (g.revoke secret w).2)

namespace TokenEngine

/-! ## Accepted configurations -/

section Made

variable {τ σ : Type} [ByteSource τ]

structure Made (g : TokenEngine τ σ) (c : TokenConfig) (codec : TokenCodec τ σ)
    (store : RefreshStore σ) : Prop where
  codec : g.codec = codec
  store : g.store = store
  ttl : g.refreshTtl = c.refreshTtl
  long : RefreshSecret.fewestBytes ≤ g.secretBytes
  admitted : c.refreshTtl.Admitted

theorem made_of_ofConfig {c : TokenConfig} {store : RefreshStore σ} {now : Instant}
    {wrap : TokenCodec τ σ → TokenCodec τ σ} {g : TokenEngine τ σ}
    (hnow : Instant.inCalendar now.secs = true) (h : ofConfig c store now wrap = .ok g) :
    ∃ access : AccessCodec, access.ttl = c.access.ttl ∧
      g.Made c (wrap (.plain access)) store := by
  unfold ofConfig at h
  split at h
  · cases h
  rename_i access haccess
  refine ⟨access, ?_, ?_⟩
  · unfold AccessCodec.ofConfig at haccess
    split_ifs at haccess
    split at haccess
    · cases haccess
    · cases haccess
      rfl
  · unfold withCodec at h
    split_ifs at h with hzero hshort
    split at h
    · cases h
    · rename_i hcheck
      cases h
      exact ⟨rfl, rfl, rfl, Nat.le_of_not_lt hshort, by simpa using hzero, now, hnow, hcheck⟩

def nextSecret (g : TokenEngine τ σ) (w : World τ σ) : RefreshSecret :=
  ⟨Base64.url.encode (ByteSource.next g.secretBytes w.entropy)⟩

def entropyAfter (g : TokenEngine τ σ) (w : World τ σ) : τ :=
  (ByteSource.draw g.secretBytes w.entropy).2

theorem draw_of_isSome {g : TokenEngine τ σ} {w : World τ σ}
    (hlong : RefreshSecret.fewestBytes ≤ g.secretBytes)
    (h : (ByteSource.draw g.secretBytes w.entropy).1.isSome = true) :
    RefreshSecret.draw g.secretBytes w.entropy = (.ok (g.nextSecret w), g.entropyAfter w) := by
  rcases hdraw : ByteSource.draw g.secretBytes w.entropy with ⟨bytes, e⟩
  rw [hdraw] at h
  obtain ⟨bytes, rfl⟩ := Option.isSome_iff_exists.mp h
  rw [RefreshSecret.draw_some hlong hdraw, nextSecret, entropyAfter, ByteSource.next, hdraw]
  rfl

theorem draw_of_isNone {g : TokenEngine τ σ} {w : World τ σ}
    (hlong : RefreshSecret.fewestBytes ≤ g.secretBytes)
    (h : (ByteSource.draw g.secretBytes w.entropy).1.isSome = false) :
    RefreshSecret.draw g.secretBytes w.entropy = (.error .noEntropy, g.entropyAfter w) := by
  rcases hdraw : ByteSource.draw g.secretBytes w.entropy with ⟨bytes, e⟩
  rw [hdraw] at h
  obtain rfl := Option.isSome_eq_false_iff.mp h |> Option.isNone_iff_eq_none.mp
  rw [RefreshSecret.draw_none hlong hdraw, entropyAfter, hdraw]

end Made

section Steady

variable {τ σ : Type} [SteadySource τ] (g : TokenEngine τ σ) {w : World τ σ}

theorem broken_entropyAfter (w : World τ σ) : broken (g.entropyAfter w) = broken w.entropy :=
  broken_draw g.secretBytes w.entropy

theorem draw_nextSecret (hlong : RefreshSecret.fewestBytes ≤ g.secretBytes)
    (he : broken w.entropy = false) :
    RefreshSecret.draw g.secretBytes w.entropy = (.ok (g.nextSecret w), g.entropyAfter w) :=
  draw_of_isSome hlong (by rw [isSome_draw, he]; rfl)

theorem draw_undrawn (hlong : RefreshSecret.fewestBytes ≤ g.secretBytes)
    (he : broken w.entropy = true) :
    RefreshSecret.draw g.secretBytes w.entropy = (.error .noEntropy, g.entropyAfter w) :=
  draw_of_isNone hlong (by rw [isSome_draw, he]; rfl)

end Steady

/-! ## On a store that is left alone -/

variable {τ : Type}

/-- Whether a rotation that expects this may be given a record of that owner. -/
def Accepts (expected : Option OwnerId) (owner : OwnerId) : Prop :=
  expected = none ∨ expected = some owner

theorem any_ne_eq_false_iff {expected : Option OwnerId} {owner : OwnerId} :
    (expected.any fun e => e ≠ owner) = false ↔ Accepts expected owner := by
  cases expected <;> simp [Accepts]

theorem refuses_eq_false {b : RefreshBackend} {expected : Option OwnerId} {owner : OwnerId}
    (h : Accepts expected owner) : b.refuses expected owner = false := by
  rcases h with rfl | rfl <;> cases b <;> simp [RefreshBackend.refuses]

/-- The world after the look at the old record, with which a rotation begins. -/
def afterLook (secret : RefreshSecret) (w : World τ RefreshBackend) : World τ RefreshBackend :=
  { w with stores := (w.stores.get secret.digest).2 }

theorem shows_afterLook {w : World τ RefreshBackend} (hq : w.stores.Quiet)
    (secret : RefreshSecret) : w.stores.Shows (afterLook secret w).stores w.stores.held :=
  (RefreshBackend.get_spec hq secret.digest).2

section Look

variable [ByteSource τ] {g : TokenEngine τ RefreshBackend} {c : TokenConfig}
  {access : AccessCodec} {w : World τ RefreshBackend}

theorem rotate_held (hg : g.Made c (.plain access) .backend) (hq : w.stores.Quiet)
    {secret : RefreshSecret} {x : Holding} {owner : OwnerId} (expected : Option OwnerId)
    (hold : w.stores.held secret.digest = some x) (howner : x.IsOf owner) :
    g.rotate secret expected w =
      if expected.any fun e => e ≠ owner then (.error .invalid, afterLook secret w)
      else g.replace secret.digest expected (afterLook secret w) := by
  obtain ⟨issuedAt, hrecord⟩ := howner.record
  have hget := (RefreshBackend.get_spec hq secret.digest).1
  simp only [RefreshBackend.getAnswer, hold, hrecord] at hget
  simp only [rotate, hg.store, RefreshStore.backend, World.onStores, hget]
  rfl

theorem rotate_absent (hg : g.Made c (.plain access) .backend) (hq : w.stores.Quiet)
    {secret : RefreshSecret} (expected : Option OwnerId)
    (hold : w.stores.held secret.digest = none) :
    g.rotate secret expected w = (.error .invalid, afterLook secret w) := by
  have hget := (RefreshBackend.get_spec hq secret.digest).1
  simp only [RefreshBackend.getAnswer, hold] at hget
  simp only [rotate, hg.store, RefreshStore.backend, World.onStores, hget]
  rfl

end Look

/-- The pair that an engine hands out for an owner in a world. -/
structure PairFor {σ : Type} [ByteSource τ] (g : TokenEngine τ σ) (c : TokenConfig)
    (w : World τ σ) (owner : OwnerId) (t : IssuedTokens) : Prop where
  owner : t.owner = owner
  secret : t.refreshToken = g.nextSecret w
  accessEnd : w.now.later? c.access.ttl = some t.accessExpiresAt
  refreshEnd : w.now.later? c.refreshTtl = some t.refreshExpiresAt

variable [SteadySource τ]

/-- Random bytes can be drawn, and every expiry can be told. -/
structure Able (c : TokenConfig) (w : World τ RefreshBackend) : Prop where
  entropy : broken w.entropy = false
  access : (w.now.later? c.access.ttl).isSome = true
  refresh : (w.now.later? c.refreshTtl).isSome = true
  dated : w.stores.canDate c.refreshTtl = true

/-- Random bytes can be drawn, the clock stands at 1970 or later, and every expiry can be told. -/
structure Steady (c : TokenConfig) (w : World τ RefreshBackend) : Prop where
  entropy : broken w.entropy = false
  since : 0 ≤ w.now.secs
  access : (w.now.later? c.access.ttl).isSome = true
  refresh : (w.now.later? c.refreshTtl).isSome = true
  dated : w.stores.canDate c.refreshTtl = true

instance (c : TokenConfig) (w : World τ RefreshBackend) : Decidable (Steady c w) :=
  decidable_of_iff
    (broken w.entropy = false ∧ 0 ≤ w.now.secs ∧ (w.now.later? c.access.ttl).isSome = true ∧
      (w.now.later? c.refreshTtl).isSome = true ∧ w.stores.canDate c.refreshTtl = true)
    ⟨fun ⟨h₁, h₂, h₃, h₄, h₅⟩ => ⟨h₁, h₂, h₃, h₄, h₅⟩,
      fun ⟨h₁, h₂, h₃, h₄, h₅⟩ => ⟨h₁, h₂, h₃, h₄, h₅⟩⟩

theorem Steady.able {c : TokenConfig} {w : World τ RefreshBackend} (h : Steady c w) : Able c w :=
  ⟨h.entropy, h.access, h.refresh, h.dated⟩

theorem Steady.inCalendar {c : TokenConfig} {w : World τ RefreshBackend} (h : Steady c w) :
    Instant.inCalendar w.now.secs = true := by
  have hsince := h.since
  have hlater := Instant.inCalendar_iff.mp (Instant.later?_isSome_iff.mp h.refresh)
  rw [Instant.inCalendar_iff]
  simp only [Instant.secs, Instant.firstSecs, Instant.lastSecs, Span.second] at *
  omega

/-- What an operation leaves: the same wall clock, a source that works as before, and these
records. -/
structure Leaves (w w' : World τ RefreshBackend) (records : SecretDigest → Option Holding) :
    Prop where
  now : w'.now = w.now
  entropy : broken w'.entropy = broken w.entropy
  stores : w.stores.Shows w'.stores records

section Backend

variable {g : TokenEngine τ RefreshBackend} {c : TokenConfig} {access : AccessCodec}
  {w : World τ RefreshBackend}

theorem Leaves.refl (hq : w.stores.Quiet) : Leaves w w w.stores.held :=
  ⟨rfl, rfl, RefreshBackend.Shows.refl hq⟩

theorem validateRefresh_spec (hg : g.Made c (.plain access) .backend) (hq : w.stores.Quiet)
    (secret : RefreshSecret) :
    (g.validateRefresh secret w).1 =
        (match w.stores.getAnswer secret.digest with
          | .error e => .error (.ofStore e)
          | .ok r => .ok r.owner) ∧
      Leaves w (g.validateRefresh secret w).2 w.stores.held := by
  obtain ⟨hanswer, hshows⟩ := RefreshBackend.get_spec hq secret.digest
  simp only [validateRefresh, hg.store, RefreshStore.backend, World.onStores, hanswer]
  cases w.stores.getAnswer secret.digest with
  | error e => exact ⟨rfl, rfl, rfl, hshows⟩
  | ok r => exact ⟨rfl, rfl, rfl, hshows⟩

theorem validateRefresh_held (hg : g.Made c (.plain access) .backend) (hq : w.stores.Quiet)
    {secret : RefreshSecret} {x : Holding} {owner : OwnerId}
    (hx : w.stores.held secret.digest = some x) (howner : x.IsOf owner) :
    (g.validateRefresh secret w).1 = .ok owner := by
  obtain ⟨issuedAt, hrecord⟩ := howner.record
  rw [(validateRefresh_spec hg hq secret).1]
  simp only [RefreshBackend.getAnswer, hx, hrecord]

theorem validateRefresh_absent (hg : g.Made c (.plain access) .backend) (hq : w.stores.Quiet)
    {secret : RefreshSecret} (hx : w.stores.held secret.digest = none) :
    (g.validateRefresh secret w).1 = .error .invalid := by
  rw [(validateRefresh_spec hg hq secret).1]
  simp only [RefreshBackend.getAnswer, hx]
  rfl

theorem revoke_spec (hg : g.Made c (.plain access) .backend) (hq : w.stores.Quiet)
    (secret : RefreshSecret) :
    (g.revoke secret w).1 = .ok () ∧
      Leaves w (g.revoke secret w).2 (Function.update w.stores.held secret.digest none) := by
  obtain ⟨hanswer, hshows⟩ := RefreshBackend.delete_spec hq secret.digest
  simp only [revoke, hg.store, RefreshStore.backend, World.onStores, hanswer]
  exact ⟨trivial, rfl, rfl, hshows⟩

theorem issue_spec (hg : g.Made c (.plain access) .backend) (hq : w.stores.Quiet)
    (hs : Able c w) (hacc : access.ttl = c.access.ttl) {owner : OwnerId}
    (howner : owner.isEmpty = false) (hfree : w.stores.held (g.nextSecret w).digest = none) :
    ∃ t w', g.issue owner w = (.ok t, w') ∧ g.PairFor c w owner t ∧
      Leaves w w' (Function.update w.stores.held (g.nextSecret w).digest
        (some (w.stores.filing ⟨owner, w.now⟩ c.refreshTtl))) := by
  obtain ⟨accessEnd, haccess⟩ := Option.isSome_iff_exists.mp hs.access
  obtain ⟨refreshEnd, hrefresh⟩ := Option.isSome_iff_exists.mp hs.refresh
  have hdraw := g.draw_nextSecret hg.long hs.entropy
  obtain ⟨token, e', hsign, hworks⟩ := access.sign_eq owner (hacc ▸ haccess)
    (e := g.entropyAfter w) ((g.broken_entropyAfter w).trans hs.entropy)
  obtain ⟨hput, hshows⟩ := RefreshBackend.put_spec hq hg.admitted.storable (g.nextSecret w).digest
    ⟨owner, w.now⟩
  have hanswer : w.stores.putAnswer (g.nextSecret w).digest c.refreshTtl = .ok () := by
    simp [RefreshBackend.putAnswer, hs.dated, hfree]
  rw [hanswer] at hput hshows
  refine ⟨⟨owner, token, g.nextSecret w, accessEnd, refreshEnd⟩,
    ⟨w.now, e', (w.stores.put (g.nextSecret w).digest ⟨owner, w.now⟩ c.refreshTtl).2⟩, ?_,
    ⟨rfl, rfl, haccess, hrefresh⟩, ⟨rfl, hworks.trans hs.entropy.symm, hshows⟩⟩
  simp only [issue, howner, hg.ttl, hrefresh, World.onEntropy, hdraw, hg.codec, TokenCodec.plain,
    hsign, hg.store, RefreshStore.backend, World.onStores, hput]
  exact if_neg Bool.false_ne_true

theorem issue_empty {owner : OwnerId} (howner : owner.isEmpty = true) :
    g.issue owner w = (.error (.generation .emptyOwner), w) := by
  simp [issue, howner]

/-- A new secret takes the place of one whose record is not refused. -/
theorem replace_spec (hg : g.Made c (.plain access) .backend) (hq : w.stores.Quiet)
    (hs : Able c w) (hacc : access.ttl = c.access.ttl) {old : SecretDigest} {x : Holding}
    {owner : OwnerId} {expected : Option OwnerId} (hold : w.stores.held old = some x)
    (howner : x.owner = .ok owner) (hexp : w.stores.refuses expected owner = false)
    (hfree : w.stores.held (g.nextSecret w).digest = none) :
    ∃ t w', g.replace old expected w = (.ok t, w') ∧ g.PairFor c w owner t ∧
      Leaves w w' (Function.update (Function.update w.stores.held (g.nextSecret w).digest
        (some (w.stores.filing ⟨owner, w.now⟩ c.refreshTtl))) old none) := by
  obtain ⟨accessEnd, haccess⟩ := Option.isSome_iff_exists.mp hs.access
  obtain ⟨refreshEnd, hrefresh⟩ := Option.isSome_iff_exists.mp hs.refresh
  have hdraw := g.draw_nextSecret hg.long hs.entropy
  obtain ⟨token, e', hsign, hworks⟩ := access.sign_eq owner (hacc ▸ haccess)
    (e := g.entropyAfter w) ((g.broken_entropyAfter w).trans hs.entropy)
  obtain ⟨hrotate, hshows⟩ := RefreshBackend.rotate_spec hq hg.admitted.storable old
    (g.nextSecret w).digest expected w.now
  have hanswer : w.stores.rotateAnswer old (g.nextSecret w).digest expected w.now c.refreshTtl =
      .ok ⟨owner, w.now⟩ := by
    rw [RefreshBackend.rotateAnswer_held hs.dated hold howner, hexp, hfree]
    rfl
  rw [hanswer] at hrotate hshows
  refine ⟨⟨owner, token, g.nextSecret w, accessEnd, refreshEnd⟩,
    ⟨w.now, e', (w.stores.rotate old (g.nextSecret w).digest expected w.now c.refreshTtl).2⟩, ?_,
    ⟨rfl, rfl, haccess, hrefresh⟩, ⟨rfl, hworks.trans hs.entropy.symm, hshows⟩⟩
  simp only [replace, hg.ttl, hrefresh, World.onEntropy, hdraw, hg.codec, TokenCodec.plain,
    hsign, hg.store, RefreshStore.backend, World.onStores, hrotate]

theorem leaves_afterLook (hq : w.stores.Quiet) (secret : RefreshSecret) :
    Leaves w (afterLook secret w) w.stores.held :=
  ⟨rfl, rfl, shows_afterLook hq secret⟩

theorem Leaves.trans {w₁ w₂ : World τ RefreshBackend} {records : SecretDigest → Option Holding}
    (h₁ : Leaves w w₁ w.stores.held) (h₂ : Leaves w₁ w₂ records) : Leaves w w₂ records :=
  ⟨h₂.now.trans h₁.now, h₂.entropy.trans h₁.entropy, h₁.stores.trans h₂.stores⟩

/-- A secret that is held is traded for a new pair of its owner, if that owner is accepted. -/
theorem rotate_spec (hg : g.Made c (.plain access) .backend) (hq : w.stores.Quiet)
    (hs : Able c w) (hacc : access.ttl = c.access.ttl) {secret : RefreshSecret} {x : Holding}
    {owner : OwnerId} {expected : Option OwnerId} (hold : w.stores.held secret.digest = some x)
    (howner : x.IsOf owner) (hexp : Accepts expected owner)
    (hfree : w.stores.held (g.nextSecret w).digest = none) :
    ∃ t w', g.rotate secret expected w = (.ok t, w') ∧ g.PairFor c w owner t ∧
      Leaves w w' (Function.update (Function.update w.stores.held (g.nextSecret w).digest
        (some (w.stores.filing ⟨owner, w.now⟩ c.refreshTtl))) secret.digest none) := by
  have hlook := leaves_afterLook hq secret
  have hheld := hlook.stores.held
  have hs₁ : Able c (afterLook secret w) :=
    ⟨hs.entropy, hs.access, hs.refresh, hlook.stores.canDate c.refreshTtl ▸ hs.dated⟩
  obtain ⟨t, w', hcall, hpair, hleaves⟩ := replace_spec hg
    hlook.stores.quiet hs₁ hacc (hheld ▸ hold) howner.owner (refuses_eq_false hexp) (hheld ▸ hfree)
  refine ⟨t, w', ?_, ⟨hpair.owner, hpair.secret, hpair.accessEnd, hpair.refreshEnd⟩, ?_⟩
  · rw [rotate_held hg hq expected hold howner, if_neg, hcall]
    rw [any_ne_eq_false_iff.mpr hexp]
    exact Bool.false_ne_true
  · rw [hheld, hlook.stores.filing] at hleaves
    exact hlook.trans hleaves

theorem rotate_refused (hg : g.Made c (.plain access) .backend) (hq : w.stores.Quiet)
    {secret : RefreshSecret} {expected : Option OwnerId}
    (h : w.stores.held secret.digest = none ∨ ∃ x owner,
      w.stores.held secret.digest = some x ∧ x.IsOf owner ∧ ¬ Accepts expected owner) :
    ∃ w', g.rotate secret expected w = (.error .invalid, w') ∧ Leaves w w' w.stores.held := by
  refine ⟨afterLook secret w, ?_, leaves_afterLook hq secret⟩
  rcases h with hold | ⟨x, owner, hold, howner, hexp⟩
  · exact rotate_absent hg hq expected hold
  · rw [rotate_held hg hq expected hold howner, if_pos]
    rw [← any_ne_eq_false_iff] at hexp
    simpa using hexp

end Backend

end TokenEngine
end Gatehouse
