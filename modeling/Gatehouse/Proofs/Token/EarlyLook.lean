import Gatehouse.Proofs.Token.Outcomes
import Gatehouse.Proofs.Token.Reached

/-!
# Gatehouse.Proofs.Token.EarlyLook

A rotation begins with a look at the old record, which spares it the drawing of random bytes for a
secret that is no longer good or is another owner's. The store looks at the record once more when it
moves it, and comes to the same result: without the early look a rotation would answer the same and
leave the same records (`early_look_changes_nothing`).

The two looks ask for different things. The first is satisfied by a record that can be read, the
second by an owner that can be; they agree since an engine files no record that is without either
(`Reached.tidy`). An expected owner without a name is none for a server, but not for the engine.
-/

namespace Gatehouse.TokenEngine

variable {τ : Type}

/-- Two ends of an operation that began in `w`, with the same answer and the same records. -/
structure SameEnd (w : World τ RefreshBackend)
    (r r' : Except TokenError IssuedTokens × World τ RefreshBackend) : Prop where
  answer : r.1 = r'.1
  shows : ∃ records, w.stores.Shows r.2.stores records ∧ w.stores.Shows r'.2.stores records

theorem SameEnd.held {w : World τ RefreshBackend}
    {r r' : Except TokenError IssuedTokens × World τ RefreshBackend} (h : SameEnd w r r') :
    r.2.stores.held = r'.2.stores.held := by
  obtain ⟨records, hshows, hshows'⟩ := h.shows
  rw [hshows.held, hshows'.held]

variable [ByteSource τ] {g : TokenEngine τ RefreshBackend} {c : TokenConfig}
  {access : AccessCodec} {u v w : World τ RefreshBackend}

/-- The end of an exchange depends on no more of the world than the source of random bytes. -/
theorem settle_same (hg : g.Made c (.plain access) .backend) (hentropy : u.entropy = v.entropy)
    {records : SecretDigest → Option Holding} (hu : w.stores.Shows u.stores records)
    (hv : w.stores.Shows v.stores records) (secret : RefreshSecret) (now refreshEnd : Instant)
    (a : Except StoreError RefreshRecord) :
    SameEnd w (g.settle secret now refreshEnd a u) (g.settle secret now refreshEnd a v) := by
  cases a with
  | error x =>
    cases x with
    | failed fault =>
      exact ⟨rfl, _, shows_discard hg hu secret.digest, shows_discard hg hv secret.digest⟩
    | notFound => exact ⟨rfl, records, hu, hv⟩
    | ownerMismatch => exact ⟨rfl, records, hu, hv⟩
    | alreadyExists => exact ⟨rfl, records, hu, hv⟩
  | ok record =>
    rcases hsign : access.sign record.owner now v.entropy with ⟨signed, e⟩
    have hsignu : g.codec.sign record.owner now u = (signed, { u with entropy := e }) := by
      simp only [hg.codec, TokenCodec.plain, World.onEntropy, hentropy, hsign]
    have hsignv : g.codec.sign record.owner now v = (signed, { v with entropy := e }) := by
      simp only [hg.codec, TokenCodec.plain, World.onEntropy, hsign]
    simp only [settle, hsignu, hsignv]
    cases signed with
    | ok signed => exact ⟨rfl, records, hu, hv⟩
    | error x =>
      have hdiscardu := shows_discard hg (v := { u with entropy := e }) hu secret.digest
      have hdiscardv := shows_discard hg (v := { v with entropy := e }) hv secret.digest
      cases x with
      | aborted => exact ⟨rfl, records, hu, hv⟩
      | _ => exact ⟨rfl, _, hdiscardu, hdiscardv⟩

theorem replace_same (hg : g.Made c (.plain access) .backend) (hq : w.stores.Quiet)
    (hnow : u.now = w.now) (hentropy : u.entropy = w.entropy)
    (hlook : w.stores.Shows u.stores w.stores.held) (old : SecretDigest)
    (expected : Option OwnerId) :
    SameEnd w (g.replace old expected u) (g.replace old expected w) := by
  have hsame := RefreshBackend.Shows.refl hq
  cases hlater : w.now.later? g.refreshTtl with
  | none =>
    rw [replace_undated (w := u) (hnow ▸ hlater), replace_undated hlater]
    exact ⟨rfl, _, hlook, hsame⟩
  | some refreshEnd =>
    rcases hdraw : RefreshSecret.draw g.secretBytes w.entropy with ⟨x | secret, e⟩
    · rw [replace_undrawn (w := u) (hnow ▸ hlater) (hentropy ▸ hdraw), replace_undrawn hlater hdraw]
      exact ⟨rfl, _, hlook, hsame⟩
    · have ht : g.refreshTtl.Storable := hg.ttl ▸ hg.admitted.storable
      obtain ⟨hanswer, hshows⟩ := RefreshBackend.rotate_spec hq ht old secret.digest expected w.now
      obtain ⟨hanswer₁, hshows₁⟩ := RefreshBackend.rotate_spec hlook.quiet ht old secret.digest
        expected w.now
      rw [hlook.rotateAnswer] at hanswer₁ hshows₁
      generalize w.stores.rotateAnswer old secret.digest expected w.now g.refreshTtl = a at *
      have hrotated : u.stores.rotated old secret.digest g.refreshTtl a =
          w.stores.rotated old secret.digest g.refreshTtl a := by
        cases a with
        | error x => exact hlook.held
        | ok r => simp only [RefreshBackend.rotated, hlook.held, hlook.filing]
      have hcall : g.store.rotate old secret.digest expected w.now g.refreshTtl w.stores =
          (a, (w.stores.rotate old secret.digest expected w.now g.refreshTtl).2) := by
        rw [hg.store]
        exact Prod.ext hanswer rfl
      have hcall₁ : g.store.rotate old secret.digest expected u.now g.refreshTtl u.stores =
          (a, (u.stores.rotate old secret.digest expected w.now g.refreshTtl).2) := by
        rw [hg.store, hnow]
        exact Prod.ext hanswer₁ rfl
      rw [replace_eq_settle hlater hdraw hcall,
        replace_eq_settle (w := u) (hnow ▸ hlater) (hentropy ▸ hdraw) hcall₁, hnow]
      rw [hrotated] at hshows₁
      exact settle_same (u := ⟨w.now, e, _⟩) (v := ⟨w.now, e, _⟩) hg (Eq.refl e)
        (hlook.trans hshows₁) hshows secret w.now refreshEnd a

section Look

variable {expected : Option OwnerId}

/-- The store refuses what the early look has refused. -/
theorem replace_refused (hg : g.Made c (.plain access) .backend) (hq : w.stores.Quiet)
    (hdrawn : (ByteSource.draw g.secretBytes w.entropy).1.isSome = true)
    (hlater : (w.now.later? g.refreshTtl).isSome = true)
    {old : SecretDigest} {x : StoreError} (hx : x = .notFound ∨ x = .ownerMismatch)
    (h : w.stores.rotateAnswer old (g.nextSecret w).digest expected w.now g.refreshTtl =
      .error x) :
    ∃ w', g.replace old expected w = (.error .invalid, w') ∧
      w.stores.Shows w'.stores w.stores.held := by
  obtain ⟨refreshEnd, hlater⟩ := Option.isSome_iff_exists.mp hlater
  obtain ⟨hanswer, hshows⟩ := RefreshBackend.rotate_refusal hq h
  have hcall : g.store.rotate old (g.nextSecret w).digest expected w.now g.refreshTtl w.stores =
      (.error x,
        (w.stores.rotate old (g.nextSecret w).digest expected w.now g.refreshTtl).2) := by
    rw [hg.store]
    exact Prod.ext hanswer rfl
  rw [replace_eq_settle hlater (draw_of_isSome hg.long hdrawn) hcall]
  rcases hx with rfl | rfl
  · exact ⟨_, rfl, hshows⟩
  · exact ⟨_, rfl, hshows⟩

theorem refuses_of_not_accepts {b : RefreshBackend} {owner : OwnerId}
    (hnamed : ∀ o ∈ expected, o.isEmpty = false) (h : ¬ Accepts expected owner) :
    b.refuses expected owner = true := by
  cases expected with
  | none => exact absurd (.inl rfl) h
  | some o =>
    have hne : o ≠ owner := fun ho => h (.inr (congrArg some ho))
    have hname : o.text ≠ "" := by simpa [OwnerId.isEmpty] using hnamed o rfl
    cases b with
    | memory s => simpa [RefreshBackend.refuses] using hne
    | remote p l => simpa [RefreshBackend.refuses] using ⟨hname, hne⟩

theorem rotate_same (hg : g.Made c (.plain access) .backend) (ht : w.stores.Tidy)
    (hdrawn : (ByteSource.draw g.secretBytes w.entropy).1.isSome = true)
    (hlater : (w.now.later? g.refreshTtl).isSome = true)
    (hdate : w.stores.canDate g.refreshTtl = true) (hnamed : ∀ o ∈ expected, o.isEmpty = false)
    (secret : RefreshSecret) :
    SameEnd w (g.rotate secret expected w) (g.replace secret.digest expected w) := by
  have hlook := shows_afterLook ht.quiet secret
  cases hold : w.stores.held secret.digest with
  | none =>
    obtain ⟨w', hreplace, hshows⟩ := replace_refused hg ht.quiet hdrawn hlater (.inl rfl)
      (RefreshBackend.rotateAnswer_absent hdate hold)
    rw [rotate_absent hg ht.quiet expected hold, hreplace]
    exact ⟨rfl, _, hlook, hshows⟩
  | some x =>
    obtain ⟨owner, howner⟩ := ht.owned _ x hold
    rw [rotate_held hg ht.quiet expected hold howner]
    by_cases hexp : Accepts expected owner
    · rw [any_ne_eq_false_iff.mpr hexp, if_neg Bool.false_ne_true]
      exact replace_same (u := afterLook secret w) hg ht.quiet rfl rfl hlook secret.digest expected
    · have hrefused := refuses_of_not_accepts (b := w.stores) hnamed hexp
      obtain ⟨w', hreplace, hshows⟩ := replace_refused hg ht.quiet hdrawn hlater (.inr rfl) (by
        rw [RefreshBackend.rotateAnswer_held hdate hold howner.owner, if_pos hrefused])
      rw [← any_ne_eq_false_iff, Bool.not_eq_false] at hexp
      rw [if_pos hexp, hreplace]
      exact ⟨rfl, _, hlook, hshows⟩

end Look

/-- With the look at the old record and without it, a rotation answers the same and leaves the same
records, while random bytes can be drawn and the end of a lifetime can be told. -/
theorem early_look_changes_nothing {made : Instant} {w₀ : World τ RefreshBackend}
    (hmade : Instant.inCalendar made.secs = true) (hg : ofConfig c .backend made id = .ok g)
    (h₀ : Begins w₀) (h : g.Reached w₀ w) (secret : RefreshSecret) {expected : Option OwnerId}
    (hnamed : ∀ o ∈ expected, o.isEmpty = false)
    (hdrawn : (ByteSource.draw g.secretBytes w.entropy).1.isSome = true)
    (hlater : (w.now.later? c.refreshTtl).isSome = true)
    (hdate : w.stores.canDate c.refreshTtl = true) :
    (g.rotate secret expected w).1 = (g.replace secret.digest expected w).1 ∧
      (g.rotate secret expected w).2.stores.held =
        (g.replace secret.digest expected w).2.stores.held := by
  obtain ⟨access, -, hg⟩ := made_of_ofConfig hmade hg
  rw [← hg.ttl] at hlater hdate
  have hsame := rotate_same hg (h.tidy hg h₀).2 hdrawn hlater hdate hnamed secret
  exact ⟨hsame.answer, hsame.held⟩

theorem early_look_changes_nothing_for_owner :
    let g : TokenEngine Entropy RefreshBackend :=
      ⟨.plain ⟨"gatehouse", "api", .ofSecs 300, List.replicate 32 7⟩, .backend, .ofSecs 60, 32⟩
    let w₀ : World Entropy RefreshBackend :=
      ⟨⟨0⟩, { word := 1 }, .remote "refresh" { db := .startingAt 8 }⟩
    let w := ((TokenCall.issue ⟨"ada"⟩).apply g w₀).2
    let secret : RefreshSecret := ⟨"bIKlYsuAjRDWMr6JyFE-v2ySnzTd-oyfY8mWDvbjSKM"⟩
    ((g.rotate secret (some ⟨"ada"⟩) w).1 = (g.replace secret.digest (some ⟨"ada"⟩) w).1 ∧
      (g.rotate secret (some ⟨"ada"⟩) w).2.stores.held =
        (g.replace secret.digest (some ⟨"ada"⟩) w).2.stores.held) ∧
      (g.rotate secret (some ⟨"ada"⟩) w).1.isOk = true := by
  intro g w₀ w secret
  have hg : ofConfig ⟨⟨"gatehouse", "api", .ofSecs 300, List.replicate 32 7⟩, .ofSecs 60, 32⟩
      .backend ⟨0⟩ id = .ok g := rfl
  have hreached : g.Reached w₀ w := .call (.issue ⟨"ada"⟩) .start
  have hnamed : ∀ o ∈ some (OwnerId.mk "ada"), o.isEmpty = false := by
    rintro o ⟨⟩
    decide
  obtain ⟨hdrawn, hlater, hdate, hok⟩ : (ByteSource.draw 32 w.entropy).1.isSome = true ∧
      (w.now.later? (.ofSecs 60)).isSome = true ∧ w.stores.canDate (.ofSecs 60) = true ∧
      (g.rotate secret (some ⟨"ada"⟩) w).1.isOk = true := by
    decide +kernel
  exact ⟨early_look_changes_nothing (by decide) hg
    ⟨by decide, RefreshBackend.fresh_remote "refresh" 8⟩ hreached secret hnamed hdrawn hlater hdate,
    hok⟩

end Gatehouse.TokenEngine
