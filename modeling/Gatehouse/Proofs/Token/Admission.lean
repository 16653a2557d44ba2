import Gatehouse.Proofs.Token.Engine
import Gatehouse.Proofs.Token.Stages

/-!
# Gatehouse.Proofs.Token.Admission

Which configurations an engine is made of, and what being accepted is good for.

A lifetime passes three ranges on its way to an expiry: its own, the longest that can be added to an
instant, and the calendar. The calendar is the narrowest of them (`checkLifetime_eq_ok_iff`), so all
that is asked of a lifetime is to end within it. An instant before the one at which the
configuration was accepted asks for less (`EndsInRange.earlier`), and so the engine never runs out
of the calendar before that instant: `admission`.
-/

namespace Gatehouse

/-! ## The ranges of a lifetime -/

theorem Instant.later?_eq_some {t : Instant} {ttl : Span}
    (h : inCalendar (t.after ttl).secs = true) : t.later? ttl = some (t.after ttl) :=
  if_pos h

theorem Instant.later?_eq_none {t : Instant} {ttl : Span}
    (h : inCalendar (t.after ttl).secs = false) : t.later? ttl = none := by
  refine if_neg ?_
  rw [← Instant.after, h]
  exact Bool.false_ne_true

/-- A lifetime that ends within the calendar is far from the longest that can be added. -/
theorem Span.le_longest {t : Instant} {ttl : Span} (ht : Instant.inCalendar t.secs = true)
    (h : Instant.inCalendar (t.after ttl).secs = true) : ttl.nanos ≤ longest := by
  have hsecs := Span.secs_le_of_later? ht (Instant.later?_isSome_iff.mpr h)
  simp only [Instant.lastSecs, Instant.firstSecs, Span.secs, Span.second] at hsecs
  simp only [longest]
  omega

namespace AccessCodec

theorem checkLifetime_eq_ok_iff {which : Lifetime} {ttl : Span} {now : Instant}
    (hnow : Instant.inCalendar now.secs = true) :
    checkLifetime which ttl now = .ok () ↔ Instant.inCalendar (now.after ttl).secs = true := by
  constructor
  · intro h
    unfold checkLifetime at h
    split at h
    · cases h
    · cases hend : Instant.inCalendar (now.after ttl).secs with
      | true => rfl
      | false =>
        rw [Instant.later?_eq_none hend] at h
        cases h
  · intro hend
    have hlong := Span.le_longest hnow hend
    rw [checkLifetime, if_neg (Nat.not_lt.mpr hlong), Instant.later?_eq_some hend]

end AccessCodec

/-! ## Accepted configurations -/

namespace TokenConfig

structure EndsInRange (c : TokenConfig) (t : Instant) : Prop where
  access : Instant.inCalendar (t.after c.access.ttl).secs = true
  refresh : Instant.inCalendar (t.after c.refreshTtl).secs = true

/-- What is asked of a configuration at `now`. -/
structure Acceptable (c : TokenConfig) (now : Instant) : Prop where
  key : 32 ≤ c.access.signingKey.length
  accessTtl : c.access.ttl.nanos ≠ 0
  refreshTtl : c.refreshTtl.nanos ≠ 0
  secret : 32 ≤ c.secretBytes
  ends : c.EndsInRange now

theorem EndsInRange.earlier {c : TokenConfig} {t now : Instant} (h : c.EndsInRange now)
    (hcal : Instant.inCalendar t.secs = true) (hle : t.nanos ≤ now.nanos) : c.EndsInRange t := by
  have inRange {ttl : Span} (hend : Instant.inCalendar (now.after ttl).secs = true) :
      Instant.inCalendar (t.after ttl).secs = true := by
    rw [Instant.inCalendar_iff] at *
    simp only [Instant.secs, Instant.after, Span.second] at *
    omega
  exact ⟨inRange h.access, inRange h.refresh⟩

end TokenConfig

theorem AccessCodec.asked_of_ofConfig {cfg : AccessConfig} {now : Instant} {codec : AccessCodec}
    (h : ofConfig cfg now = .ok codec) :
    32 ≤ cfg.signingKey.length ∧ cfg.ttl.nanos ≠ 0 ∧
      checkLifetime .access cfg.ttl now = .ok () := by
  unfold ofConfig at h
  split_ifs at h with hkey hzero
  split at h
  · cases h
  · rename_i hcheck
    refine ⟨Nat.le_of_not_lt hkey, ?_, hcheck⟩
    intro hnanos
    rw [Span.isZero, hnanos] at hzero
    exact hzero rfl

theorem AccessCodec.fault_of_ofConfig {cfg : AccessConfig} {now : Instant} {x : TokenError}
    (h : ofConfig cfg now = .error x) : ∃ fault, x = .config fault := by
  unfold ofConfig at h
  split_ifs at h
  · cases h
    exact ⟨_, rfl⟩
  · cases h
    exact ⟨_, rfl⟩
  · split at h
    · cases h
      exact ⟨_, rfl⟩
    · cases h

namespace TokenEngine

open SteadySource (broken)

variable {τ : Type}

section Accepted

variable {σ : Type} {c : TokenConfig} {store : RefreshStore σ} {now : Instant}
  {wrap : TokenCodec τ σ → TokenCodec τ σ}

theorem asked_of_withCodec {codec : TokenCodec τ σ} {ttl : Span} {n : Nat} {g : TokenEngine τ σ}
    (h : withCodec codec store ttl n now = .ok g) :
    32 ≤ n ∧ ttl.nanos ≠ 0 ∧ AccessCodec.checkLifetime .refresh ttl now = .ok () := by
  unfold withCodec at h
  split_ifs at h with hzero hshort
  split at h
  · cases h
  · rename_i hcheck
    refine ⟨Nat.le_of_not_lt hshort, ?_, hcheck⟩
    intro hnanos
    rw [Span.isZero, hnanos] at hzero
    exact hzero rfl

theorem fault_of_withCodec {codec : TokenCodec τ σ} {ttl : Span} {n : Nat} {x : TokenError}
    (h : withCodec codec store ttl n now = .error x) : ∃ fault, x = .config fault := by
  unfold withCodec at h
  split_ifs at h
  · cases h
    exact ⟨_, rfl⟩
  · cases h
    exact ⟨_, rfl⟩
  · split at h
    · cases h
      exact ⟨_, rfl⟩
    · cases h

variable [ByteSource τ]

theorem ofConfig_of_acceptable (hnow : Instant.inCalendar now.secs = true)
    (h : c.Acceptable now) : ofConfig c store now wrap =
      .ok ⟨wrap (.plain ⟨c.access.issuer, c.access.audience, c.access.ttl, c.access.signingKey⟩),
        store, c.refreshTtl, c.secretBytes⟩ := by
  have haccess : AccessCodec.ofConfig c.access now =
      .ok ⟨c.access.issuer, c.access.audience, c.access.ttl, c.access.signingKey⟩ := by
    have hkey : ¬ c.access.signingKey.length < AccessCodec.fewestKeyBytes :=
      Nat.not_lt.mpr h.key
    have hzero : ¬ c.access.ttl.isZero = true := by
      simpa [Span.isZero] using h.accessTtl
    rw [AccessCodec.ofConfig, if_neg hkey, if_neg hzero,
      (AccessCodec.checkLifetime_eq_ok_iff hnow).mpr h.ends.access]
  have hzero : ¬ c.refreshTtl.isZero = true := by
    simpa [Span.isZero] using h.refreshTtl
  have hsecret : ¬ c.secretBytes < RefreshSecret.fewestBytes := Nat.not_lt.mpr h.secret
  simp only [ofConfig, haccess]
  rw [withCodec, if_neg hzero, if_neg hsecret,
    (AccessCodec.checkLifetime_eq_ok_iff hnow).mpr h.ends.refresh]

theorem acceptable_of_ofConfig (hnow : Instant.inCalendar now.secs = true) {g : TokenEngine τ σ}
    (h : ofConfig c store now wrap = .ok g) : c.Acceptable now := by
  unfold ofConfig at h
  split at h
  · cases h
  · rename_i codec hcodec
    obtain ⟨hkey, haccess, hcheck⟩ := AccessCodec.asked_of_ofConfig hcodec
    obtain ⟨hsecret, hrefresh, hcheck'⟩ := asked_of_withCodec h
    exact ⟨hkey, haccess, hrefresh, hsecret, (AccessCodec.checkLifetime_eq_ok_iff hnow).mp hcheck,
      (AccessCodec.checkLifetime_eq_ok_iff hnow).mp hcheck'⟩

theorem ofConfig_iff_acceptable (hnow : Instant.inCalendar now.secs = true) :
    (∃ g, ofConfig c store now wrap = .ok g) ↔ c.Acceptable now :=
  ⟨fun ⟨_, h⟩ => acceptable_of_ofConfig hnow h, fun h => ⟨_, ofConfig_of_acceptable hnow h⟩⟩

theorem fault_of_ofConfig {x : TokenError} (h : ofConfig c store now wrap = .error x) :
    ∃ fault, x = .config fault := by
  unfold ofConfig at h
  split at h
  · rename_i hcodec
    cases h
    exact AccessCodec.fault_of_ofConfig hcodec
  · exact fault_of_withCodec h

end Accepted

/-! ## Issuing with an accepted configuration -/

variable [SteadySource τ]

section Issue

variable {g : TokenEngine τ RefreshBackend} {c : TokenConfig} {access : AccessCodec}
  {w : World τ RefreshBackend} {owner : OwnerId}

/-- An issue that succeeds, with both expiries exactly one lifetime from now. -/
structure IssuesFor (g : TokenEngine τ RefreshBackend) (c : TokenConfig) (owner : OwnerId)
    (w w' : World τ RefreshBackend) (t : IssuedTokens) : Prop where
  answer : g.issue owner w = (.ok t, w')
  owned : t.owner = owner
  secret : t.refreshToken = g.nextSecret w
  accessEnd : t.accessExpiresAt = w.now.after c.access.ttl
  refreshEnd : t.refreshExpiresAt = w.now.after c.refreshTtl
  leaves : Leaves w w' (Function.update w.stores.held (g.nextSecret w).digest
    (some (w.stores.filing ⟨owner, w.now⟩ c.refreshTtl)))

theorem issue_in_range (hg : g.Made c (.plain access) .backend) (hacc : access.ttl = c.access.ttl)
    (howner : owner.isEmpty = false) (hworks : broken w.entropy = false)
    (hends : c.EndsInRange w.now) (hq : w.stores.Quiet)
    (hdate : w.stores.canDate c.refreshTtl = true)
    (hfree : w.stores.held (g.nextSecret w).digest = none) :
    ∃ t w', IssuesFor g c owner w w' t := by
  have haccess := Instant.later?_eq_some hends.access
  have hrefresh := Instant.later?_eq_some hends.refresh
  have hable : Able c w := ⟨hworks, by simp [haccess], by simp [hrefresh], hdate⟩
  obtain ⟨t, w', hissue, hpair, hleaves⟩ := issue_spec hg hq hable hacc howner hfree
  have haccessEnd := hpair.accessEnd
  have hrefreshEnd := hpair.refreshEnd
  rw [haccess] at haccessEnd
  rw [hrefresh] at hrefreshEnd
  exact ⟨t, w', hissue, hpair.owner, hpair.secret, (Option.some.inj haccessEnd).symm,
    (Option.some.inj hrefreshEnd).symm, hleaves⟩

/-- Which of the two expiries is told to be out of range: the refresh secret's comes first. -/
def rangeFault (c : TokenConfig) (t : Instant) : GenerationFault :=
  if Instant.inCalendar (t.after c.refreshTtl).secs then .accessExpiryOutOfRange
  else .refreshExpiryOutOfRange

/-- An issue that ends beyond the calendar asks nothing of the store. -/
theorem issue_out_of_range (hg : g.Made c (.plain access) .backend)
    (hacc : access.ttl = c.access.ttl) (howner : owner.isEmpty = false)
    (hworks : broken w.entropy = false) (hends : ¬ c.EndsInRange w.now) :
    ∃ w', g.issue owner w = (.error (.generation (rangeFault c w.now)), w') ∧
      w'.now = w.now ∧ w'.stores = w.stores := by
  cases hrefresh : Instant.inCalendar (w.now.after c.refreshTtl).secs with
  | false =>
    have hlater := Instant.later?_eq_none hrefresh
    have hfault : rangeFault c w.now = .refreshExpiryOutOfRange := by
      simp [rangeFault, hrefresh]
    refine ⟨w, ?_, rfl, rfl⟩
    rw [hfault]
    exact issue_undated howner (hg.ttl ▸ hlater)
  | true =>
    have hlater := Instant.later?_eq_some hrefresh
    have haccess : Instant.inCalendar (w.now.after c.access.ttl).secs = false := by
      rw [← Bool.not_eq_true]
      intro haccess
      exact hends ⟨haccess, hrefresh⟩
    have hdraw := g.draw_nextSecret hg.long hworks
    have hsign : g.codec.sign owner w.now { w with entropy := g.entropyAfter w } =
        (.error (.generation .accessExpiryOutOfRange),
          { w with entropy := g.entropyAfter w }) := by
      simp only [hg.codec, TokenCodec.plain, World.onEntropy, AccessCodec.sign, hacc,
        Instant.later?_eq_none haccess]
    have hfault : rangeFault c w.now = .accessExpiryOutOfRange := by
      simp [rangeFault, hrefresh]
    refine ⟨{ w with entropy := g.entropyAfter w }, ?_, rfl, rfl⟩
    rw [hfault]
    exact issue_unsigned howner (hg.ttl ▸ hlater) hdraw hsign

end Issue

/-- An engine is made of just the configurations that are asked for, and the others are refused for
what they are. From an accepted one tokens can be issued: no expiry is out of range until the clock
has passed the moment of acceptance, and when one is, nothing is written. -/
theorem admission (c : TokenConfig) {now : Instant} (hnow : Instant.inCalendar now.secs = true) :
    (∀ (σ : Type) (store : RefreshStore σ) (wrap : TokenCodec τ σ → TokenCodec τ σ),
      ((∃ g, ofConfig c store now wrap = .ok g) ↔ c.Acceptable now) ∧
      (¬ c.Acceptable now → ∃ fault, ofConfig c store now wrap = .error (.config fault))) ∧
    ∀ g : TokenEngine τ RefreshBackend, ofConfig c .backend now id = .ok g →
      ∀ owner w, owner.isEmpty = false →
      Instant.inCalendar w.now.secs = true → broken w.entropy = false →
      (w.now.nanos ≤ now.nanos → c.EndsInRange w.now) ∧
      (c.EndsInRange w.now → w.stores.Quiet → w.stores.canDate c.refreshTtl = true →
        w.stores.held (g.nextSecret w).digest = none → ∃ t w', IssuesFor g c owner w w' t) ∧
      (¬ c.EndsInRange w.now →
        ∃ w', g.issue owner w = (.error (.generation (rangeFault c w.now)), w') ∧
          w'.now = w.now ∧ w'.stores = w.stores) := by
  constructor
  · intro σ store wrap
    refine ⟨ofConfig_iff_acceptable hnow, ?_⟩
    intro hnot
    cases hmade : ofConfig c store now wrap with
    | ok g => exact absurd (acceptable_of_ofConfig hnow hmade) hnot
    | error x =>
      obtain ⟨fault, rfl⟩ := fault_of_ofConfig hmade
      exact ⟨fault, rfl⟩
  · intro g hmade owner w howner hcal hworks
    have hasked := acceptable_of_ofConfig hnow hmade
    obtain ⟨access, hacc, hg⟩ := made_of_ofConfig hnow hmade
    refine ⟨hasked.ends.earlier hcal, ?_, issue_out_of_range hg hacc howner hworks⟩
    intro hends hq hdate hfree
    exact issue_in_range hg hacc howner hworks hends hq hdate hfree

/-- A configuration that is accepted an hour before the end of the calendar still serves then, and
not a second later. -/
theorem admission_last_hour :
    let access : AccessConfig := ⟨"gatehouse", "desk", .ofSecs 300, List.replicate 32 7⟩
    let c : TokenConfig := ⟨access, .ofSecs 3600, 32⟩
    let now : Instant := ⟨8210266873199000000000⟩
    let g : TokenEngine Entropy RefreshBackend :=
      ⟨.plain ⟨"gatehouse", "desk", .ofSecs 300, List.replicate 32 7⟩, .backend, .ofSecs 3600, 32⟩
    let w : World Entropy RefreshBackend := ⟨now, { word := 1 }, .memory (.startingAt 0)⟩
    let late : World Entropy RefreshBackend := { w with now := now.after (.ofSecs 1) }
    c.Acceptable now ∧ (∃ t w', IssuesFor g c ⟨"ada"⟩ w w' t) ∧
      ∃ w', g.issue ⟨"ada"⟩ late = (.error (.generation .refreshExpiryOutOfRange), w') ∧
        w'.stores = late.stores := by
  intro access c now g w late
  have hnow : Instant.inCalendar now.secs = true := by decide
  have hasked : c.Acceptable now :=
    ⟨by decide, by decide, by decide, by decide, by decide, by decide⟩
  have hmade : ofConfig c .backend now id = .ok g := ofConfig_of_acceptable hnow hasked
  obtain ⟨-, hserves⟩ := @admission Entropy _ c now hnow
  obtain ⟨hstill, hissues, -⟩ := hserves g hmade ⟨"ada"⟩ w (by decide) hnow rfl
  obtain ⟨-, -, hfails⟩ := hserves g hmade ⟨"ada"⟩ late (by decide) (by decide) rfl
  have hbeyond : ¬ c.EndsInRange late.now := by
    intro hends
    exact absurd hends.refresh (by decide)
  obtain ⟨w', hanswer, -, hstores⟩ := hfails hbeyond
  have hdate : w.stores.canDate c.refreshTtl = true := by decide
  have hfault : rangeFault c late.now = .refreshExpiryOutOfRange := by decide
  exact ⟨hasked, hissues (hstill (Int.le_refl _)) trivial hdate rfl, w', hfault ▸ hanswer, hstores⟩

end TokenEngine
end Gatehouse
