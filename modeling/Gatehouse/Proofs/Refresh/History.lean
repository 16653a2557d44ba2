import Gatehouse.Proofs.Refresh.Contract
import Gatehouse.Proofs.Run

/-!
# Gatehouse.Proofs.Refresh.History

Runs of a refresh store: calls of any clients in any order, and time that passes between them. A
record comes by a put or a rotation that succeeds, and goes by a rotation, a deletion or the end of
its lifetime.

* `StoreCall.held_of_held`: no call but one that creates it brings a record.
* `StoreCall.held_of_ends`: a rotation and a deletion leave none.
* `StoreCall.answer_of_absent`: how a record that is not there is refused.
-/

namespace Gatehouse

/-- A call on a refresh store, or time that passes. -/
inductive StoreCall where
  | put (d : SecretDigest) (r : RefreshRecord) (ttl : Span)
  | get (d : SecretDigest)
  | delete (d : SecretDigest)
  | rotate (old new : SecretDigest) (expected : Option OwnerId) (issuedAt : Instant) (ttl : Span)
  | wait (span : Span)

namespace StoreCall

/-- The answer holds a record if the call asks for one. -/
def apply : StoreCall → RefreshBackend → Except StoreError (Option RefreshRecord) × RefreshBackend
  | put d r ttl, b => ((b.put d r ttl).1.map fun _ => none, (b.put d r ttl).2)
  | get d, b => ((b.get d).1.map some, (b.get d).2)
  | delete d, b => ((b.delete d).1.map fun _ => none, (b.delete d).2)
  | rotate old new expected issuedAt ttl, b =>
    ((b.rotate old new expected issuedAt ttl).1.map some,
      (b.rotate old new expected issuedAt ttl).2)
  | wait span, b => (.ok none, b.advance span)

def target? : StoreCall → Option SecretDigest
  | put d _ _ => some d
  | rotate _ new _ _ _ => some new
  | _ => none

def source? : StoreCall → Option SecretDigest
  | rotate old _ _ _ _ => some old
  | _ => none

def ttl? : StoreCall → Option Span
  | put _ _ ttl => some ttl
  | rotate _ _ _ _ ttl => some ttl
  | _ => none

/-- The lifetime is one that an engine can have. -/
def Admitted (c : StoreCall) : Prop := ∀ ttl ∈ c.ttl?, ttl.Admitted

end StoreCall

abbrev StoreMoment := Moment RefreshBackend StoreCall (Except StoreError (Option RefreshRecord))

namespace StoreMoment

def Creates (m : StoreMoment) (d : SecretDigest) : Prop :=
  m.answer.isOk = true ∧ m.call.target? = some d

def Rotates (m : StoreMoment) (d : SecretDigest) : Prop :=
  m.answer.isOk = true ∧ m.call.source? = some d

def Asks (m : StoreMoment) (d : SecretDigest) : Prop :=
  m.call = .get d ∨ m.call.source? = some d

/-- The call gives a lifetime whose end the store's clock cannot tell. -/
def Undated (m : StoreMoment) : Prop := ∃ ttl ∈ m.call.ttl?, m.before.canDate ttl = false

/-- After this call the record of this digest is gone when the clock shows `now`: it was moved away
or deleted, or it was filed and its lifetime is over. -/
def Ends (m : StoreMoment) (d : SecretDigest) (now : Nat) : Prop :=
  m.Rotates d ∨ m.call = .delete d ∨
    m.Creates d ∧ ∃ ttl ∈ m.call.ttl?, m.before.clock + m.before.lifetime ttl ≤ now

theorem Creates.unique {m : StoreMoment} {d e : SecretDigest} (hd : m.Creates d)
    (he : m.Creates e) : d = e :=
  Option.some.inj (hd.2.symm.trans he.2)

theorem Rotates.unique {m : StoreMoment} {d e : SecretDigest} (hd : m.Rotates d)
    (he : m.Rotates e) : d = e :=
  Option.some.inj (hd.2.symm.trans he.2)

end StoreMoment

/-! ## One call -/

theorem Except.isOk_map {ε α β : Type} (f : α → β) (x : Except ε α) : (x.map f).isOk = x.isOk := by
  cases x <;> rfl

namespace StoreCall

variable {b : RefreshBackend} {c : StoreCall} {d : SecretDigest}

def on (c : StoreCall) (b : RefreshBackend) : StoreMoment := ⟨b, c, (c.apply b).1⟩

theorem Admitted.storable (hc : c.Admitted) {ttl : Span} (h : c.ttl? = some ttl) : ttl.Storable :=
  (hc ttl h).storable

theorem quiet_apply (hq : b.Quiet) (hc : c.Admitted) : (c.apply b).2.Quiet := by
  cases c with
  | put d r ttl => exact (RefreshBackend.put_spec hq (hc.storable rfl) d r).2.quiet
  | get d => exact (RefreshBackend.get_spec hq d).2.quiet
  | delete d => exact (RefreshBackend.delete_spec hq d).2.quiet
  | rotate old new expected issuedAt ttl =>
    exact (RefreshBackend.rotate_spec hq (hc.storable rfl) old new expected issuedAt).2.quiet
  | wait span => exact (RefreshBackend.advance_spec hq span).2.1

/-- What a call can do to the record of a digest. -/
inductive Effect (m : StoreMoment) (d : SecretDigest) (left : Option Holding) : Prop where
  | ended (h : m.Rotates d ∨ m.call = .delete d) (hc : ¬ m.Creates d) (hleft : left = none)
  | filed {r : RefreshRecord} {ttl : Span} (h : m.Creates d) (hr : ¬ m.Rotates d)
      (httl : m.call.ttl? = some ttl) (hleft : left = some (m.before.filing r ttl))
  | kept (h : ¬ m.Creates d) (hr : ¬ m.Rotates d) (hd : m.call ≠ .delete d)
      (hleft : left = m.before.held d ∨ left = none)

theorem effect_put (hq : b.Quiet) {e : SecretDigest} {r : RefreshRecord} {ttl : Span}
    (ht : ttl.Storable) :
    Effect (on (put e r ttl) b) d ((apply (put e r ttl) b).2.held d) := by
  obtain ⟨hanswer, hshows⟩ := RefreshBackend.put_spec hq ht e r
  have hr : ¬ (on (put e r ttl) b).Rotates d := fun h => nomatch h.2
  have hok : (on (put e r ttl) b).answer.isOk = (b.putAnswer e ttl).isOk := by
    rw [← hanswer]
    exact Except.isOk_map _ _
  rw [show (apply (put e r ttl) b).2.held = _ from hshows.held]
  cases ha : b.putAnswer e ttl with
  | error err =>
    refine .kept (fun h => ?_) hr (fun h => nomatch h) (.inl rfl)
    rw [StoreMoment.Creates, hok, ha] at h
    cases h.1
  | ok u =>
    rw [ha] at hok
    by_cases hd : d = e
    · subst hd
      exact .filed ⟨hok, rfl⟩ hr rfl (Function.update_self ..)
    · refine .kept (fun h => hd ?_) hr (fun h => nomatch h) (.inl (Function.update_of_ne hd ..))
      exact (Option.some.inj h.2).symm

theorem effect_rotate (hq : b.Quiet) {old new : SecretDigest} {expected : Option OwnerId}
    {issuedAt : Instant} {ttl : Span} (ht : ttl.Storable) :
    Effect (on (rotate old new expected issuedAt ttl) b) d
      ((apply (rotate old new expected issuedAt ttl) b).2.held d) := by
  obtain ⟨hanswer, hshows⟩ := RefreshBackend.rotate_spec hq ht old new expected issuedAt
  have hok : (on (rotate old new expected issuedAt ttl) b).answer.isOk =
      (b.rotateAnswer old new expected issuedAt ttl).isOk := by
    rw [← hanswer]
    exact Except.isOk_map _ _
  rw [show (apply (rotate old new expected issuedAt ttl) b).2.held = _ from hshows.held]
  cases ha : b.rotateAnswer old new expected issuedAt ttl with
  | error err =>
    rw [ha] at hok
    have hfails : ∀ {P : Prop}, ¬ ((on (rotate old new expected issuedAt ttl) b).answer.isOk ∧ P) :=
      fun h => by rw [hok] at h; cases h.1
    exact .kept hfails hfails (fun h => nomatch h) (.inl rfl)
  | ok r =>
    rw [ha] at hok
    obtain ⟨-, ⟨x, hx, -⟩, hnew, -⟩ := RefreshBackend.rotateAnswer_eq_ok ha
    by_cases ho : d = old
    · subst ho
      refine .ended (.inl ⟨hok, rfl⟩) (fun h => ?_) (Function.update_self ..)
      obtain rfl : new = d := Option.some.inj h.2
      simp [hnew] at hx
    · have hr : ¬ (on (rotate old new expected issuedAt ttl) b).Rotates d := fun h =>
        ho (Option.some.inj h.2).symm
      have hleft : b.rotated old new ttl (.ok r) d = _ := Function.update_of_ne ho ..
      by_cases hn : d = new
      · subst hn
        exact .filed ⟨hok, rfl⟩ hr rfl (hleft.trans (Function.update_self ..))
      · exact .kept (fun h => hn (Option.some.inj h.2).symm) hr (fun h => nomatch h)
          (.inl (hleft.trans (Function.update_of_ne hn ..)))

theorem effect (hq : b.Quiet) (hc : c.Admitted) (d : SecretDigest) :
    Effect (on c b) d ((c.apply b).2.held d) := by
  cases c with
  | put e r ttl => exact effect_put hq (hc.storable rfl)
  | get e =>
    have hheld : (apply (get e) b).2.held = _ := (RefreshBackend.get_spec hq e).2.held
    exact .kept (fun h => nomatch h.2) (fun h => nomatch h.2) (fun h => nomatch h)
      (.inl (by rw [hheld]; rfl))
  | delete e =>
    have hheld : (apply (delete e) b).2.held = _ := (RefreshBackend.delete_spec hq e).2.held
    rw [hheld]
    by_cases hd : d = e
    · subst hd
      exact .ended (.inr rfl) (fun h => nomatch h.2) (Function.update_self ..)
    · exact .kept (fun h => nomatch h.2) (fun h => nomatch h.2)
        (fun h => hd (StoreCall.delete.inj h).symm) (.inl (Function.update_of_ne hd ..))
  | rotate old new expected issuedAt ttl => exact effect_rotate hq (hc.storable rfl)
  | wait span =>
    refine .kept (fun h => nomatch h.2) (fun h => nomatch h.2) (fun h => nomatch h) ?_
    have hheld : (apply (wait span) b).2.held d = _ :=
      (RefreshBackend.advance_spec hq span).2.2.2.2 d
    rw [hheld]
    change (b.held d).filter _ = b.held d ∨ _
    cases b.held d with
    | none => exact .inl rfl
    | some x =>
      rw [Option.filter]
      split
      · exact .inl rfl
      · exact .inr rfl

theorem held_of_held (hq : b.Quiet) (hc : c.Admitted) (hd : ¬ (on c b).Creates d) {x : Holding}
    (h : (c.apply b).2.held d = some x) : b.held d = some x := by
  cases effect hq hc d with
  | ended _ _ hleft => simp [hleft] at h
  | filed hcr => exact absurd hcr hd
  | kept _ _ _ hleft =>
    rcases hleft with hleft | hleft
    · rw [← h, hleft]
      rfl
    · simp [hleft] at h

theorem held_of_ends (hq : b.Quiet) (hc : c.Admitted)
    (h : (on c b).Rotates d ∨ c = .delete d) : (c.apply b).2.held d = none := by
  cases effect hq hc d with
  | ended _ _ hleft => exact hleft
  | filed hcr hr =>
    rcases h with h | rfl
    · exact absurd h hr
    · cases hcr.2
  | kept _ hr hd => exact absurd h (not_or.mpr ⟨hr, hd⟩)

theorem held_of_rotates (hq : b.Quiet) (hc : c.Admitted) (h : (on c b).Rotates d) :
    (b.held d).isSome = true := by
  obtain ⟨hok, hsource⟩ := h
  cases c with
  | rotate old new expected issuedAt ttl =>
    obtain rfl := Option.some.inj hsource
    obtain ⟨hanswer, -⟩ := RefreshBackend.rotate_spec hq (hc.storable rfl) old new expected issuedAt
    have hok' : (b.rotateAnswer old new expected issuedAt ttl).isOk = true := by
      rw [← hanswer, ← hok]
      exact (Except.isOk_map _ _).symm
    cases ha : b.rotateAnswer old new expected issuedAt ttl with
    | error e => simp [ha, Except.isOk, Except.toBool] at hok'
    | ok r =>
      obtain ⟨-, ⟨x, hx, -⟩, -⟩ := RefreshBackend.rotateAnswer_eq_ok ha
      rw [hx]
      rfl
  | _ => cases hsource

theorem answer_of_absent (hq : b.Quiet) (hc : c.Admitted) (hask : (on c b).Asks d)
    (h : b.held d = none) :
    (¬ (on c b).Undated → (on c b).answer = .error .notFound) ∧
      ((on c b).Undated → (on c b).answer = .error (.failed .deadlineOutOfRange)) := by
  rcases hask with hget | hsource
  · obtain rfl : c = get d := hget
    constructor
    · intro _
      have hanswer := (RefreshBackend.get_spec hq d).1
      rw [RefreshBackend.getAnswer, h] at hanswer
      change (b.get d).1.map some = _
      rw [hanswer]
      rfl
    · rintro ⟨ttl, httl, -⟩
      cases httl
  · cases c with
    | rotate old new expected issuedAt ttl =>
      obtain rfl := Option.some.inj hsource
      have hanswer := (RefreshBackend.rotate_spec hq (hc.storable rfl) old new expected issuedAt).1
      have hon : (on (rotate old new expected issuedAt ttl) b).answer =
          (b.rotateAnswer old new expected issuedAt ttl).map some :=
        congrArg (Except.map some) hanswer
      rw [hon]
      constructor
      · intro hdated
        have hdate : b.canDate ttl = true := by
          by_contra hdate
          exact hdated ⟨ttl, rfl, Bool.not_eq_true _ ▸ hdate⟩
        rw [RefreshBackend.rotateAnswer_absent hdate h]
        rfl
      · rintro ⟨ttl', httl, hundated⟩
        obtain rfl : ttl = ttl' := Option.some.inj httl
        rw [RefreshBackend.rotateAnswer_undated (b := b) hundated]
        rfl
    | _ => cases hsource

theorem deadline_of_creates (hq : b.Quiet) (hc : c.Admitted) (h : (on c b).Creates d)
    {ttl : Span} (httl : c.ttl? = some ttl) :
    ∃ x, (c.apply b).2.held d = some x ∧ x.deadline = some (b.clock + b.lifetime ttl) := by
  cases effect hq hc d with
  | ended _ hcr => exact absurd h hcr
  | @filed r ttl' _ _ httl' hleft =>
    obtain rfl : ttl = ttl' := Option.some.inj (httl.symm.trans httl')
    exact ⟨_, hleft, RefreshBackend.deadline_filing ..⟩
  | kept hcr => exact absurd h hcr

end StoreCall
end Gatehouse
