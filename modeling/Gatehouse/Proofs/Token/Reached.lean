import Gatehouse.Proofs.Token.Preserved

/-!
# Gatehouse.Proofs.Token.Reached

The worlds that an engine and the time that passes lead to (`Reached`), from a store that begins
empty and is left alone. Every record that such a store holds can be read, and is of an owner who
has a name (`Reached.tidy`).
-/

namespace Gatehouse

namespace RefreshBackend

/-- A store that is left alone, and holds nothing but records that can be read. -/
structure Tidy (b : RefreshBackend) : Prop where
  quiet : b.Quiet
  owned : ∀ d x, b.held d = some x → ∃ o, x.IsOf o

variable {b b' : RefreshBackend} {records : SecretDigest → Option Holding} {ttl : Span}

theorem Fresh.tidy (h : b.Fresh) : b.Tidy :=
  ⟨h.quiet, fun d x hx => by rw [h.empty d] at hx; cases hx⟩

theorem Tidy.of_shows (hshows : b.Shows b' records)
    (hrecords : ∀ d x, records d = some x → ∃ o, x.IsOf o) : b'.Tidy :=
  ⟨hshows.quiet, fun d x hx => hrecords d x (hshows.held ▸ hx)⟩

theorem owned_update (h : ∀ d x, records d = some x → ∃ o, x.IsOf o) (d : SecretDigest)
    {y : Option Holding} (hy : ∀ x, y = some x → ∃ o, x.IsOf o) :
    ∀ e x, Function.update records d y e = some x → ∃ o, x.IsOf o := by
  intro e x hx
  by_cases he : e = d
  · rw [he, Function.update_self] at hx
    exact hy x hx
  · rw [Function.update_of_ne he] at hx
    exact h e x hx

theorem Tidy.put (h : b.Tidy) (ht : ttl.Storable) (d : SecretDigest) {owner : OwnerId}
    {now : Instant} (howner : owner.isEmpty = false) (hnow : Instant.inCalendar now.secs = true) :
    (b.put d ⟨owner, now⟩ ttl).2.Tidy := by
  refine .of_shows (put_spec h.quiet ht d ⟨owner, now⟩).2 ?_
  cases b.putAnswer d ttl with
  | error e => exact h.owned
  | ok _ =>
    refine owned_update h.owned d fun x hx => ⟨owner, ?_⟩
    cases hx
    exact isOf_filing b ttl howner hnow

theorem Tidy.get (h : b.Tidy) (d : SecretDigest) : (b.get d).2.Tidy :=
  .of_shows (get_spec h.quiet d).2 h.owned

theorem Tidy.delete (h : b.Tidy) (d : SecretDigest) : (b.delete d).2.Tidy :=
  .of_shows (delete_spec h.quiet d).2 (owned_update h.owned d fun _ hx => nomatch hx)

theorem Tidy.rotate (h : b.Tidy) (ht : ttl.Storable) (old new : SecretDigest)
    (expected : Option OwnerId) {now : Instant} (hnow : Instant.inCalendar now.secs = true) :
    (b.rotate old new expected now ttl).2.Tidy := by
  refine .of_shows (rotate_spec h.quiet ht old new expected now).2 ?_
  cases hanswer : b.rotateAnswer old new expected now ttl with
  | error e => exact h.owned
  | ok r =>
    obtain ⟨-, ⟨x, hold, howner, -⟩, -, hissued⟩ := rotateAnswer_eq_ok hanswer
    obtain ⟨o, ho⟩ := h.owned old x hold
    obtain rfl : o = r.owner := Except.ok.inj (ho.owner.symm.trans howner)
    refine owned_update (owned_update h.owned new fun y hy => ⟨r.owner, ?_⟩) old
      fun _ hy => nomatch hy
    cases hy
    obtain ⟨owner, issuedAt⟩ := r
    obtain rfl : issuedAt = now := hissued
    exact isOf_filing b ttl ho.named hnow

theorem Tidy.advance (h : b.Tidy) (span : Span) : (b.advance span).Tidy := by
  obtain ⟨-, hq, -, -, hheld⟩ := advance_spec h.quiet span
  refine ⟨hq, fun d x hx => ?_⟩
  rw [hheld] at hx
  exact h.owned d x (Option.filter_eq_some_iff.mp hx).1

theorem preserves_tidy (ht : ttl.Storable) : RefreshStore.backend.Preserves ttl Tidy where
  put secret _ _ howner hnow h := h.put ht secret.digest howner hnow
  get d h := h.get d
  delete d h := h.delete d
  rotate old secret expected _ hnow h := h.rotate ht old secret.digest expected hnow

end RefreshBackend

namespace TokenEngine

variable {τ : Type} [ByteSource τ]

/-- The worlds that lie on the runs of an engine from a world `w₀`: calls in any order, while time
passes, the wall clock is set to instants that exist, and the source of random bytes gives any
bytes or none. -/
inductive Reached (g : TokenEngine τ RefreshBackend) (w₀ : World τ RefreshBackend) :
    World τ RefreshBackend → Prop where
  | start : Reached g w₀ w₀
  | call {w : World τ RefreshBackend} (c : TokenCall) (h : Reached g w₀ w) :
    Reached g w₀ (c.apply g w).2
  | wait {w : World τ RefreshBackend} (span : Span) (h : Reached g w₀ w) :
    Reached g w₀ { w with stores := w.stores.advance span }
  | setClock {w : World τ RefreshBackend} (now : Instant)
    (hnow : Instant.inCalendar now.secs = true) (h : Reached g w₀ w) :
    Reached g w₀ { w with now := now }
  | reseed {w : World τ RefreshBackend} (e : τ) (h : Reached g w₀ w) :
    Reached g w₀ { w with entropy := e }

/-- What runs begin with: a clock that shows an instant that exists, and an empty store that is left
alone. -/
structure Begins (w₀ : World τ RefreshBackend) : Prop where
  inCalendar : Instant.inCalendar w₀.now.secs = true
  fresh : w₀.stores.Fresh

theorem Reached.tidy {g : TokenEngine τ RefreshBackend} {c : TokenConfig} {access : AccessCodec}
    {w₀ w : World τ RefreshBackend} (hg : g.Made c (.plain access) .backend) (h₀ : Begins w₀)
    (h : g.Reached w₀ w) : Instant.inCalendar w.now.secs = true ∧ w.stores.Tidy := by
  have ht : g.refreshTtl.Storable := hg.ttl ▸ hg.admitted.storable
  induction h with
  | start => exact ⟨h₀.inCalendar, h₀.fresh.tidy⟩
  | call call _ ih =>
    obtain ⟨hnow, htidy⟩ := preserves_apply (P := RefreshBackend.Tidy) hg.codec
      (hg.store ▸ RefreshBackend.preserves_tidy ht) ih.2 ih.1 call
    exact ⟨by rw [hnow]; exact ih.1, htidy⟩
  | wait span _ ih => exact ⟨ih.1, ih.2.advance span⟩
  | setClock now hnow _ ih => exact ⟨hnow, ih.2⟩
  | reseed e _ ih => exact ih

end TokenEngine
end Gatehouse
