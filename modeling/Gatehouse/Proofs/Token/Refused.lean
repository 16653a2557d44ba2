import Gatehouse.Proofs.Token.Outcomes

/-!
# Gatehouse.Proofs.Token.Refused

What an operation of the engine that is refused leaves of the records (`refusalLeaves_of_issue`,
`refusalLeaves_of_rotate`). All are as they were, with one exception. Where the store cannot tell
the end of a new record's lifetime, the write fails before the store looks at the digest that was
drawn, and the clean-up removes the record under this digest, whoever filed it.
-/

namespace Gatehouse

variable {b : RefreshBackend} {ttl : Span} {old new : SecretDigest}

theorem RefreshBackend.canDate_of_rotateAnswer (hplace : b.place = none)
    {expected : Option OwnerId} {now : Instant} {fault : StoreFault}
    (h : b.rotateAnswer old new expected now ttl = .error (.failed fault)) :
    b.canDate ttl = false := by
  cases b with
  | remote p l => cases hplace
  | memory s =>
    cases hdate : (memory s).canDate ttl with
    | false => rfl
    | true =>
      cases hold : (memory s).held old with
      | none =>
        rw [rotateAnswer_absent hdate hold] at h
        cases h
      | some x =>
        obtain ⟨f, -, rfl⟩ := Option.map_eq_some_iff.mp hold
        rw [rotateAnswer_held hdate hold rfl] at h
        split_ifs at h <;> cases h

/-- What a refusal leaves: all records, or all but the one under the digest that was drawn, if a new
record could not be dated. -/
def RefreshBackend.RefusalLeaves (b : RefreshBackend) (drawn : SecretDigest) (ttl : Span)
    (b' : RefreshBackend) : Prop :=
  b.Shows b' b.held ∨
    (b.canDate ttl = false ∧ b.Shows b' (Function.update b.held drawn none))

namespace TokenEngine

variable {τ : Type} [SteadySource τ] {g : TokenEngine τ RefreshBackend} {c : TokenConfig}
  {access : AccessCodec} {w : World τ RefreshBackend}

theorem refusalLeaves_of_issue (hg : g.Made c (.plain access) .backend) (hq : w.stores.Quiet)
    {owner : OwnerId} {x : TokenError} (h : (g.issue owner w).1 = .error x) :
    w.stores.RefusalLeaves (g.nextSecret w).digest c.refreshTtl (g.issue owner w).2.stores := by
  have hends := issue_ends hg hq owner
  rw [← hg.ttl]
  generalize g.issue owner w = ended at h hends ⊢
  cases hends with
  | refused _ hshows => exact .inl hshows
  | undated _ hdate hshows => exact .inr ⟨hdate, hshows⟩
  | granted => cases h

theorem refusalLeaves_of_rotate (hg : g.Made c (.plain access) .backend)
    (hacc : access.ttl = c.access.ttl) (hplace : w.stores.place = none)
    (haccess : (w.now.later? c.access.ttl).isSome = true) {secret : RefreshSecret}
    {expected : Option OwnerId} {x : TokenError} (h : (g.rotate secret expected w).1 = .error x) :
    w.stores.RefusalLeaves (g.nextSecret w).digest c.refreshTtl
      (g.rotate secret expected w).2.stores := by
  have hends := rotate_ends hg (RefreshBackend.quiet_of_place hplace) secret expected
  rw [← hg.ttl]
  generalize g.rotate secret expected w = ended at h hends ⊢
  cases hends with
  | refused _ hshows => exact .inl hshows
  | failed _ hfault hshows =>
    exact .inr ⟨RefreshBackend.canDate_of_rotateAnswer hplace hfault, hshows⟩
  | unsigned _ hlater =>
    rw [← hacc, hlater] at haccess
    cases haccess
  | granted => cases h

end TokenEngine
end Gatehouse
