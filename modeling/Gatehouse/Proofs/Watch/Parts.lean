import Gatehouse.Watch.Watched
import Gatehouse.Proofs.Token.Engine

/-!
# Gatehouse.Proofs.Watch.Parts

The parts of an engine under watch, on a store that is otherwise left alone. A store may fail in
place of a call or after it, and a codec may fail to sign (`Faults.OfBackend`); what a call leaves
then is what it would have left without the fault, or nothing new.

* `get_spec`, `rotate_spec`, `delete_spec`, `sign_spec`: one lemma for each part.
-/

namespace Gatehouse.Watch

/-- Only a store fails to do what it is asked, and only a codec to sign. -/
structure Faults.OfBackend (f : Faults) : Prop where
  get : ∀ x ∈ f.get, ∃ fault, x.error = .failed fault
  delete : ∀ x ∈ f.delete, ∃ fault, x.error = .failed fault
  rotate : ∀ x ∈ f.rotate, ∃ fault, x.error = .failed fault
  sign : ∀ e ∈ f.sign, ∃ cause, e = .generation cause

theorem Faults.OfBackend.tail_get {f : Faults} (h : f.OfBackend) :
    OfBackend { f with get := f.get.tail } :=
  ⟨fun x hx => h.get x (List.mem_of_mem_tail hx), h.delete, h.rotate, h.sign⟩

theorem Faults.OfBackend.tail_rotate {f : Faults} (h : f.OfBackend) :
    OfBackend { f with rotate := f.rotate.tail } :=
  ⟨h.get, h.delete, fun x hx => h.rotate x (List.mem_of_mem_tail hx), h.sign⟩

/-- The next call is made, because no failure waits for it or one that comes afterwards. -/
def passes (failures : List StoreFailure) : Bool := failures.head?.all StoreFailure.afterwards

section Apply

variable {σ α : Type} {failures : List StoreFailure} (call : σ → Except StoreError α × σ) (s : σ)

/-- A call that does not pass is a failure, and nothing else. -/
theorem apply_of_not_passes (h : passes failures = false) :
    ∃ x ∈ failures, StoreFailure.apply failures.head? call s = (.error x.error, s) := by
  cases failures with
  | nil => cases h
  | cons x rest =>
    obtain ⟨afterwards, e⟩ := x
    cases afterwards with
    | false => exact ⟨_, .head _, rfl⟩
    | true => cases h

theorem apply_of_passes (h : passes failures = true) :
    (StoreFailure.apply failures.head? call s).2 = (call s).2 ∧
      ((StoreFailure.apply failures.head? call s).1 = (call s).1 ∨
        ∃ x ∈ failures, (call s).1.isOk = true ∧
          (StoreFailure.apply failures.head? call s).1 = .error x.error) := by
  cases failures with
  | nil => exact ⟨rfl, .inl rfl⟩
  | cons x rest =>
    obtain ⟨afterwards, e⟩ := x
    cases afterwards with
    | false => cases h
    | true =>
      simp only [List.head?_cons, StoreFailure.apply]
      rcases call s with ⟨a, s'⟩
      cases a with
      | error _ => exact ⟨rfl, .inl rfl⟩
      | ok _ => exact ⟨rfl, .inr ⟨_, .head _, rfl, rfl⟩⟩

end Apply

/-- A write that would leave these records is made, though its answer may be lost, or it fails and
changes nothing. -/
theorem apply_spec {α : Type} {failures : List StoreFailure}
    (hf : ∀ x ∈ failures, ∃ fault, x.error = .failed fault) {b : RefreshBackend} (hq : b.Quiet)
    {call : RefreshBackend → Except StoreError α × RefreshBackend}
    {left : Except StoreError α → SecretDigest → Option Holding}
    (hleft : ∀ e, left (.error e) = b.held) (hshows : b.Shows (call b).2 (left (call b).1)) :
    (∃ v, passes failures = true ∧ (call b).1 = .ok v ∧
        b.Shows (StoreFailure.apply failures.head? call b).2 (left (.ok v)) ∧
        ((StoreFailure.apply failures.head? call b).1 = .ok v ∨
          ∃ fault, (StoreFailure.apply failures.head? call b).1 = .error (.failed fault))) ∨
      ((passes failures = true → (call b).1.isOk = false) ∧
        b.Shows (StoreFailure.apply failures.head? call b).2 b.held ∧
        ∃ e, (StoreFailure.apply failures.head? call b).1 = .error e) := by
  cases hp : passes failures with
  | false =>
    obtain ⟨x, -, happly⟩ := apply_of_not_passes call b hp
    rw [happly]
    exact .inr ⟨(fun h => nomatch h), RefreshBackend.Shows.refl hq, _, rfl⟩
  | true =>
    obtain ⟨hstore, ha⟩ := apply_of_passes call b hp
    rw [hstore]
    cases hr : (call b).1 with
    | error e =>
      rw [hr, hleft] at hshows
      refine .inr ⟨fun _ => rfl, hshows, e, ?_⟩
      rcases ha with ha | ⟨x, -, hok, -⟩
      · rw [ha, hr]
      · rw [hr] at hok
        cases hok
    | ok v =>
      rw [hr] at hshows
      refine .inl ⟨v, rfl, rfl, hshows, ?_⟩
      rcases ha with ha | ⟨x, hx, -, ha⟩
      · exact .inl (ha.trans hr)
      · obtain ⟨fault, hfault⟩ := hf x hx
        exact .inr ⟨fault, by rw [ha, hfault]⟩

variable {ρ : Type} {p : Watched RefreshBackend ρ}

theorem store_put (d : SecretDigest) (r : RefreshRecord) (ttl : Span) :
    (store (ρ := ρ) RefreshStore.backend).put d r ttl p =
      ((StoreFailure.apply p.faults.put.head? (RefreshBackend.put d r ttl) p.store).1,
        { store := (StoreFailure.apply p.faults.put.head? (RefreshBackend.put d r ttl) p.store).2
          repo := p.repo
          faults := { p.faults with put := p.faults.put.tail }
          calls := p.calls ++ [.put d r ttl] }) := rfl

theorem store_get (d : SecretDigest) :
    (store (ρ := ρ) RefreshStore.backend).get d p =
      ((StoreFailure.apply p.faults.get.head? (RefreshBackend.get d) p.store).1,
        { store := (StoreFailure.apply p.faults.get.head? (RefreshBackend.get d) p.store).2
          repo := p.repo
          faults := { p.faults with get := p.faults.get.tail }
          calls := p.calls ++ [.get d] }) := rfl

theorem store_delete (d : SecretDigest) :
    (store (ρ := ρ) RefreshStore.backend).delete d p =
      ((StoreFailure.apply p.faults.delete.head? (RefreshBackend.delete d) p.store).1,
        { store := (StoreFailure.apply p.faults.delete.head? (RefreshBackend.delete d) p.store).2
          repo := p.repo
          faults := { p.faults with delete := p.faults.delete.tail }
          calls := p.calls ++ [.delete d] }) := rfl

theorem store_rotate (old new : SecretDigest) (expected : Option OwnerId) (issuedAt : Instant)
    (ttl : Span) :
    (store (ρ := ρ) RefreshStore.backend).rotate old new expected issuedAt ttl p =
      ((StoreFailure.apply p.faults.rotate.head?
          (RefreshBackend.rotate old new expected issuedAt ttl) p.store).1,
        { store := (StoreFailure.apply p.faults.rotate.head?
            (RefreshBackend.rotate old new expected issuedAt ttl) p.store).2
          repo := p.repo
          faults := { p.faults with rotate := p.faults.rotate.tail }
          calls := p.calls ++ [.rotate old new expected issuedAt ttl] }) := rfl

theorem get_spec (hq : p.store.Quiet) (hf : p.faults.OfBackend) (d : SecretDigest) :
    ∃ a p', (store (ρ := ρ) RefreshStore.backend).get d p = (a, p') ∧
      p.store.Shows p'.store p.store.held ∧
      p'.faults = { p.faults with get := p.faults.get.tail } ∧ p'.calls = p.calls ++ [.get d] ∧
      (a = p.store.getAnswer d ∨ ∃ fault, a = .error (.failed fault)) := by
  obtain ⟨hanswer, hshows⟩ := RefreshBackend.get_spec hq d
  rw [store_get]
  cases hp : passes p.faults.get with
  | false =>
    obtain ⟨x, hx, happly⟩ := apply_of_not_passes (RefreshBackend.get d) p.store hp
    obtain ⟨fault, hfault⟩ := hf.get x hx
    rw [happly]
    exact ⟨_, _, rfl, RefreshBackend.Shows.refl hq, rfl, rfl, .inr ⟨fault, by rw [hfault]⟩⟩
  | true =>
    obtain ⟨hstore, ha⟩ := apply_of_passes (RefreshBackend.get d) p.store hp
    refine ⟨_, _, rfl, by rw [hstore]; exact hshows, rfl, rfl, ?_⟩
    rcases ha with ha | ⟨x, hx, -, ha⟩
    · exact .inl (ha.trans hanswer)
    · obtain ⟨fault, hfault⟩ := hf.get x hx
      exact .inr ⟨fault, by rw [ha, hfault]⟩

theorem delete_spec (hq : p.store.Quiet) (d : SecretDigest) :
    ∃ a p', (store (ρ := ρ) RefreshStore.backend).delete d p = (a, p') ∧
      p'.calls = p.calls ++ [.delete d] ∧
      p.store.Shows p'.store
        (if passes p.faults.delete then Function.update p.store.held d none else p.store.held) := by
  obtain ⟨-, hshows⟩ := RefreshBackend.delete_spec hq d
  rw [store_delete]
  cases hp : passes p.faults.delete with
  | false =>
    obtain ⟨x, hx, happly⟩ := apply_of_not_passes (RefreshBackend.delete d) p.store hp
    rw [happly]
    exact ⟨_, _, rfl, rfl, RefreshBackend.Shows.refl hq⟩
  | true =>
    obtain ⟨hstore, -⟩ := apply_of_passes (RefreshBackend.delete d) p.store hp
    exact ⟨_, _, rfl, rfl, by rw [hstore]; exact hshows⟩

/-- A rotation moves the record, though its answer may be lost, or it fails and changes nothing. -/
theorem rotate_spec (hq : p.store.Quiet) (hf : p.faults.OfBackend) {ttl : Span}
    (ht : ttl.Storable) (old new : SecretDigest) (expected : Option OwnerId) (issuedAt : Instant) :
    ∃ a p', (store (ρ := ρ) RefreshStore.backend).rotate old new expected issuedAt ttl p = (a, p') ∧
      p'.faults = { p.faults with rotate := p.faults.rotate.tail } ∧
      p'.calls = p.calls ++ [.rotate old new expected issuedAt ttl] ∧
      ((∃ r, passes p.faults.rotate = true ∧
          p.store.rotateAnswer old new expected issuedAt ttl = .ok r ∧
          p.store.Shows p'.store (p.store.rotated old new ttl (.ok r)) ∧
          (a = .ok r ∨ ∃ fault, a = .error (.failed fault))) ∨
        ((passes p.faults.rotate = true →
            (p.store.rotateAnswer old new expected issuedAt ttl).isOk = false) ∧
          p.store.Shows p'.store p.store.held ∧ ∃ e, a = .error e)) := by
  obtain ⟨hanswer, hshows⟩ := RefreshBackend.rotate_spec hq ht old new expected issuedAt
  rw [← hanswer] at hshows ⊢
  exact ⟨_, _, store_rotate .., rfl, rfl, apply_spec hf.rotate hq (fun _ => rfl) hshows⟩

theorem put_spec (hq : p.store.Quiet) (hf : ∀ x ∈ p.faults.put, ∃ fault, x.error = .failed fault)
    {ttl : Span} (ht : ttl.Storable) (d : SecretDigest) (r : RefreshRecord) :
    ∃ a p', (store (ρ := ρ) RefreshStore.backend).put d r ttl p = (a, p') ∧
      p'.faults = { p.faults with put := p.faults.put.tail } ∧
      p'.calls = p.calls ++ [.put d r ttl] ∧
      ((∃ v, passes p.faults.put = true ∧ (p.store.put d r ttl).1 = .ok v ∧
          p.store.Shows p'.store (Function.update p.store.held d (some (p.store.filing r ttl))) ∧
          (a = .ok v ∨ ∃ fault, a = .error (.failed fault))) ∨
        ((passes p.faults.put = true → (p.store.put d r ttl).1.isOk = false) ∧
          p.store.Shows p'.store p.store.held ∧ ∃ e, a = .error e)) := by
  obtain ⟨hanswer, hshows⟩ := RefreshBackend.put_spec hq ht d r
  rw [← hanswer] at hshows
  exact ⟨_, _, store_put .., rfl, rfl, apply_spec hf hq (fun _ => rfl) hshows⟩

variable {τ : Type}

/-- A codec under watch notes the call, takes the next fault and leaves the store alone. -/
theorem sign_frame [ByteSource τ] (access : AccessCodec) (owner : OwnerId) (now : Instant)
    (w : World τ (Watched RefreshBackend ρ)) :
    ∃ a e, (codec (ρ := ρ) (.plain access)).sign owner now w =
      (a, ⟨w.now, e, w.stores.store, w.stores.repo,
        { w.stores.faults with sign := w.stores.faults.sign.tail },
        w.stores.calls ++ [.sign owner now]⟩) := by
  cases hfault : w.stores.faults.sign.head? with
  | some x =>
    simp only [codec, unlessFailing, hfault]
    exact ⟨.error x, w.entropy, rfl⟩
  | none =>
    simp only [codec, unlessFailing, hfault]
    exact ⟨_, _, rfl⟩

theorem sign_spec [SteadySource τ] (access : AccessCodec) (owner : OwnerId) (now : Instant)
    {w : World τ (Watched RefreshBackend ρ)} (hf : w.stores.faults.OfBackend)
    (he : SteadySource.broken w.entropy = false) :
    ∃ a w', (codec (ρ := ρ) (.plain access)).sign owner now w = (a, w') ∧
      w'.stores.store = w.stores.store ∧
      w'.stores.faults = { w.stores.faults with sign := w.stores.faults.sign.tail } ∧
      w'.stores.calls = w.stores.calls ++ [.sign owner now] ∧
      ∀ e, a = .error e → ∃ cause, e = .generation cause := by
  obtain ⟨a, e, hsign⟩ := sign_frame access owner now w
  refine ⟨a, _, hsign, rfl, rfl, rfl, fun x hx => ?_⟩
  subst hx
  have hanswer := congrArg Prod.fst hsign
  cases hfault : w.stores.faults.sign.head? with
  | some y =>
    simp only [codec, unlessFailing, hfault] at hanswer
    obtain rfl : y = x := Except.error.inj hanswer
    exact hf.sign y (List.mem_of_mem_head? hfault)
  | none =>
    simp only [codec, unlessFailing, hfault] at hanswer
    exact ⟨_, access.error_of_sign he hanswer⟩

end Gatehouse.Watch

namespace Gatehouse.TokenEngine

open Watch (Watched passes)

/-! ## Cleaning up -/

section CleanUp

variable {τ ρ : Type} [ByteSource τ] {g : TokenEngine τ (Watched RefreshBackend ρ)}
  {c : TokenConfig} {access : AccessCodec} {w : World τ (Watched RefreshBackend ρ)}

theorem discard_spec (hg : g.Made c (Watch.codec (.plain access)) (Watch.store .backend))
    (hq : w.stores.store.Quiet) (d : SecretDigest) :
    (g.discard d w).stores.calls = w.stores.calls ++ [.delete d] ∧
      w.stores.store.Shows (g.discard d w).stores.store
        (if passes w.stores.faults.delete then Function.update w.stores.store.held d none
          else w.stores.store.held) := by
  obtain ⟨a, p, hcall, hcalls, hshows⟩ := Watch.delete_spec hq d
  simp only [discard, hg.store, World.onStores, hcall]
  exact ⟨hcalls, hshows⟩

theorem shows_discard_of_free (hg : g.Made c (Watch.codec (.plain access)) (Watch.store .backend))
    (hq : w.stores.store.Quiet) {d : SecretDigest} (hd : w.stores.store.held d = none) :
    w.stores.store.Shows (g.discard d w).stores.store w.stores.store.held := by
  have hshows := (discard_spec hg hq d).2
  have hsame : Function.update w.stores.store.held d none = w.stores.store.held := by
    rw [← hd, Function.update_eq_self]
  rwa [hsame, ite_self] at hshows

/-- The same world, with other failures laid down for deletions. -/
def withDeletes (deletes : List Watch.StoreFailure) (w : World τ (Watched RefreshBackend ρ)) :
    World τ (Watched RefreshBackend ρ) :=
  { w with stores := { w.stores with faults := { w.stores.faults with delete := deletes } } }

theorem sign_withDeletes (deletes : List Watch.StoreFailure) (owner : OwnerId) (now : Instant) :
    (Watch.codec (ρ := ρ) (.plain access)).sign owner now (withDeletes deletes w) =
      (((Watch.codec (.plain access)).sign owner now w).1,
        withDeletes deletes ((Watch.codec (.plain access)).sign owner now w).2) := by
  simp only [Watch.codec, withDeletes]
  cases w.stores.faults.sign.head? <;> rfl

end CleanUp

end Gatehouse.TokenEngine
