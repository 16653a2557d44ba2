import Mathlib.Data.List.Sort
import Mathlib.Data.String.Basic
import Gatehouse.Proofs.Refresh.Contract

/-!
# Gatehouse.Proofs.Refresh.Leases

What a client can learn of the records of a store: whose a secret is, and the time that is left of
it. The backends write their records in different forms and count time in different units, but on
either of them a call answers by the leases alone and changes them in the same way (`Keeps`), if it
is not given what the two treat differently: an owner without a name, a record that the rotation
refuses, a fraction of a second.

* `Keeps.get`, `Keeps.put`, `Keeps.delete`, `Keeps.rotate`, `Keeps.advance`: a lemma for each call.
* `Keeps.live_eq`: the keys that are there are those of the leases.
-/

namespace Gatehouse

/-- Whose a secret is, and how many nanoseconds are left of it. -/
structure Lease where
  owner : OwnerId
  left : Nat

abbrev Leases := SecretDigest → Option Lease

namespace Leases

def empty : Leases := fun _ => none

/-- The leases that are left after a span. -/
def after (span : Span) (leases : Leases) : Leases := fun d =>
  ((leases d).filter (span.nanos < ·.left)).map fun l => { l with left := l.left - span.nanos }

/-! ## The calls of a store -/

variable (leases : Leases)

def put (d : SecretDigest) (owner : OwnerId) (ttl : Span) : Except StoreError Unit × Leases :=
  match leases d with
  | some _ => (.error .alreadyExists, leases)
  | none => (.ok (), Function.update leases d (some ⟨owner, ttl.nanos⟩))

def rotate (old new : SecretDigest) (issuedAt : Instant) (ttl : Span) :
    Except StoreError RefreshRecord × Leases :=
  match leases old, leases new with
  | none, _ => (.error .notFound, leases)
  | some _, some _ => (.error .alreadyExists, leases)
  | some l, none =>
    (.ok ⟨l.owner, issuedAt⟩,
      Function.update (Function.update leases new (some ⟨l.owner, ttl.nanos⟩)) old none)

end Leases

theorem option_rel_update {α β γ : Type} [DecidableEq α] {r : β → γ → Prop} {f : α → Option β}
    {g : α → Option γ} (h : ∀ a, Option.Rel r (f a) (g a)) (a : α) {x : Option β} {y : Option γ}
    (hxy : Option.Rel r x y) (e : α) :
    Option.Rel r (Function.update f a x e) (Function.update g a y e) := by
  by_cases he : e = a
  · simpa [he] using hxy
  · simpa [he] using h e

theorem MemoryStore.mem_digests {s : MemoryStore} {d : SecretDigest} :
    d ∈ s.digests ↔ (s.held d).isSome = true := by
  rw [← get?_purged]
  simp only [digests, Table.keys, List.mem_map, Option.isSome_iff_exists,
    Table.get?_eq_some_iff]
  constructor
  · rintro ⟨e, he, rfl⟩
    exact ⟨e.2, he⟩
  · rintro ⟨f, hf⟩
    exact ⟨(d, f), hf, rfl⟩

theorem KeyServer.Database.mem_live {db : Database} {k : String} :
    k ∈ db.live.map Prod.fst ↔ (db.get? k).isSome = true := by
  rw [List.mem_map, Option.isSome_iff_exists]
  constructor
  · rintro ⟨e, he, rfl⟩
    exact ⟨e.2, mem_live_iff.mp he⟩
  · rintro ⟨e, he⟩
    exact ⟨(k, e), mem_live_iff.mpr he, rfl⟩

namespace RefreshBackend

def unit (b : RefreshBackend) : Nat :=
  match b.place with
  | none => 1
  | some _ => 1000000

/-- The record is read as one of the owner, and this is what is left of its time. -/
structure Leased (b : RefreshBackend) (x : Holding) (l : Lease) : Prop where
  owner : x.IsOf l.owner
  left : ∃ deadline, x.deadline = some deadline ∧ (deadline - b.clock) * b.unit = l.left

/-- A store that is left alone, with these leases and no other keys. -/
structure Keeps (b : RefreshBackend) (place : Option String) (leases : Leases) : Prop where
  place : b.place = place
  quiet : b.Quiet
  strays : ∀ k, ¬ b.Strays k
  held : ∀ d, Option.Rel b.Leased (b.held d) (leases d)

variable {b b' : RefreshBackend} {place : Option String} {leases : Leases} {ttl : Span}

theorem keeps_memory (clock : Nat) : Keeps (.memory (.startingAt clock)) none .empty :=
  ⟨rfl, trivial, fun _ => id, fun _ => .none⟩

theorem keeps_remote (p : String) (clock : Nat) :
    Keeps (.remote p { db := .startingAt clock }) (some p) .empty :=
  ⟨rfl, rfl, fun k ⟨hk, _⟩ => by simp at hk, fun _ => .none⟩

namespace Keeps

theorem absent (h : b.Keeps place leases) {d : SecretDigest} (hd : leases d = none) :
    b.held d = none := by
  have hrel := h.held d
  rw [hd] at hrel
  cases hx : b.held d with
  | none => rfl
  | some x =>
    rw [hx] at hrel
    cases hrel

theorem leased (h : b.Keeps place leases) {d : SecretDigest} {l : Lease} (hd : leases d = some l) :
    ∃ x, b.held d = some x ∧ b.Leased x l := by
  have hrel := h.held d
  rw [hd] at hrel
  cases hx : b.held d with
  | none =>
    rw [hx] at hrel
    cases hrel
  | some x =>
    rw [hx] at hrel
    cases hrel with
    | some hl => exact ⟨x, rfl, hl⟩

theorem isSome_held (h : b.Keeps place leases) (d : SecretDigest) :
    (b.held d).isSome = (leases d).isSome := by
  cases hd : leases d with
  | none =>
    rw [h.absent hd]
    rfl
  | some l =>
    obtain ⟨x, hx, -⟩ := h.leased hd
    rw [hx, Option.isSome_some, Option.isSome_some]

theorem of_shows {leases' : Leases} {records : SecretDigest → Option Holding}
    (h : b.Keeps place leases) (hshows : b.Shows b' records)
    (hrel : ∀ d, Option.Rel b.Leased (records d) (leases' d)) : b'.Keeps place leases' := by
  refine ⟨hshows.place.trans h.place, hshows.quiet, fun k hk => h.strays k (hshows.strays k hk),
    fun d => ?_⟩
  have hunit : b'.unit = b.unit := by simp only [unit, hshows.place]
  have hd := hrel d
  rw [hshows.held]
  revert hd
  cases records d <;> cases leases' d <;> intro hd <;> cases hd
  · exact .none
  · rename_i hl
    exact .some ⟨hl.owner, by simpa only [hshows.clock, hunit] using hl.left⟩

theorem same (h : b.Keeps place leases) (hshows : b.Shows b' b.held) : b'.Keeps place leases :=
  h.of_shows hshows h.held

end Keeps

/-- Either backend lets a lifetime of whole seconds last as long as it says. -/
theorem lifetime_mul_unit (b : RefreshBackend) {secs : Nat} (ht : ttl.Storable)
    (hsecs : ttl = .ofSecs secs) : b.lifetime ttl * b.unit = ttl.nanos := by
  have hpos := ht.pos
  subst hsecs
  simp only [Span.ofSecs, Span.second] at hpos
  cases b <;>
    simp only [lifetime, unit, RefreshBackend.place, Span.lifetimeSecs, Span.secs, Span.ofSecs,
      Span.second] <;> omega

theorem leased_filing (b : RefreshBackend) {secs : Nat} (ht : ttl.Storable)
    (hsecs : ttl = .ofSecs secs) {r : RefreshRecord} (hnamed : r.owner.isEmpty = false)
    (hissued : Instant.inCalendar r.issuedAt.secs = true) :
    b.Leased (b.filing r ttl) ⟨r.owner, ttl.nanos⟩ where
  owner := ⟨hnamed, owner_filing b r ttl, record_filing b ttl hnamed hissued⟩
  left := ⟨_, deadline_filing b r ttl, by
    rw [Nat.add_sub_cancel_left, lifetime_mul_unit b ht hsecs]⟩

/-! ## The calls -/

namespace Keeps

theorem get (h : b.Keeps place leases) (d : SecretDigest) :
    (b.get d).2.Keeps place leases ∧
      match leases d with
      | none => (b.get d).1 = .error .notFound
      | some l => ∃ issuedAt, (b.get d).1 = .ok ⟨l.owner, issuedAt⟩ := by
  obtain ⟨hanswer, hshows⟩ := get_spec h.quiet d
  refine ⟨h.same hshows, ?_⟩
  cases hd : leases d with
  | none => simp only [hanswer, getAnswer, h.absent hd]
  | some l =>
    obtain ⟨x, hx, hl⟩ := h.leased hd
    simpa only [hanswer, getAnswer, hx] using hl.owner.record

theorem delete (h : b.Keeps place leases) (d : SecretDigest) :
    (b.delete d).1 = .ok () ∧ (b.delete d).2.Keeps place (Function.update leases d none) := by
  obtain ⟨hanswer, hshows⟩ := delete_spec h.quiet d
  exact ⟨hanswer, h.of_shows hshows (option_rel_update h.held d .none)⟩

theorem put (h : b.Keeps place leases) {secs : Nat} (ht : ttl.Storable) (hsecs : ttl = .ofSecs secs)
    (hdate : b.canDate ttl = true) (d : SecretDigest) {owner : OwnerId} {issuedAt : Instant}
    (hnamed : owner.isEmpty = false) (hissued : Instant.inCalendar issuedAt.secs = true) :
    (b.put d ⟨owner, issuedAt⟩ ttl).1 = (leases.put d owner ttl).1 ∧
      (b.put d ⟨owner, issuedAt⟩ ttl).2.Keeps place (leases.put d owner ttl).2 := by
  obtain ⟨hanswer, hshows⟩ := put_spec h.quiet ht d ⟨owner, issuedAt⟩
  have htaken := h.isSome_held d
  cases hd : leases d with
  | none =>
    have ha : b.putAnswer d ttl = .ok () := by simp [putAnswer, hdate, htaken, hd]
    rw [ha] at hanswer hshows
    simp only [Leases.put, hd]
    exact ⟨hanswer, h.of_shows hshows
      (option_rel_update h.held d (.some (leased_filing b ht hsecs hnamed hissued)))⟩
  | some l =>
    have ha : b.putAnswer d ttl = .error .alreadyExists := by simp [putAnswer, hdate, htaken, hd]
    rw [ha] at hanswer hshows
    simp only [Leases.put, hd]
    exact ⟨hanswer, h.same hshows⟩

theorem rotate (h : b.Keeps place leases) {secs : Nat} (ht : ttl.Storable)
    (hsecs : ttl = .ofSecs secs) (hdate : b.canDate ttl = true) {old : SecretDigest}
    (new : SecretDigest) {expected : Option OwnerId} {issuedAt : Instant}
    (hexp : ∀ l, leases old = some l → b.refuses expected l.owner = false)
    (hissued : Instant.inCalendar issuedAt.secs = true) :
    (b.rotate old new expected issuedAt ttl).1 = (leases.rotate old new issuedAt ttl).1 ∧
      (b.rotate old new expected issuedAt ttl).2.Keeps place
        (leases.rotate old new issuedAt ttl).2 := by
  obtain ⟨hanswer, hshows⟩ := rotate_spec h.quiet ht old new expected issuedAt
  have htaken := h.isSome_held new
  cases hold : leases old with
  | none =>
    rw [rotateAnswer_absent hdate (h.absent hold)] at hanswer hshows
    simp only [Leases.rotate, hold]
    exact ⟨hanswer, h.same hshows⟩
  | some l =>
    obtain ⟨x, hx, hl⟩ := h.leased hold
    have ha : b.rotateAnswer old new expected issuedAt ttl = _ :=
      rotateAnswer_held hdate hx hl.owner.owner
    rw [hexp l hold, htaken] at ha
    cases hnew : leases new with
    | none =>
      rw [hnew] at ha
      rw [ha] at hanswer hshows
      simp only [Leases.rotate, hold, hnew]
      exact ⟨hanswer, h.of_shows hshows (option_rel_update (option_rel_update h.held new
        (.some (leased_filing b ht hsecs hl.owner.named hissued))) old .none)⟩
    | some l' =>
      rw [hnew] at ha
      rw [ha] at hanswer hshows
      simp only [Leases.rotate, hold, hnew]
      exact ⟨hanswer, h.same hshows⟩

theorem advance (h : b.Keeps place leases) (ms : Nat) :
    (b.advance (.ofMillis ms)).Keeps place (leases.after (.ofMillis ms)) := by
  obtain ⟨hplace, hquiet, hclock, hstrays, hheld⟩ := advance_spec h.quiet (.ofMillis ms)
  have hunit : (b.advance (.ofMillis ms)).unit = b.unit := by simp only [unit, hplace]
  have hticks : b.ticks (.ofMillis ms) * b.unit = (Span.ofMillis ms).nanos := by
    cases b <;> simp [ticks, unit, RefreshBackend.place, Span.ofMillis, Span.millis]
  refine ⟨hplace.trans h.place, hquiet, fun k hk => h.strays k (hstrays k hk), fun d => ?_⟩
  rw [hheld, Leases.after]
  cases hd : leases d with
  | none =>
    rw [h.absent hd]
    exact .none
  | some l =>
    obtain ⟨x, hx, howner, deadline, hdeadline, hleft⟩ := h.leased hd
    have hunit_pos : 0 < b.unit := by cases b <;> simp [unit, RefreshBackend.place]
    have hlive :
        b.clock + b.ticks (.ofMillis ms) < deadline ↔ (Span.ofMillis ms).nanos < l.left := by
      rw [← hticks, ← hleft, Nat.mul_lt_mul_right hunit_pos]
      omega
    by_cases hlt : (Span.ofMillis ms).nanos < l.left
    · simp only [hx, Option.filter, hdeadline, Option.all_some, decide_eq_true hlt, decide_eq_true
        (hlive.mpr hlt), if_true, Option.map_some]
      refine .some ⟨howner, deadline, hdeadline, ?_⟩
      simp only [hclock, hunit]
      rw [← hleft, ← hticks, ← Nat.sub_mul, Nat.sub_sub]
    · simp only [hx, Option.filter, hdeadline, Option.all_some, decide_eq_false hlt, decide_eq_false
        (mt hlive.mp hlt)]
      exact .none

end Keeps

/-! ## The keys -/

def keyOf (place : Option String) (d : SecretDigest) : String :=
  place.elim d.hex fun p => RemoteStore.key p d

theorem keyOf_injective (place : Option String) {d e : SecretDigest}
    (h : keyOf place d = keyOf place e) : d = e := by
  cases place with
  | none =>
    obtain ⟨d⟩ := d
    exact congrArg SecretDigest.mk h
  | some p => exact RemoteStore.key_injective p h

theorem mem_live {k : String} :
    k ∈ b.live ↔ (∃ d, (b.held d).isSome = true ∧ k = keyOf b.place d) ∨ b.Strays k := by
  cases b with
  | memory s =>
    simp only [live, List.mem_mergeSort, List.mem_map, MemoryStore.mem_digests, held,
      Option.isSome_map, RefreshBackend.place, keyOf, Option.elim_none, Strays, or_false]
    exact exists_congr fun d => and_congr_right fun _ => eq_comm
  | remote p l =>
    simp only [live, List.mem_mergeSort, KeyServer.Database.mem_live, held, Option.isSome_map,
      RefreshBackend.place, keyOf, Option.elim_some, Strays]
    constructor
    · intro hk
      by_cases hd : ∃ d, k = RemoteStore.key p d
      · obtain ⟨d, rfl⟩ := hd
        exact .inl ⟨d, hk, rfl⟩
      · exact .inr ⟨hk, fun d h => hd ⟨d, h⟩⟩
    · rintro (⟨d, hk, rfl⟩ | ⟨hk, -⟩)
      · exact hk
      · exact hk

theorem nodup_live (b : RefreshBackend) : b.live.Nodup := by
  refine (List.mergeSort_perm _ _).nodup_iff.mpr ?_
  cases b with
  | memory s => exact s.purged.entries.distinct.map fun d e h => keyOf_injective none h
  | remote p l => exact l.db.keys.distinct.sublist (List.filter_sublist.map Prod.fst)

theorem sortedLT_live (b : RefreshBackend) : b.live.SortedLT := by
  refine List.SortedLE.sortedLT_of_nodup (List.Pairwise.sortedLE ?_) (nodup_live b)
  have hle (x y : String) : (!(decide (y < x))) = true ↔ x ≤ y := by
    rw [Bool.not_eq_true', decide_eq_false_iff_not, not_lt]
  refine (List.pairwise_mergeSort (fun x y z hxy hyz => ?_) (fun x y => ?_) _).imp
    fun {x y} h => (hle x y).mp h
  · exact (hle x z).mpr (((hle x y).mp hxy).trans ((hle y z).mp hyz))
  · rw [Bool.or_eq_true, hle, hle]
    exact le_total x y

theorem key_lt_key (p : String) {d e : SecretDigest} (h : d.hex < e.hex) :
    RemoteStore.key p d < RemoteStore.key p e := by
  rw [String.lt_iff_toList_lt] at h ⊢
  simp only [RemoteStore.key, String.toList_append]
  exact List.append_left_lt h

namespace Keeps

theorem mem_live (h : b.Keeps place leases) {k : String} :
    k ∈ b.live ↔ ∃ d, (leases d).isSome = true ∧ k = keyOf place d := by
  rw [RefreshBackend.mem_live, or_iff_left (h.strays k), h.place]
  exact exists_congr fun d => by rw [h.isSome_held]

/-- The keys on a server are the prefix with the digests of a store in memory that keeps the same
leases. -/
theorem live_eq {p : String} (h : b.Keeps none leases) (h' : b'.Keeps (some p) leases) :
    b'.live = b.live.map fun hex => RemoteStore.key p ⟨hex⟩ := by
  refine (sortedLT_live b').eq_of_mem_iff ?_ fun k => ?_
  · refine List.Pairwise.sortedLT (List.pairwise_map.mpr ?_)
    exact (sortedLT_live b).pairwise.imp fun hlt => key_lt_key p hlt
  · rw [List.mem_map, h'.mem_live]
    constructor
    · rintro ⟨d, hd, rfl⟩
      exact ⟨d.hex, h.mem_live.mpr ⟨d, hd, rfl⟩, rfl⟩
    · rintro ⟨hex, hmem, rfl⟩
      obtain ⟨d, hd, rfl⟩ := h.mem_live.mp hmem
      exact ⟨d, hd, rfl⟩

end Keeps

end RefreshBackend
end Gatehouse
