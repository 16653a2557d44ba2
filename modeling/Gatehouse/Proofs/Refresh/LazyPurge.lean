import Mathlib.Data.Finmap
import Gatehouse.Proofs.Refresh.Leases
import Gatehouse.Proofs.Run

/-!
# Gatehouse.Proofs.Refresh.LazyPurge

A store in memory keeps a record whose deadline has come until a call other than a deletion drops
it. No answer tells whether that has happened yet: the store answers as a map would (`RecordMap`)
that keeps all that is written to it, and in which a record exists from the reading of the clock at
which it was written to the end of its lifetime.

* `Mirrors`: how the store and the map go together, kept by every call.
* `purging_unobservable`: the answers of any run are those of the map.
-/

namespace Gatehouse

/-! ## The map -/

/-- A record as it was written: when, and for how long. -/
structure Written where
  record : RefreshRecord
  writtenAt : Nat
  ttl : Span
  deriving DecidableEq

/-- Whether the record exists at a reading of the clock, if nobody has taken it away. -/
def Written.existsAt (w : Written) (clock : Nat) : Bool :=
  w.writtenAt ≤ clock && clock < w.writtenAt + w.ttl.nanos

/-- All that was written and not taken away since, whether it still exists or not. -/
structure RecordMap where
  clock : Nat
  records : Finmap fun _ : SecretDigest => Written

namespace RecordMap

def startingAt (clock : Nat) : RecordMap := ⟨clock, ∅⟩

def existing? (m : RecordMap) (d : SecretDigest) : Option Written :=
  (m.records.lookup d).filter (·.existsAt m.clock)

def digests (m : RecordMap) : Finset SecretDigest :=
  m.records.keys.filter fun d => (m.existing? d).isSome

def canDate (m : RecordMap) (ttl : Span) : Bool :=
  m.clock + ttl.nanos < MemoryStore.secondsEnd * Span.second

def write (d : SecretDigest) (r : RefreshRecord) (ttl : Span) (m : RecordMap) : RecordMap :=
  { m with records := m.records.insert d ⟨r, m.clock, ttl⟩ }

def erase (d : SecretDigest) (m : RecordMap) : RecordMap :=
  { m with records := m.records.erase d }

def put (d : SecretDigest) (r : RefreshRecord) (ttl : Span) (m : RecordMap) :
    Except StoreError Unit × RecordMap :=
  if m.canDate ttl then
    if (m.existing? d).isSome then (.error .alreadyExists, m) else (.ok (), m.write d r ttl)
  else (.error (.failed .deadlineOutOfRange), m)

def get (d : SecretDigest) (m : RecordMap) : Except StoreError RefreshRecord :=
  match m.existing? d with
  | none => .error .notFound
  | some w => .ok w.record

def rotate (old new : SecretDigest) (expected : Option OwnerId) (issuedAt : Instant) (ttl : Span)
    (m : RecordMap) : Except StoreError RefreshRecord × RecordMap :=
  if m.canDate ttl then
    match m.existing? old with
    | none => (.error .notFound, m)
    | some w =>
      if expected.any (· ≠ w.record.owner) then (.error .ownerMismatch, m)
      else if (m.existing? new).isSome then (.error .alreadyExists, m)
      else
        let r : RefreshRecord := ⟨w.record.owner, issuedAt⟩
        (.ok r, (m.write new r ttl).erase old)
  else (.error (.failed .deadlineOutOfRange), m)

def wait (span : Span) (m : RecordMap) : RecordMap := { m with clock := m.clock + span.nanos }

end RecordMap

/-! ## Calls -/

inductive MemoryCall where
  | put (d : SecretDigest) (r : RefreshRecord) (ttl : Span)
  | get (d : SecretDigest)
  | delete (d : SecretDigest)
  | rotate (old new : SecretDigest) (expected : Option OwnerId) (issuedAt : Instant) (ttl : Span)
  | size
  | isEmpty
  | digests
  | wait (span : Span)

inductive MemoryAnswer where
  | done (r : Except StoreError Unit)
  | record (r : Except StoreError RefreshRecord)
  | size (n : Nat)
  | isEmpty (b : Bool)
  | digests (ds : Multiset SecretDigest)

namespace MemoryCall

/-- To count records or to list them drops those whose deadline has come, as other calls do. -/
def apply : MemoryCall → MemoryStore → MemoryAnswer × MemoryStore
  | put d r ttl, s => (.done (s.put d r ttl).1, (s.put d r ttl).2)
  | get d, s => (.record (s.get d).1, (s.get d).2)
  | delete d, s => (.done (s.delete d).1, (s.delete d).2)
  | rotate old new expected issuedAt ttl, s =>
    (.record (s.rotate old new expected issuedAt ttl).1, (s.rotate old new expected issuedAt ttl).2)
  | size, s => (.size s.size, s.purged)
  | isEmpty, s => (.isEmpty s.isEmpty, s.purged)
  | digests, s => (.digests s.digests, s.purged)
  | wait span, s => (.done (.ok ()), s.advance span)

def applyMap : MemoryCall → RecordMap → MemoryAnswer × RecordMap
  | put d r ttl, m => (.done (m.put d r ttl).1, (m.put d r ttl).2)
  | get d, m => (.record (m.get d), m)
  | delete d, m => (.done (.ok ()), m.erase d)
  | rotate old new expected issuedAt ttl, m =>
    (.record (m.rotate old new expected issuedAt ttl).1, (m.rotate old new expected issuedAt ttl).2)
  | size, m => (.size m.digests.card, m)
  | isEmpty, m => (.isEmpty (m.digests = ∅), m)
  | digests, m => (.digests m.digests.val, m)
  | wait span, m => (.done (.ok ()), m.wait span)

end MemoryCall

/-! ## The store and the map -/

def Written.filed (w : Written) : FiledRecord := ⟨w.record, w.writtenAt + w.ttl.nanos⟩

theorem Written.existsAt_eq {w : Written} {clock : Nat} (h : w.writtenAt ≤ clock) :
    w.existsAt clock = decide (clock < w.filed.deadline) := by
  rw [existsAt, decide_eq_true h, Bool.true_and]
  rfl

namespace RecordMap

theorem lookup_write (m : RecordMap) (d : SecretDigest) (r : RefreshRecord) (ttl : Span)
    (e : SecretDigest) :
    (m.write d r ttl).records.lookup e =
      if e = d then some ⟨r, m.clock, ttl⟩ else m.records.lookup e := by
  split_ifs with he
  · rw [he, write, Finmap.lookup_insert]
  · rw [write, Finmap.lookup_insert_of_ne _ he]

theorem lookup_erase (m : RecordMap) (d e : SecretDigest) :
    (m.erase d).records.lookup e = if e = d then none else m.records.lookup e := by
  split_ifs with he
  · rw [he, erase, Finmap.lookup_erase]
  · rw [erase, Finmap.lookup_erase_ne he]

theorem mem_digests {m : RecordMap} {d : SecretDigest} :
    d ∈ m.digests ↔ (m.existing? d).isSome = true := by
  rw [digests, Finset.mem_filter, Finmap.mem_keys, and_iff_right_iff_imp]
  intro h
  obtain ⟨w, hw⟩ := Option.isSome_iff_exists.mp h
  exact Finmap.mem_of_lookup_eq_some (Option.filter_eq_some_iff.mp hw).1

end RecordMap

namespace MemoryStore

/-- The store holds what exists in the map, whatever else lies in either of them. -/
structure Mirrors (s : MemoryStore) (m : RecordMap) : Prop where
  clock : s.clock = m.clock
  held : ∀ d, s.held d = (m.existing? d).map Written.filed
  past : ∀ d w, m.records.lookup d = some w → w.writtenAt ≤ m.clock

namespace Mirrors

variable {s : MemoryStore} {m : RecordMap} {d : SecretDigest}

theorem startingAt (clock : Nat) : Mirrors (.startingAt clock) (.startingAt clock) where
  clock := rfl
  held d := by
    have hnone : (RecordMap.startingAt clock).existing? d = none := by
      simp [RecordMap.existing?, RecordMap.startingAt]
    rw [hnone]
    rfl
  past d w h := by simp [RecordMap.startingAt] at h

theorem deadline? (h : s.Mirrors m) (ttl : Span) :
    s.deadline? ttl = if m.canDate ttl then some (m.clock + ttl.nanos) else none := by
  simp only [MemoryStore.deadline?, RecordMap.canDate, h.clock, decide_eq_true_eq,
    Nat.div_lt_iff_lt_mul (show 0 < Span.second by decide)]

theorem isSome_held (h : s.Mirrors m) (d : SecretDigest) :
    (s.held d).isSome = (m.existing? d).isSome := by
  rw [h.held, Option.isSome_map]

theorem purged (h : s.Mirrors m) : s.purged.Mirrors m :=
  ⟨h.clock, fun d => by rw [held_purged, h.held], h.past⟩

theorem remove (h : s.Mirrors m) (d : SecretDigest) : (s.remove d).Mirrors (m.erase d) where
  clock := h.clock
  held e := by
    rw [held_remove, RecordMap.existing?, RecordMap.lookup_erase]
    by_cases he : e = d
    · simp [he]
    · rw [Function.update_of_ne he, if_neg he]
      exact h.held e
  past e w hw := by
    rw [RecordMap.lookup_erase] at hw
    split_ifs at hw
    exact h.past e w hw

/-- What is filed now is there now, unless its lifetime is over as soon as it begins. -/
theorem file (h : s.Mirrors m) (d : SecretDigest) (r : RefreshRecord) (ttl : Span) :
    (s.file d r (m.clock + ttl.nanos)).Mirrors (m.write d r ttl) where
  clock := h.clock
  held e := by
    change ((s.entries.insert d ⟨r, m.clock + ttl.nanos⟩).get? e).filter
      (fun f => s.clock < f.deadline) = _
    rw [RecordMap.existing?, RecordMap.lookup_write, Table.get?_insert, h.clock]
    by_cases he : e = d
    · by_cases hpos : 0 < ttl.nanos <;>
        simp [he, hpos, Option.filter, Written.existsAt, Written.filed, RecordMap.write]
    · have hheld := h.held e
      rw [MemoryStore.held, h.clock] at hheld
      rw [if_neg he, if_neg he]
      exact hheld
  past e w hw := by
    rw [RecordMap.lookup_write] at hw
    split_ifs at hw
    · cases hw
      exact Nat.le_refl _
    · exact h.past e w hw

theorem advance (h : s.Mirrors m) (span : Span) : (s.advance span).Mirrors (m.wait span) where
  clock := by simp [MemoryStore.advance, RecordMap.wait, h.clock]
  held d := by
    rw [held_advance, h.held, h.clock]
    simp only [RecordMap.existing?, RecordMap.wait]
    cases hw : m.records.lookup d with
    | none => rfl
    | some w =>
      have hnow := h.past d w hw
      have hthen : w.writtenAt ≤ m.clock + span.nanos := Nat.le_add_right_of_le hnow
      simp only [Option.filter, w.existsAt_eq hnow, w.existsAt_eq hthen]
      by_cases hgone : m.clock + span.nanos < w.filed.deadline
      · have : m.clock < w.filed.deadline := by omega
        simp [hgone, this]
      · by_cases hlate : m.clock < w.filed.deadline <;> simp [hgone, hlate]
  past d w hw := Nat.le_add_right_of_le (h.past d w hw)

/-! ## Answers -/

theorem digests_eq (h : s.Mirrors m) : (s.digests : Multiset SecretDigest) = m.digests.val := by
  have hnodup : (s.digests : Multiset SecretDigest).Nodup := s.purged.entries.distinct
  have hset : (⟨s.digests, hnodup⟩ : Finset SecretDigest) = m.digests := by
    ext d
    rw [RecordMap.mem_digests, ← h.isSome_held, ← mem_digests]
    exact Multiset.mem_coe
  rw [← hset]

theorem size_eq (h : s.Mirrors m) : s.size = m.digests.card := by
  have hcard := congrArg Multiset.card h.digests_eq
  simpa [MemoryStore.size, MemoryStore.digests, Table.keys, Table.size] using hcard

theorem isEmpty_eq (h : s.Mirrors m) : s.isEmpty = decide (m.digests = ∅) := by
  rw [MemoryStore.isEmpty, h.size_eq, Bool.eq_iff_iff, beq_iff_eq, Finset.card_eq_zero,
    decide_eq_true_iff]

theorem put_eq (h : s.Mirrors m) (d : SecretDigest) (r : RefreshRecord) (ttl : Span) :
    (s.put d r ttl).1 = (m.put d r ttl).1 ∧ (s.put d r ttl).2.Mirrors (m.put d r ttl).2 := by
  simp only [MemoryStore.put, RecordMap.put, h.deadline?, Table.contains, get?_purged,
    h.isSome_held]
  by_cases hdate : m.canDate ttl = true
  · simp only [hdate, if_true]
    by_cases hthere : (m.existing? d).isSome = true
    · simp only [hthere, if_true]
      exact ⟨trivial, h.purged⟩
    · simp only [hthere]
      exact ⟨rfl, h.purged.file d r ttl⟩
  · simp only [hdate]
    exact ⟨rfl, h⟩

theorem get_eq (h : s.Mirrors m) (d : SecretDigest) :
    (s.get d).1 = m.get d ∧ (s.get d).2.Mirrors m := by
  simp only [MemoryStore.get, RecordMap.get, get?_purged, h.held]
  cases m.existing? d with
  | none => exact ⟨rfl, h.purged⟩
  | some w => exact ⟨rfl, h.purged⟩

theorem rotate_eq (h : s.Mirrors m) (old new : SecretDigest) (expected : Option OwnerId)
    (issuedAt : Instant) (ttl : Span) :
    (s.rotate old new expected issuedAt ttl).1 = (m.rotate old new expected issuedAt ttl).1 ∧
      (s.rotate old new expected issuedAt ttl).2.Mirrors
        (m.rotate old new expected issuedAt ttl).2 := by
  simp only [MemoryStore.rotate, RecordMap.rotate, h.deadline?, Table.contains, get?_purged,
    h.isSome_held, h.held old]
  by_cases hdate : m.canDate ttl = true
  · simp only [hdate, if_true]
    cases m.existing? old with
    | none => exact ⟨rfl, h.purged⟩
    | some w =>
      simp only [Option.map_some, Written.filed]
      split_ifs
      · exact ⟨rfl, h.purged⟩
      · exact ⟨rfl, h.purged⟩
      · exact ⟨rfl, (h.purged.file new ⟨w.record.owner, issuedAt⟩ ttl).remove old⟩
  · simp only [hdate]
    exact ⟨rfl, h⟩

theorem step (h : s.Mirrors m) (c : MemoryCall) :
    (c.apply s).1 = (c.applyMap m).1 ∧ (c.apply s).2.Mirrors (c.applyMap m).2 := by
  cases c with
  | put d r ttl =>
    obtain ⟨hanswer, hmirrors⟩ := h.put_eq d r ttl
    exact ⟨congrArg MemoryAnswer.done hanswer, hmirrors⟩
  | get d =>
    obtain ⟨hanswer, hmirrors⟩ := h.get_eq d
    exact ⟨congrArg MemoryAnswer.record hanswer, hmirrors⟩
  | delete d => exact ⟨rfl, h.remove d⟩
  | rotate old new expected issuedAt ttl =>
    obtain ⟨hanswer, hmirrors⟩ := h.rotate_eq old new expected issuedAt ttl
    exact ⟨congrArg MemoryAnswer.record hanswer, hmirrors⟩
  | size => exact ⟨congrArg MemoryAnswer.size h.size_eq, h.purged⟩
  | isEmpty => exact ⟨congrArg MemoryAnswer.isEmpty h.isEmpty_eq, h.purged⟩
  | digests => exact ⟨congrArg MemoryAnswer.digests h.digests_eq, h.purged⟩
  | wait span => exact ⟨rfl, h.advance span⟩

end Mirrors

/-- When expired records are dropped makes no difference to any answer. -/
theorem purging_unobservable (clock : Nat) (calls : List MemoryCall) :
    (Run.moments MemoryCall.apply calls (.startingAt clock)).map Moment.answer =
      (Run.moments MemoryCall.applyMap calls (.startingAt clock)).map Moment.answer :=
  (Run.simulates (Mirrors.startingAt clock) fun m _ _ h => h.step m.call).1

end MemoryStore
end Gatehouse
