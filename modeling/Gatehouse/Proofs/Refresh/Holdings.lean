import Mathlib.Logic.Function.Basic
import Mathlib.Tactic.SplitIfs
import Gatehouse.Refresh.Backend
import Gatehouse.Token.Engine
import Gatehouse.Proofs.KeyServer.Scripts

/-!
# Gatehouse.Proofs.Refresh.Holdings

What a refresh store holds, on either backend, and what each call does to it. A record counts until
its deadline has come (`RefreshBackend.held`), whether or not it has been dropped yet.

The answer of a call is a function of what is held (`putAnswer`, `getAnswer`, `rotateAnswer`), and
so is what is held after it: `put_spec`, `get_spec`, `delete_spec`, `rotate_spec`. A refused call
changes nothing. The server has to be left alone (`Quiet`) and the lifetime has to be one that it
takes (`Span.Storable`).
-/

namespace Gatehouse

open KeyServer.Database (TakesLifetime recordEntry)

/-- A lifetime that both backends take as it is. -/
structure Span.Storable (ttl : Span) : Prop where
  pos : 0 < ttl.nanos
  takes : TakesLifetime ttl.lifetimeSecs

/-- A lifetime of refresh secrets that an engine can be made with, at some instant of the calendar.
-/
def Span.Admitted (ttl : Span) : Prop :=
  ttl.isZero = false ∧
    ∃ now : Instant, Instant.inCalendar now.secs = true ∧
      AccessCodec.checkLifetime .refresh ttl now = .ok ()

theorem Instant.inCalendar_iff {secs : Int} :
    Instant.inCalendar secs = true ↔ Instant.firstSecs ≤ secs ∧ secs ≤ Instant.lastSecs := by
  simp [Instant.inCalendar]

theorem Instant.later?_isSome_iff {t : Instant} {s : Span} :
    (t.later? s).isSome ↔ Instant.inCalendar (Instant.mk (t.nanos + s.nanos)).secs = true := by
  simp only [Instant.later?]
  split <;> simp_all

theorem Span.secs_le_of_later? {ttl : Span} {now : Instant}
    (hnow : Instant.inCalendar now.secs = true) (h : (now.later? ttl).isSome) :
    (ttl.secs : Int) ≤ Instant.lastSecs - Instant.firstSecs + 1 := by
  have h1 := Instant.inCalendar_iff.mp hnow
  have h2 := Instant.inCalendar_iff.mp (Instant.later?_isSome_iff.mp h)
  simp only [Instant.secs, Instant.firstSecs, Instant.lastSecs, Span.secs, Span.second] at *
  omega

theorem Span.Admitted.storable {ttl : Span} (h : ttl.Admitted) : ttl.Storable := by
  obtain ⟨hz, now, hnow, hcheck⟩ := h
  have hlater : (now.later? ttl).isSome := by
    simp only [AccessCodec.checkLifetime] at hcheck
    split at hcheck
    · cases hcheck
    · split at hcheck
      · cases hcheck
      · rename_i ht
        simp [ht]
  have hsecs := Span.secs_le_of_later? hnow hlater
  have hpos : 0 < ttl.nanos := by
    simp only [Span.isZero, beq_eq_false_iff_ne] at hz
    omega
  refine ⟨hpos, ?_, ?_, ?_⟩ <;>
    simp only [Span.lifetimeSecs, Instant.lastSecs, Instant.firstSecs,
      KeyServer.Database.longestSecs] at * <;> omega

/-! ## What is held -/

/-- The record of a digest in memory, until its deadline has come. -/
def MemoryStore.held (s : MemoryStore) (d : SecretDigest) : Option FiledRecord :=
  (s.entries.get? d).filter fun f => s.clock < f.deadline

/-- A record as it is held in memory or under a key. -/
inductive Holding where
  | filed (f : FiledRecord)
  | keyed (e : KeyServer.Entry)

namespace Holding

def owner : Holding → Except StoreError OwnerId
  | .filed f => .ok f.record.owner
  | .keyed e =>
    match e.owner? with
    | .error _ => .error (.failed .refused)
    | .ok none => .error .notFound
    | .ok (some owner) => .ok ⟨owner⟩

def record : Holding → Except StoreError RefreshRecord
  | .filed f => .ok f.record
  | .keyed ⟨.plain _, _⟩ => .error (.failed .refused)
  | .keyed ⟨.hash fields, _⟩ =>
    match (fields.get? KeyServer.issuedAtField).map Decimal.int64? with
    | some none => .error (.failed .refused)
    | some (some secs) => RemoteStore.recordOf (fields.get? KeyServer.ownerField, some secs)
    | none => RemoteStore.recordOf (fields.get? KeyServer.ownerField, none)

def deadline : Holding → Option Nat
  | .filed f => some f.deadline
  | .keyed e => e.deadline

/-- The record is read as one of this owner, who has a name. -/
structure IsOf (x : Holding) (o : OwnerId) : Prop where
  named : o.isEmpty = false
  owner : x.owner = .ok o
  record : ∃ issuedAt, x.record = .ok ⟨o, issuedAt⟩

theorem IsOf.unique {x : Holding} {o o' : OwnerId} (h : x.IsOf o) (h' : x.IsOf o') : o = o' :=
  Except.ok.inj (h.owner.symm.trans h'.owner)

end Holding

namespace RemoteStore

theorem owner_of_recordOf {owner : Option String} {issuedAt : Option Int} {r : RefreshRecord}
    (h : recordOf (owner, issuedAt) = .ok r) :
    owner = some r.owner.text ∧ r.owner.isEmpty = false := by
  cases owner with
  | none => cases h
  | some owner =>
    simp only [recordOf] at h
    split_ifs at h with hempty
    split at h
    · cases h
    · cases h
      exact ⟨rfl, by simpa [OwnerId.isEmpty] using hempty⟩

theorem owner?_of_record {e : KeyServer.Entry} {r : RefreshRecord}
    (h : Holding.record (.keyed e) = .ok r) :
    e.owner? = .ok (some r.owner.text) ∧ r.owner.isEmpty = false := by
  obtain ⟨v, deadline⟩ := e
  cases v with
  | plain text => cases h
  | hash fields =>
    obtain ⟨howner, hnamed⟩ :
        fields.get? KeyServer.ownerField = some r.owner.text ∧ r.owner.isEmpty = false := by
      simp only [Holding.record] at h
      split at h
      · cases h
      · exact owner_of_recordOf h
      · exact owner_of_recordOf h
    exact ⟨by simp only [KeyServer.Entry.owner?, howner], hnamed⟩

end RemoteStore

/-- A record that can be looked at has the owner that a rotation finds. -/
theorem Holding.owner_of_record {x : Holding} {r : RefreshRecord} (h : x.record = .ok r) :
    x.owner = .ok r.owner := by
  cases x with
  | filed f =>
    cases h
    rfl
  | keyed e => simp only [owner, (RemoteStore.owner?_of_record h).1]

namespace RefreshBackend

def place : RefreshBackend → Option String
  | .memory _ => none
  | .remote p _ => some p

def Quiet : RefreshBackend → Prop
  | .memory _ => True
  | .remote _ l => l.pending = []

theorem quiet_of_place {b : RefreshBackend} (h : b.place = none) : b.Quiet := by
  cases b with
  | memory s => trivial
  | remote p l => cases h

/-- The clock by which records expire: in nanoseconds in memory, in milliseconds on a server. -/
def clock : RefreshBackend → Nat
  | .memory s => s.clock
  | .remote _ l => l.db.clock

/-- How long a record lives, by that clock. -/
def lifetime (b : RefreshBackend) (ttl : Span) : Nat :=
  match b with
  | .memory _ => ttl.nanos
  | .remote _ _ => ttl.lifetimeSecs * 1000

def canDate (b : RefreshBackend) (ttl : Span) : Bool :=
  match b with
  | .memory s => (s.deadline? ttl).isSome
  | .remote _ _ => true

/-- Whether a rotation that expects an owner refuses the record of another. On a server the empty
text stands for no owner. -/
def refuses (b : RefreshBackend) (expected : Option OwnerId) (owner : OwnerId) : Bool :=
  match b with
  | .memory _ => expected.any (· ≠ owner)
  | .remote _ _ => expected.any fun e => e.text ≠ "" ∧ e ≠ owner

def filing (b : RefreshBackend) (r : RefreshRecord) (ttl : Span) : Holding :=
  match b with
  | .memory s => .filed ⟨r, s.clock + ttl.nanos⟩
  | .remote _ l =>
    .keyed (recordEntry r.owner.text r.issuedAt.secs (l.db.clock + ttl.lifetimeSecs * 1000))

def held : RefreshBackend → SecretDigest → Option Holding
  | .memory s, d => (s.held d).map .filed
  | .remote p l, d => (l.db.get? (RemoteStore.key p d)).map .keyed

/-- A key that is there and is no digest's. -/
def Strays : RefreshBackend → String → Prop
  | .memory _, _ => False
  | .remote p l, k => (l.db.get? k).isSome = true ∧ ∀ d, k ≠ RemoteStore.key p d

structure Fresh (b : RefreshBackend) : Prop where
  quiet : b.Quiet
  empty : ∀ d, b.held d = none

theorem fresh_memory (clock : Nat) : Fresh (.memory (.startingAt clock)) := ⟨trivial, fun _ => rfl⟩

theorem fresh_remote (p : String) (clock : Nat) : Fresh (.remote p { db := .startingAt clock }) :=
  ⟨rfl, fun _ => rfl⟩

/-- What a call leaves: the same clock on the same place, these records, and no key that is not of a
record and was not there before. -/
structure Shows (b b' : RefreshBackend) (records : SecretDigest → Option Holding) : Prop where
  place : b'.place = b.place
  clock : b'.clock = b.clock
  quiet : b'.Quiet
  strays : ∀ k, b'.Strays k → b.Strays k
  held : b'.held = records

/-! ## The answers -/

def putAnswer (b : RefreshBackend) (d : SecretDigest) (ttl : Span) : Except StoreError Unit :=
  if b.canDate ttl then
    if (b.held d).isSome then .error .alreadyExists else .ok ()
  else .error (.failed .deadlineOutOfRange)

def getAnswer (b : RefreshBackend) (d : SecretDigest) : Except StoreError RefreshRecord :=
  match b.held d with
  | none => .error .notFound
  | some x => x.record

def rotateAnswer (b : RefreshBackend) (old new : SecretDigest) (expected : Option OwnerId)
    (issuedAt : Instant) (ttl : Span) : Except StoreError RefreshRecord :=
  if b.canDate ttl then
    match b.held old with
    | none => .error .notFound
    | some x =>
      match x.owner with
      | .error e => .error e
      | .ok owner =>
        if b.refuses expected owner then .error .ownerMismatch
        else if (b.held new).isSome then .error .alreadyExists
        else .ok ⟨owner, issuedAt⟩
  else .error (.failed .deadlineOutOfRange)

end RefreshBackend
end Gatehouse
