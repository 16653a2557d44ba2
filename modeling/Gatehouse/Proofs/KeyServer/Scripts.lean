import Gatehouse.KeyServer.Link

/-!
# Gatehouse.Proofs.KeyServer.Scripts

What the two scripts do to the keys that are there. `Database.get?` is the view: every command is
described by what it answers after it.

* `writeRecord_dated`: a record that is written under a free key is there with its fields and its
  deadline, and nothing else has changed. The scripts write under free keys only, so with a
  lifetime that the server takes they are done in full or not at all.
* `writeRecord_undated`: a lifetime that the server refuses is refused when the fields are there.
* `scriptNumber_of_lt`: a lifetime that fits into fifty-three bits reaches the server as it is.
-/

namespace Gatehouse.KeyServer

theorem scriptNumber_of_lt {n : Nat} (h : n < 0x20000000000000) : scriptNumber n = n := by
  have hlog : n.log2 + 1 - 53 = 0 := by
    rcases Nat.eq_zero_or_pos n with rfl | hn
    · decide
    · have := (Nat.log2_lt (k := 53) (by omega)).mpr h
      omega
  simp only [scriptNumber, hlog]
  simp [Nat.mod_one]

theorem scriptNumber_pos {n : Nat} (h : 0 < n) : 0 < scriptNumber n := by
  obtain ⟨unit, hunit⟩ : ∃ unit, unit = Nat.pow 2 (n.log2 + 1 - 53) := ⟨_, rfl⟩
  have hpos : 0 < unit := hunit ▸ Nat.pow_pos (by decide)
  have hle : unit ≤ n := by
    have hlog : Nat.pow 2 (n.log2 + 1 - 53) ≤ Nat.pow 2 n.log2 :=
      Nat.pow_le_pow_right (by decide) (by omega)
    have hself : Nat.pow 2 n.log2 ≤ n := Nat.log2_self_le (by omega)
    omega
  have hq : 0 < n / unit := Nat.div_pos hle hpos
  simp only [scriptNumber, ← hunit]
  split
  · exact Nat.mul_pos hq hpos
  · split
    · exact Nat.mul_pos (by omega) hpos
    · exact Nat.mul_pos (by omega) hpos

/-- The owner that the rotation script finds under a key. -/
def Entry.owner? (e : Entry) : Except Refusal (Option String) :=
  match e.value with
  | .hash fields => .ok (fields.get? ownerField)
  | .plain _ => .error .wrongType

namespace Database

variable {db : Database} {key k : String}

@[simp] theorem get?_startingAt (clock : Nat) (k : String) : (startingAt clock).get? k = none := rfl

theorem get?_set (db : Database) (key k : String) (e : Entry) :
    (db.set key e).get? k =
      if k = key then (some e).filter (Entry.isLive db.clock) else db.get? k := by
  simp only [get?, set, Table.get?_insert]
  split <;> rfl

@[simp] theorem get?_erase (db : Database) (key k : String) :
    (db.erase key).get? k = if k = key then none else db.get? k := by
  simp only [get?, erase, Table.get?_erase]
  split <;> rfl

theorem get?_advance (db : Database) (ms : Nat) (k : String) :
    (db.advance ms).get? k = (db.get? k).filter (Entry.isLive (db.clock + ms)) := by
  simp only [get?, advance]
  cases h : db.keys.get? k with
  | none => rfl
  | some e =>
    by_cases hlater : Entry.isLive (db.clock + ms) e = true
    · have hnow : Entry.isLive db.clock e = true := by
        revert hlater
        cases hd : e.deadline with
        | none => simp [Entry.isLive, hd]
        | some d => simp [Entry.isLive, hd]; omega
      simp [hlater, hnow, Option.filter]
    · cases hnow : Entry.isLive db.clock e <;> simp [hlater, hnow, Option.filter]

@[simp] theorem clock_set (db : Database) (key : String) (e : Entry) :
    (db.set key e).clock = db.clock := rfl

theorem mem_live_iff {e : Entry} : (k, e) ∈ db.live ↔ db.get? k = some e := by
  rw [live, List.mem_filter, get?, Option.filter_eq_some_iff, Table.get?_eq_some_iff]

/-- What the scripts file under a key. -/
def recordEntry (owner : String) (issuedAt : Int) (deadline : Nat) : Entry where
  value := .hash ((Table.empty.insert ownerField owner).insert issuedAtField (toString issuedAt))
  deadline := some deadline

/-- A lifetime that the server takes as it is. -/
structure TakesLifetime (ttl : Nat) : Prop where
  pos : 0 < ttl
  small : ttl < 0x20000000000000
  short : (ttl : Int) ≤ longestSecs

/-- A key is never refused such a lifetime, whether it is there or not. -/
theorem isOk_expire {ttl : Nat} (ht : TakesLifetime ttl) (db : Database) (key : String) :
    (db.expire key (scriptNumber ttl)).isOk = true := by
  have hshort := ht.short
  rw [scriptNumber_of_lt ht.small, expire, if_neg (by omega)]
  cases db.get? key with
  | none => rfl
  | some e =>
    dsimp only
    split <;> rfl

def undatedEntry (owner : String) (issuedAt : Int) : Entry :=
  { recordEntry owner issuedAt 0 with deadline := none }

theorem setFields_absent (h : db.get? key = none) (owner : String) (issuedAt : Int) :
    db.setFields key [(ownerField, owner), (issuedAtField, toString issuedAt)] =
      .ok (db.set key (undatedEntry owner issuedAt)) := by
  simp only [setFields, hash?, h]
  rfl

theorem get?_set_undated (db : Database) (key : String) (owner : String) (issuedAt : Int)
    (k : String) :
    (db.set key (undatedEntry owner issuedAt)).get? k =
      if k = key then some (undatedEntry owner issuedAt) else db.get? k := by
  rw [get?_set]
  rfl

section Lifetime

variable {ttl : Nat}

theorem writeRecord_undated (h : db.get? key = none) (owner : String) (issuedAt : Int)
    (hlong : longestSecs < scriptNumber ttl) :
    db.writeRecord key owner issuedAt ttl =
      (.error .expiryOutOfRange, db.set key (undatedEntry owner issuedAt)) := by
  simp only [writeRecord, setFields_absent h, expire, if_pos hlong]

theorem writeRecord_dated (h : db.get? key = none) (owner : String) (issuedAt : Int)
    (hpos : 0 < ttl) (hshort : (scriptNumber ttl : Int) ≤ longestSecs) :
    ∃ db', db.writeRecord key owner issuedAt ttl = (.ok (), db') ∧ db'.clock = db.clock ∧
      ∀ k, db'.get? k =
        if k = key then some (recordEntry owner issuedAt (db.clock + scriptNumber ttl * 1000))
        else db.get? k := by
  have hsecs := scriptNumber_pos hpos
  let db₁ := db.set key (undatedEntry owner issuedAt)
  have hget : db₁.get? key = some (undatedEntry owner issuedAt) := by
    rw [get?_set_undated, if_pos rfl]
  let db₂ := db₁.set key (recordEntry owner issuedAt (db.clock + scriptNumber ttl * 1000))
  have hexpire : db₁.expire key (scriptNumber ttl) = .ok db₂ := by
    simp only [expire, hget]
    rw [if_neg (by omega), if_neg (by omega)]
    rfl
  refine ⟨db₂, ?_, rfl, fun k => ?_⟩
  · simp only [writeRecord, setFields_absent h, db₁, hexpire]
  · simp only [db₂, db₁, get?_set, clock_set]
    by_cases hk : k = key
    · have hlive : Entry.isLive db.clock
          (recordEntry owner issuedAt (db.clock + scriptNumber ttl * 1000)) := by
        simp only [Entry.isLive, recordEntry, Option.all_some, decide_eq_true_eq]
        omega
      simp [hk, hlive]
    · simp [hk]

end Lifetime

theorem field?_owner (db : Database) (key : String) :
    db.field? key ownerField =
      match db.get? key with
      | none => .ok none
      | some e => e.owner? := by
  unfold field? hash?
  cases h : db.get? key with
  | none => rfl
  | some e =>
    obtain ⟨v, deadline⟩ := e
    cases v <;> rfl

section Scripts

variable {owner : String} {issuedAt : Int} {ttl : Nat}

theorem runPut_dated (h : db.get? key = none) (owner : String) (issuedAt : Int)
    (hpos : 0 < ttl) (hshort : (scriptNumber ttl : Int) ≤ longestSecs) :
    ∃ db', db.runPut key owner issuedAt ttl = (.int 1, db') ∧ db'.clock = db.clock ∧
      ∀ k, db'.get? k =
        if k = key then some (recordEntry owner issuedAt (db.clock + scriptNumber ttl * 1000))
        else db.get? k := by
  obtain ⟨db', hwrite, hclock, hget⟩ := writeRecord_dated h owner issuedAt hpos hshort
  exact ⟨db', by simp [runPut, h, hwrite], hclock, hget⟩

theorem runPut_undated (h : db.get? key = none) (owner : String) (issuedAt : Int)
    (hlong : longestSecs < scriptNumber ttl) :
    db.runPut key owner issuedAt ttl =
      (.error "script refused", db.set key (undatedEntry owner issuedAt)) := by
  simp [runPut, h, writeRecord_undated h owner issuedAt hlong]

theorem runPut_absent (h : db.get? key = none) (owner : String) (issuedAt : Int)
    (ht : TakesLifetime ttl) :
    ∃ db', db.runPut key owner issuedAt ttl = (.int 1, db') ∧ db'.clock = db.clock ∧
      ∀ k, db'.get? k =
        if k = key then some (recordEntry owner issuedAt (db.clock + ttl * 1000))
        else db.get? k := by
  have hsecs := scriptNumber_of_lt ht.small
  have hrun := runPut_dated h owner issuedAt ht.pos (by rw [hsecs]; exact ht.short)
  rwa [hsecs] at hrun

section Rotate

variable {old new expected : String} {e : Entry} (ho : db.get? old = some e)
  (hown : e.owner? = .ok (some owner)) (hexp : ¬ (expected ≠ "" ∧ owner ≠ expected))
  (hn : db.get? new = none)
include ho hown hexp hn

/-- The rotation script on a record whose owner it does not refuse, if the new key is free. -/
theorem runRotate_dated (issuedAt : Int) (hpos : 0 < ttl)
    (hshort : (scriptNumber ttl : Int) ≤ longestSecs) :
    ∃ db', db.runRotate old new expected issuedAt ttl = (.array [.int 1, .bulk owner], db') ∧
      db'.clock = db.clock ∧
      ∀ k, db'.get? k =
        if k = old then none
        else if k = new then
          some (recordEntry owner issuedAt (db.clock + scriptNumber ttl * 1000))
        else db.get? k := by
  obtain ⟨db', hwrite, hclock, hget⟩ := writeRecord_dated hn owner issuedAt hpos hshort
  refine ⟨db'.erase old, ?_, hclock, fun k => ?_⟩
  · simp only [runRotate, field?_owner, ho, hown, hn, hwrite, if_neg hexp]
    rfl
  · rw [get?_erase, hget]

theorem runRotate_undated (issuedAt : Int) (hlong : longestSecs < scriptNumber ttl) :
    db.runRotate old new expected issuedAt ttl =
      (.error "script refused", db.set new (undatedEntry owner issuedAt)) := by
  have hwrite := writeRecord_undated hn owner issuedAt hlong
  simp only [runRotate, field?_owner, ho, hown, hn, hwrite, if_neg hexp]
  rfl

theorem runRotate_moves (issuedAt : Int) (ht : TakesLifetime ttl) :
    ∃ db', db.runRotate old new expected issuedAt ttl = (.array [.int 1, .bulk owner], db') ∧
      db'.clock = db.clock ∧
      ∀ k, db'.get? k =
        if k = old then none
        else if k = new then some (recordEntry owner issuedAt (db.clock + ttl * 1000))
        else db.get? k := by
  have hsecs := scriptNumber_of_lt ht.small
  have hrun := runRotate_dated ho hown hexp hn issuedAt ht.pos (by rw [hsecs]; exact ht.short)
  rwa [hsecs] at hrun

end Rotate

end Scripts

end Database
end Gatehouse.KeyServer
