import Gatehouse.Proofs.Hash.Digest
import Gatehouse.Proofs.Refresh.Contract

/-!
# Gatehouse.Proofs.KeyServer.Records

What the refresh store leaves on a key server, whatever becomes of its requests. Each key is one
of a digest, and each holds a record with an owner, a second of issue and a deadline that is near
(`Sound`). Every request that the store makes keeps that (`Fits.sound_run`), and so does every
connection, if it answers in time, too late, with another answer or not at all (`Sound.send`).
-/

namespace Gatehouse.KeyServer

open RemoteStore (key)
open Database (TakesLifetime recordEntry)

/-- A record under the key of a digest, that is gone `ttl` seconds from now at the latest. -/
structure Entry.IsRecord (p : String) (ttl clock : Nat) (k : String) (e : Entry) : Prop where
  digest : ∃ d : SecretDigest, d.IsHex ∧ k = key p d
  record : ∃ owner issuedAt deadline, e = recordEntry owner issuedAt deadline ∧ owner ≠ "" ∧
    Instant.inCalendar issuedAt = true ∧ deadline ≤ clock + ttl * 1000

/-- Whatever is there is a record. -/
def Database.Sound (p : String) (ttl : Nat) (db : Database) : Prop :=
  ∀ k e, db.get? k = some e → e.IsRecord p ttl db.clock k

/-- A request of a store whose records live for `ttl` seconds. -/
inductive Request.Fits (p : String) (ttl : Nat) : Request → Prop where
  | put {d : SecretDigest} {owner : String} {issuedAt : Int} (hd : d.IsHex) (howner : owner ≠ "")
      (hissued : Instant.inCalendar issuedAt = true) :
      Fits p ttl (.put (key p d) owner issuedAt ttl)
  | rotate {old new : SecretDigest} {expected : String} {issuedAt : Int} (hnew : new.IsHex)
      (hissued : Instant.inCalendar issuedAt = true) :
      Fits p ttl (.rotate (key p old) (key p new) expected issuedAt ttl)
  | read (k : String) : Fits p ttl (.read k)
  | delete (k : String) : Fits p ttl (.delete k)

def Request.lifetime? : Request → Option Nat
  | .put _ _ _ ttl => some ttl
  | .rotate _ _ _ _ ttl => some ttl
  | _ => none

theorem Request.Fits.lifetime {p : String} {ttl n : Nat} {r : Request} (h : r.Fits p ttl)
    (hn : r.lifetime? = some n) : n = ttl := by
  cases h with
  | put => exact (Option.some.inj hn).symm
  | rotate => exact (Option.some.inj hn).symm
  | read => cases hn
  | delete => cases hn

section

variable {p : String} {ttl : Nat} {db db' : Database}

theorem Entry.IsRecord.later {clock clock' : Nat} {k : String} {e : Entry}
    (h : e.IsRecord p ttl clock k) (hclock : clock ≤ clock') : e.IsRecord p ttl clock' k := by
  obtain ⟨owner, issuedAt, deadline, he, howner, hissued, hdeadline⟩ := h.record
  exact ⟨h.digest, owner, issuedAt, deadline, he, howner, hissued, by omega⟩

theorem isRecord_recordEntry {d : SecretDigest} {owner : String} {issuedAt : Int} {clock : Nat}
    (hd : d.IsHex) (howner : owner ≠ "") (hissued : Instant.inCalendar issuedAt = true) :
    (recordEntry owner issuedAt (clock + ttl * 1000)).IsRecord p ttl clock (key p d) :=
  ⟨⟨d, hd, rfl⟩, owner, issuedAt, _, rfl, howner, hissued, Nat.le_refl _⟩

theorem owner?_recordEntry (owner : String) (issuedAt : Int) (deadline : Nat) :
    (recordEntry owner issuedAt deadline).owner? = .ok (some owner) := by
  simp [Entry.owner?, recordEntry, ownerField, issuedAtField]

namespace Database

theorem sound_startingAt (p : String) (ttl clock : Nat) : Sound p ttl (startingAt clock) := by
  intro k e h
  rw [get?_startingAt] at h
  cases h

theorem Sound.mono (h : Sound p ttl db) (hclock : db.clock ≤ db'.clock)
    (hget : ∀ k e, db'.get? k = some e → db.get? k = some e) : Sound p ttl db' := by
  intro k e he
  exact (h k e (hget k e he)).later hclock

theorem Sound.advance (h : Sound p ttl db) (ms : Nat) : Sound p ttl (db.advance ms) := by
  refine h.mono (Nat.le_add_right _ _) fun k e he => ?_
  rw [get?_advance] at he
  exact (Option.filter_eq_some_iff.mp he).1

theorem Sound.erase (h : Sound p ttl db) (k : String) : Sound p ttl (db.erase k) := by
  refine h.mono (Nat.le_refl _) fun j e he => ?_
  rw [get?_erase] at he
  split at he
  · cases he
  · exact he

theorem Sound.runPut (h : Sound p ttl db) (ht : TakesLifetime ttl) {d : SecretDigest}
    {owner : String} {issuedAt : Int} (hd : d.IsHex) (howner : owner ≠ "")
    (hissued : Instant.inCalendar issuedAt = true) :
    Sound p ttl (db.runPut (key p d) owner issuedAt ttl).2 := by
  cases htaken : db.get? (key p d) with
  | some e =>
    simp only [Database.runPut, htaken]
    exact h
  | none =>
    obtain ⟨db', hrun, hclock, hget⟩ := runPut_absent htaken owner issuedAt ht
    rw [hrun]
    intro k e he
    rw [hget] at he
    rw [hclock]
    split at he
    · rename_i hk
      cases he
      rw [hk]
      exact isRecord_recordEntry hd howner hissued
    · exact h k e he

/-- The record of the new key has the owner of the old one, who has a name. -/
theorem Sound.runRotate (h : Sound p ttl db) (ht : TakesLifetime ttl) {old : String}
    {new : SecretDigest} {expected : String} {issuedAt : Int} (hnew : new.IsHex)
    (hissued : Instant.inCalendar issuedAt = true) :
    Sound p ttl (db.runRotate old (key p new) expected issuedAt ttl).2 := by
  have hfield := field?_owner db old
  cases hold : db.get? old with
  | none =>
    simp only [hold] at hfield
    simp only [Database.runRotate, hfield]
    exact h
  | some e =>
    obtain ⟨owner, since, deadline, rfl, howner, -⟩ := (h old e hold).record
    have hown := owner?_recordEntry owner since deadline
    simp only [hold, hown] at hfield
    by_cases hexp : expected ≠ "" ∧ owner ≠ expected
    · simp only [Database.runRotate, hfield, if_pos hexp]
      exact h
    · cases htaken : db.get? (key p new) with
      | some e' =>
        simp only [Database.runRotate, hfield, if_neg hexp, htaken]
        exact h
      | none =>
        obtain ⟨db', hrun, hclock, hget⟩ := runRotate_moves hold hown hexp htaken issuedAt ht
        rw [hrun]
        intro k e he
        rw [hget] at he
        rw [hclock]
        split at he
        · cases he
        · split at he
          · rename_i hk
            cases he
            rw [hk]
            exact isRecord_recordEntry hnew howner hissued
          · exact h k e he

end Database

open Database

theorem Request.Fits.sound_run {r : Request} (hr : r.Fits p ttl) (ht : TakesLifetime ttl)
    (h : Sound p ttl db) : Sound p ttl (db.run r).2 := by
  cases hr with
  | put hd howner hissued => exact h.runPut ht hd howner hissued
  | rotate hnew hissued => exact h.runRotate ht hnew hissued
  | read k => exact h
  | delete k => exact h.erase k

end

namespace Link

variable {p : String} {ttl : Nat} {l : Link}

/-- The keys on the server are sound, and so were all requests. -/
structure Sound (p : String) (ttl : Nat) (l : Link) : Prop where
  db : l.db.Sound p ttl
  sent : ∀ r ∈ l.sent, r.Fits p ttl

theorem sent_send (l : Link) (r : Request) : (l.send r).2.sent = l.sent ++ [r] := by
  unfold send
  split <;> rfl

/-- A request is executed in full or not at all. -/
theorem db_send (l : Link) (r : Request) :
    (l.send r).2.db = l.db ∨ (l.send r).2.db = (l.db.run r).2 := by
  unfold send
  split
  · exact .inr rfl
  · exact .inr rfl
  · exact .inl rfl
  · exact .inl rfl
  · exact .inr rfl

theorem Sound.send (h : l.Sound p ttl) (ht : TakesLifetime ttl) {r : Request} (hr : r.Fits p ttl) :
    (l.send r).2.Sound p ttl := by
  refine ⟨?_, ?_⟩
  · rcases l.db_send r with hdb | hdb
    · rw [hdb]
      exact h.db
    · rw [hdb]
      exact hr.sound_run ht h.db
  · intro r' hr'
    rw [sent_send, List.mem_append, List.mem_singleton] at hr'
    rcases hr' with hr' | rfl
    · exact h.sent r' hr'
    · exact hr

end Link
end Gatehouse.KeyServer
