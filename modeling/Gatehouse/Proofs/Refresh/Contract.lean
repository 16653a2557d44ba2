import Mathlib.Tactic.SplitIfs
import Gatehouse.Proofs.Refresh.Holdings
import Gatehouse.Proofs.Text.Decimal

/-!
# Gatehouse.Proofs.Refresh.Contract

Every call of a refresh store, on either backend, in terms of what is held: its answer, and the
records after it. A refused call changes nothing, a rotation moves a record in one step.

* `put_spec`, `get_spec`, `delete_spec`, `rotate_spec`: one lemma for each call.
* `advance_spec`: time takes away what has come to its deadline, and nothing else.
-/

namespace Gatehouse

open KeyServer (Link Reply)
open KeyServer.Database (recordEntry)

/-! ## In memory -/

namespace MemoryStore

variable {s : MemoryStore}

@[simp] theorem get?_purged (s : MemoryStore) (d : SecretDigest) :
    s.purged.entries.get? d = s.held d := by
  simp only [purged, Table.get?_filter, held]

@[simp] theorem clock_purged (s : MemoryStore) : s.purged.clock = s.clock := rfl

theorem clock_lt_of_held {d : SecretDigest} {f : FiledRecord} (h : s.held d = some f) :
    s.clock < f.deadline := by
  simpa using (Option.filter_eq_some_iff.mp h).2

@[simp] theorem held_purged (s : MemoryStore) : s.purged.held = s.held := by
  funext d
  rw [held, get?_purged]
  cases h : s.held d with
  | none => rfl
  | some f =>
    have := clock_lt_of_held h
    simp [Option.filter, this]

theorem held_file (s : MemoryStore) (d : SecretDigest) (r : RefreshRecord) {deadline : Nat}
    (h : s.clock < deadline) :
    (s.file d r deadline).held = Function.update s.held d (some ⟨r, deadline⟩) := by
  funext e
  change ((s.entries.insert d ⟨r, deadline⟩).get? e).filter (fun f => s.clock < f.deadline) = _
  by_cases he : e = d
  · simp [he, h, Option.filter]
  · simp [he, held]

theorem held_remove (s : MemoryStore) (d : SecretDigest) :
    (s.remove d).held = Function.update s.held d none := by
  funext e
  change ((s.entries.erase d).get? e).filter (fun f => s.clock < f.deadline) = _
  by_cases he : e = d
  · simp [he]
  · simp [he, held]

theorem held_advance (s : MemoryStore) (span : Span) (d : SecretDigest) :
    (s.advance span).held d = (s.held d).filter fun f => s.clock + span.nanos < f.deadline := by
  simp only [held, advance]
  cases s.entries.get? d with
  | none => rfl
  | some f =>
    by_cases hlater : s.clock + span.nanos < f.deadline
    · have hnow : s.clock < f.deadline := by omega
      simp [hlater, hnow, Option.filter]
    · by_cases hnow : s.clock < f.deadline <;> simp [hlater, hnow, Option.filter]

theorem deadline?_eq_some {ttl : Span} {deadline : Nat} (h : s.deadline? ttl = some deadline) :
    deadline = s.clock + ttl.nanos := by
  simp only [deadline?] at h
  split at h
  · exact (Option.some.inj h).symm
  · cases h

end MemoryStore

/-! ## On a server -/

namespace RemoteStore

theorem key_injective (p : String) {d e : SecretDigest} (h : key p d = key p e) : d = e := by
  obtain ⟨d⟩ := d
  obtain ⟨e⟩ := e
  simpa [key] using h

theorem ask_quiet {α : Type} (read : Reply → Option α) (r : KeyServer.Request) {l : Link}
    (h : l.pending = []) :
    ask read r l =
      ((read (l.db.run r).1).elim (.error (.failed .refused)) .ok,
        { l with db := (l.db.run r).2, sent := l.sent ++ [r] }) := by
  unfold ask KeyServer.Link.send
  simp only [h]
  cases read (l.db.run r).1 <;> rfl

theorem get_quiet (p : String) (d : SecretDigest) {l : Link} (h : l.pending = []) :
    get p d l =
      ((Reply.pair? (Reply.optional? Reply.text?) (Reply.optional? Reply.int?)
          (l.db.runRead (key p d))).elim (.error (.failed .refused)) recordOf,
        { l with sent := l.sent ++ [.read (key p d)] }) := by
  simp only [get, ask_quiet _ _ h, KeyServer.Database.run]
  cases Reply.pair? (Reply.optional? Reply.text?) (Reply.optional? Reply.int?)
    (l.db.runRead (key p d)) <;> rfl

def readRotated (issuedAt : Instant) (reply : Reply) : Except StoreError RefreshRecord :=
  match Reply.pair? Reply.int? Reply.text? reply with
  | none => .error (.failed .refused)
  | some (1, owner) => .ok ⟨⟨owner⟩, issuedAt⟩
  | some (-1, _) => .error .notFound
  | some (-2, _) => .error .ownerMismatch
  | some (-3, _) => .error .alreadyExists
  | some (status, _) => .error (.failed (.rotateStatus status))

theorem rotate_quiet {p : String} {old new : SecretDigest} {expected : Option OwnerId}
    {issuedAt : Instant} {ttl : Span} {l : Link} (h : l.pending = []) {reply : Reply}
    {db : KeyServer.Database}
    (hrun : l.db.runRotate (key p old) (key p new) ((expected.map OwnerId.text).getD "")
      issuedAt.secs ttl.lifetimeSecs = (reply, db)) :
    rotate p old new expected issuedAt ttl l =
      (readRotated issuedAt reply, { l with
        db := db
        sent := l.sent ++ [.rotate (key p old) (key p new) ((expected.map OwnerId.text).getD "")
          issuedAt.secs ttl.lifetimeSecs] }) := by
  simp only [rotate, ask_quiet _ _ h, KeyServer.Database.run, readRotated, hrun]
  cases Reply.pair? Reply.int? Reply.text? reply with
  | none => rfl
  | some a =>
    obtain ⟨status, owner⟩ := a
    simp only [Option.elim]
    split <;> rename_i heq <;> cases heq
    · rfl
    · rfl
    · rfl
    · rfl
    · split <;> simp_all

theorem key_inj {p : String} {d e : SecretDigest} : key p d = key p e ↔ d = e :=
  ⟨key_injective p, fun h => h ▸ rfl⟩

end RemoteStore

/-! ## On either backend -/

namespace RefreshBackend

variable {b b' : RefreshBackend} {records : SecretDigest → Option Holding} {ttl : Span}

theorem Shows.refl (h : b.Quiet) : b.Shows b b.held := ⟨rfl, rfl, h, fun _ => id, rfl⟩

theorem Shows.trans {b₁ b₂ : RefreshBackend} {records₁ : SecretDigest → Option Holding}
    (h₁ : b.Shows b₁ records₁) (h₂ : b₁.Shows b₂ records) : b.Shows b₂ records :=
  ⟨h₂.place.trans h₁.place, h₂.clock.trans h₁.clock, h₂.quiet,
    fun k h => h₁.strays k (h₂.strays k h), h₂.held⟩

theorem Shows.canDate (h : b.Shows b' records) (ttl : Span) : b'.canDate ttl = b.canDate ttl := by
  have hplace := h.place
  have hclock := h.clock
  cases b <;> cases b' <;>
    simp_all [RefreshBackend.place, RefreshBackend.clock, RefreshBackend.canDate,
      MemoryStore.deadline?]

theorem Shows.filing (h : b.Shows b' records) (r : RefreshRecord) (ttl : Span) :
    b'.filing r ttl = b.filing r ttl := by
  have hplace := h.place
  have hclock := h.clock
  cases b <;> cases b' <;>
    simp_all [RefreshBackend.place, RefreshBackend.clock, RefreshBackend.filing]

theorem Shows.refuses (h : b.Shows b' records) (expected : Option OwnerId) (owner : OwnerId) :
    b'.refuses expected owner = b.refuses expected owner := by
  have hplace := h.place
  cases b <;> cases b' <;> simp_all [RefreshBackend.place, RefreshBackend.refuses]

theorem Shows.rotateAnswer (h : b.Shows b' b.held) (old new : SecretDigest)
    (expected : Option OwnerId) (issuedAt : Instant) (ttl : Span) :
    b'.rotateAnswer old new expected issuedAt ttl =
      b.rotateAnswer old new expected issuedAt ttl := by
  simp only [RefreshBackend.rotateAnswer, h.canDate, h.held, h.refuses]

theorem held_memory (s : MemoryStore) :
    (RefreshBackend.memory s).held = Option.map Holding.filed ∘ s.held := rfl

theorem shows_memory (s s' : MemoryStore) {files : SecretDigest → Option FiledRecord}
    (hclock : s'.clock = s.clock) (hheld : s'.held = files) :
    (RefreshBackend.memory s).Shows (.memory s') (Option.map Holding.filed ∘ files) :=
  ⟨rfl, hclock, trivial, fun _ => id, by rw [held_memory, hheld]⟩

/-- A store on a server whose keys have changed in the same way as these records. -/
theorem shows_remote {p : String} {l l' : Link} (hclock : l'.db.clock = l.db.clock)
    (hq : l'.pending = [])
    (hothers : ∀ k, (∀ d, k ≠ RemoteStore.key p d) → l'.db.get? k = l.db.get? k)
    (hheld : ∀ d, (l'.db.get? (RemoteStore.key p d)).map Holding.keyed = records d) :
    (RefreshBackend.remote p l).Shows (.remote p l') records :=
  ⟨rfl, hclock, hq, fun k ⟨hk, hd⟩ => ⟨hothers k hd ▸ hk, hd⟩, funext hheld⟩

/-- What a put leaves is what its answer says. -/
def filed (b : RefreshBackend) (d : SecretDigest) (r : RefreshRecord) (ttl : Span) :
    Except StoreError Unit → SecretDigest → Option Holding
  | .ok _ => Function.update b.held d (some (b.filing r ttl))
  | .error _ => b.held

theorem put_spec (hq : b.Quiet) (ht : ttl.Storable) (d : SecretDigest) (r : RefreshRecord) :
    (b.put d r ttl).1 = b.putAnswer d ttl ∧
      b.Shows (b.put d r ttl).2 (b.filed d r ttl (b.putAnswer d ttl)) := by
  cases b with
  | memory s =>
    cases hdate : s.deadline? ttl with
    | none =>
      simp only [put, inMemory, MemoryStore.put, putAnswer, canDate, hdate]
      exact ⟨rfl, Shows.refl hq⟩
    | some deadline =>
      obtain rfl := MemoryStore.deadline?_eq_some hdate
      have hlt : s.purged.clock < s.clock + ttl.nanos := by
        have := ht.pos
        simp only [MemoryStore.clock_purged]
        omega
      cases hd : s.held d with
      | none =>
        simp only [put, inMemory, MemoryStore.put, putAnswer, canDate, hdate, held, hd,
          Table.contains, MemoryStore.get?_purged]
        refine ⟨rfl, ?_⟩
        have := shows_memory s (s.purged.file d r (s.clock + ttl.nanos)) rfl
          (by rw [MemoryStore.held_file _ _ _ hlt, MemoryStore.held_purged])
        rw [Function.comp_update] at this
        exact this
      | some f =>
        simp only [put, inMemory, MemoryStore.put, putAnswer, canDate, hdate, held, hd,
          Table.contains, MemoryStore.get?_purged]
        exact ⟨rfl, shows_memory s s.purged rfl (MemoryStore.held_purged s)⟩
  | remote p l =>
    cases hd : l.db.get? (RemoteStore.key p d) with
    | none =>
      obtain ⟨db, hrun, hclock, hget⟩ := KeyServer.Database.runPut_absent hd r.owner.text
        r.issuedAt.secs ht.takes
      have hanswer : (remote p l).putAnswer d ttl = .ok () := by
        simp [putAnswer, canDate, held, hd]
      rw [hanswer]
      simp only [put, onServer, RemoteStore.put, RemoteStore.ask_quiet _ _ hq,
        KeyServer.Database.run, hrun, Reply.int?, Option.elim]
      refine ⟨trivial, shows_remote hclock hq (fun k hk => by rw [hget, if_neg (hk d)]) fun e => ?_⟩
      simp only [hget, filed, Function.update_apply, RemoteStore.key_inj]
      split_ifs <;> rfl
    | some e =>
      simp only [put, onServer, RemoteStore.put, RemoteStore.ask_quiet _ _ hq,
        KeyServer.Database.run, KeyServer.Database.runPut, hd, Reply.int?, Option.elim, putAnswer,
        canDate, held]
      exact ⟨rfl, shows_remote rfl hq (fun _ _ => rfl) fun _ => rfl⟩

theorem get_spec (hq : b.Quiet) (d : SecretDigest) :
    (b.get d).1 = b.getAnswer d ∧ b.Shows (b.get d).2 b.held := by
  cases b with
  | memory s =>
    refine ⟨?_, ?_⟩
    · cases hd : s.held d <;> simp [get, inMemory, MemoryStore.get, getAnswer, held, hd]
      rfl
    · cases hd : s.held d <;>
        simp only [get, inMemory, MemoryStore.get, MemoryStore.get?_purged, hd]
      · exact shows_memory s s.purged rfl (MemoryStore.held_purged s)
      · exact shows_memory s s.purged rfl (MemoryStore.held_purged s)
  | remote p l =>
    simp only [get, onServer, RemoteStore.get_quiet p d hq, getAnswer, held]
    refine ⟨?_, shows_remote rfl hq (fun _ _ => rfl) fun _ => rfl⟩
    simp only [KeyServer.Database.runRead, KeyServer.Database.hash?]
    cases hd : l.db.get? (RemoteStore.key p d) with
    | none => rfl
    | some e =>
      obtain ⟨v, deadline⟩ := e
      cases v with
      | plain t => rfl
      | hash fields =>
        cases ho : fields.get? KeyServer.ownerField <;>
          cases hi : fields.get? KeyServer.issuedAtField with
          | none => simp [Reply.pair?, Reply.optional?, Reply.text?, Holding.record, ho, hi]
          | some t =>
            cases hn : Decimal.int64? t <;>
              simp [Reply.pair?, Reply.optional?, Reply.text?, Reply.int?, Holding.record, ho, hi,
                hn]

theorem delete_spec (hq : b.Quiet) (d : SecretDigest) :
    (b.delete d).1 = .ok () ∧ b.Shows (b.delete d).2 (Function.update b.held d none) := by
  cases b with
  | memory s =>
    refine ⟨rfl, ?_⟩
    have := shows_memory s (s.remove d) rfl (MemoryStore.held_remove s d)
    rw [Function.comp_update] at this
    exact this
  | remote p l =>
    have hcall : RemoteStore.delete p d l =
        (.ok (), { l with
          db := l.db.erase (RemoteStore.key p d)
          sent := l.sent ++ [.delete (RemoteStore.key p d)] }) := by
      rw [RemoteStore.delete, RemoteStore.ask_quiet _ _ hq]
      rfl
    simp only [delete, onServer, hcall]
    refine ⟨trivial, shows_remote rfl hq (fun k hk => by simp [hk d]) fun e => ?_⟩
    by_cases he : e = d
    · simp [he]
    · simp [he, RemoteStore.key_inj, held]

/-! ## Rotations -/

section Rotate

variable {old new : SecretDigest} {expected : Option OwnerId} {issuedAt : Instant} {x : Holding}

theorem rotateAnswer_undated (h : b.canDate ttl = false) :
    b.rotateAnswer old new expected issuedAt ttl = .error (.failed .deadlineOutOfRange) := by
  simp [rotateAnswer, h]

theorem rotateAnswer_absent (h : b.canDate ttl = true) (ho : b.held old = none) :
    b.rotateAnswer old new expected issuedAt ttl = .error .notFound := by
  simp [rotateAnswer, h, ho]

theorem rotateAnswer_unreadable (h : b.canDate ttl = true) (ho : b.held old = some x)
    {e : StoreError} (hx : x.owner = .error e) :
    b.rotateAnswer old new expected issuedAt ttl = .error e := by
  simp [rotateAnswer, h, ho, hx]

theorem rotateAnswer_held (h : b.canDate ttl = true) (ho : b.held old = some x) {owner : OwnerId}
    (hx : x.owner = .ok owner) :
    b.rotateAnswer old new expected issuedAt ttl =
      if b.refuses expected owner then .error .ownerMismatch
      else if (b.held new).isSome then .error .alreadyExists
      else .ok ⟨owner, issuedAt⟩ := by
  simp [rotateAnswer, h, ho, hx]

theorem rotateAnswer_eq_ok {r : RefreshRecord}
    (h : b.rotateAnswer old new expected issuedAt ttl = .ok r) :
    b.canDate ttl = true ∧ (∃ x, b.held old = some x ∧ x.owner = .ok r.owner ∧
      b.refuses expected r.owner = false) ∧ b.held new = none ∧ r.issuedAt = issuedAt := by
  unfold rotateAnswer at h
  split at h
  · rename_i hc
    cases ho : b.held old with
    | none => simp [ho] at h
    | some x =>
      cases hx : x.owner with
      | error e => simp [ho, hx] at h
      | ok owner =>
        simp only [ho, hx] at h
        split_ifs at h with hr hn
        cases h
        exact ⟨hc, ⟨x, rfl, hx, by simpa using hr⟩, by simpa using hn, rfl⟩
  · cases h

section Memory

variable {s : MemoryStore}

theorem rotate_refusal_memory {e : StoreError}
    (h : (memory s).rotateAnswer old new expected issuedAt ttl = .error e) :
    ∃ s', (memory s).rotate old new expected issuedAt ttl = (.error e, .memory s') ∧
      s'.clock = s.clock ∧ s'.held = s.held := by
  cases hdate : s.deadline? ttl with
  | none =>
    rw [rotateAnswer_undated (by simp [canDate, hdate])] at h
    cases h
    refine ⟨s, ?_, rfl, rfl⟩
    simp only [rotate, inMemory, MemoryStore.rotate, hdate]
  | some deadline =>
    have hc : (memory s).canDate ttl = true := by simp [canDate, hdate]
    refine ⟨s.purged, ?_, rfl, MemoryStore.held_purged s⟩
    cases ho : s.held old with
    | none =>
      rw [rotateAnswer_absent hc (by simp [held, ho])] at h
      cases h
      simp only [rotate, inMemory, MemoryStore.rotate, hdate, MemoryStore.get?_purged, ho]
    | some f =>
      rw [rotateAnswer_held hc (x := .filed f) (by simp [held, ho]) rfl] at h
      simp only [rotate, inMemory, MemoryStore.rotate, hdate, MemoryStore.get?_purged, ho,
        Table.contains]
      simp only [refuses, held, Option.isSome_map] at h
      split_ifs at h ⊢ with hr hn
      · cases h
        rfl
      · cases h
        rfl

theorem rotate_move_memory {r : RefreshRecord}
    (h : (memory s).rotateAnswer old new expected issuedAt ttl = .ok r) :
    (memory s).rotate old new expected issuedAt ttl =
      (.ok r, .memory ((s.purged.file new r (s.clock + ttl.nanos)).remove old)) := by
  obtain ⟨hc, ⟨x, hold, hx, hr⟩, hn, rfl⟩ := rotateAnswer_eq_ok h
  obtain ⟨f, hf, rfl⟩ := Option.map_eq_some_iff.mp hold
  have howner : f.record.owner = r.owner := Except.ok.inj hx
  have hfree : s.held new = none := by simpa [held] using hn
  obtain ⟨deadline, hdate⟩ := Option.isSome_iff_exists.mp hc
  obtain rfl := MemoryStore.deadline?_eq_some hdate
  simp only [refuses] at hr
  simp only [rotate, inMemory, MemoryStore.rotate, hdate, MemoryStore.get?_purged, hf, howner, hr,
    Table.contains, hfree, Option.isSome_none, Bool.false_eq_true, if_false]

end Memory

section Remote

variable {p : String} {l : Link}

theorem refuses_remote (owner : String) :
    (remote p l).refuses expected ⟨owner⟩ = true ↔
      (expected.map OwnerId.text).getD "" ≠ "" ∧
        owner ≠ (expected.map OwnerId.text).getD "" := by
  cases expected with
  | none => simp [refuses]
  | some o =>
    obtain ⟨o⟩ := o
    simp only [refuses, Option.any_some, Option.map_some, Option.getD_some, ne_eq,
      OwnerId.mk.injEq, decide_eq_true_eq, eq_comm (a := o)]

/-- The rotation script does nothing if it refuses. -/
theorem runRotate_refused {e : StoreError} (secs : Nat)
    (h : (remote p l).rotateAnswer old new expected issuedAt ttl = .error e) :
    ∃ reply, l.db.runRotate (RemoteStore.key p old) (RemoteStore.key p new)
        ((expected.map OwnerId.text).getD "") issuedAt.secs secs = (reply, l.db) ∧
      RemoteStore.readRotated issuedAt reply = .error e := by
  have hfield := KeyServer.Database.field?_owner l.db (RemoteStore.key p old)
  cases ho : l.db.get? (RemoteStore.key p old) with
  | none =>
    rw [rotateAnswer_absent rfl (by simp [held, ho])] at h
    cases h
    simp only [ho] at hfield
    refine ⟨.array [.int (-1), .bulk ""], ?_, rfl⟩
    rw [KeyServer.Database.runRotate, hfield]
  | some x =>
    have hold : (remote p l).held old = some (.keyed x) := by simp [held, ho]
    simp only [ho] at hfield
    cases hown : x.owner? with
    | error r =>
      have hx : (Holding.keyed x).owner = .error (.failed .refused) := by
        simp only [Holding.owner, hown]
      rw [rotateAnswer_unreadable rfl hold hx] at h
      cases h
      refine ⟨.error "wrong type", ?_, rfl⟩
      simp only [KeyServer.Database.runRotate, hfield, hown]
    | ok owner? =>
      cases owner? with
      | none =>
        have hx : (Holding.keyed x).owner = .error .notFound := by
          simp only [Holding.owner, hown]
        rw [rotateAnswer_unreadable rfl hold hx] at h
        cases h
        refine ⟨.array [.int (-1), .bulk ""], ?_, rfl⟩
        simp only [KeyServer.Database.runRotate, hfield, hown]
      | some owner =>
        have howner : (Holding.keyed x).owner = .ok ⟨owner⟩ := by simp only [Holding.owner, hown]
        rw [rotateAnswer_held rfl hold howner] at h
        split_ifs at h with hr hn
        · cases h
          have hexp := (refuses_remote owner).mp hr
          refine ⟨.array [.int (-2), .bulk ""], ?_, rfl⟩
          simp only [KeyServer.Database.runRotate, hfield, hown]
          rw [if_pos hexp]
        · cases h
          have hexp := mt (refuses_remote owner).mpr hr
          have htaken : (l.db.get? (RemoteStore.key p new)).isSome = true := by
            simpa [held] using hn
          refine ⟨.array [.int (-3), .bulk ""], ?_, rfl⟩
          simp only [KeyServer.Database.runRotate, hfield, hown]
          rw [if_neg hexp, if_pos htaken]

theorem runRotate_allowed {r : RefreshRecord}
    (h : (remote p l).rotateAnswer old new expected issuedAt ttl = .ok r) :
    ∃ e, l.db.get? (RemoteStore.key p old) = some e ∧ e.owner? = .ok (some r.owner.text) ∧
      ¬ ((expected.map OwnerId.text).getD "" ≠ "" ∧
        r.owner.text ≠ (expected.map OwnerId.text).getD "") ∧
      l.db.get? (RemoteStore.key p new) = none ∧ r.issuedAt = issuedAt := by
  obtain ⟨-, ⟨x, hold, hx, hr⟩, hn, hissued⟩ := rotateAnswer_eq_ok h
  obtain ⟨e, he, rfl⟩ := Option.map_eq_some_iff.mp hold
  have hexp : ¬ ((expected.map OwnerId.text).getD "" ≠ "" ∧
      r.owner.text ≠ (expected.map OwnerId.text).getD "") := by
    rw [← refuses_remote (p := p) (l := l), hr]
    exact Bool.false_ne_true
  have hown : e.owner? = .ok (some r.owner.text) := by
    simp only [Holding.owner] at hx
    split at hx
    · cases hx
    · cases hx
    · rename_i owner howner
      rw [howner, ← Except.ok.inj hx]
  exact ⟨e, he, hown, hexp, by simpa [held] using hn, hissued⟩

theorem rotate_of_run (hq : l.pending = []) {reply : Reply} {db : KeyServer.Database}
    (hrun : l.db.runRotate (RemoteStore.key p old) (RemoteStore.key p new)
      ((expected.map OwnerId.text).getD "") issuedAt.secs ttl.lifetimeSecs = (reply, db)) :
    ∃ l', (remote p l).rotate old new expected issuedAt ttl =
      (RemoteStore.readRotated issuedAt reply, .remote p l') ∧ l'.db = db ∧ l'.pending = [] := by
  have h := RemoteStore.rotate_quiet hq hrun
  refine ⟨(RemoteStore.rotate p old new expected issuedAt ttl l).2, ?_, ?_, ?_⟩
  · rw [rotate, onServer, h]
  · rw [h]
  · rw [h]
    exact hq

end Remote

/-- A refusal changes nothing, whatever the lifetime is. -/
theorem rotate_refusal (hq : b.Quiet) {e : StoreError}
    (h : b.rotateAnswer old new expected issuedAt ttl = .error e) :
    (b.rotate old new expected issuedAt ttl).1 = .error e ∧
      b.Shows (b.rotate old new expected issuedAt ttl).2 b.held := by
  cases b with
  | memory s =>
    obtain ⟨s', hcall, hclock, hheld⟩ := rotate_refusal_memory h
    rw [hcall]
    exact ⟨rfl, shows_memory s s' hclock hheld⟩
  | remote p l =>
    obtain ⟨reply, hrun, hread⟩ := runRotate_refused ttl.lifetimeSecs h
    obtain ⟨l', hcall, hdb, hq'⟩ := rotate_of_run hq hrun
    rw [hcall, hread]
    exact ⟨rfl, shows_remote (by rw [hdb]) hq' (fun k _ => by rw [hdb]) fun d => by rw [hdb]; rfl⟩

theorem rotate_move (hq : b.Quiet) (ht : ttl.Storable) {r : RefreshRecord}
    (h : b.rotateAnswer old new expected issuedAt ttl = .ok r) :
    (b.rotate old new expected issuedAt ttl).1 = .ok r ∧
      b.Shows (b.rotate old new expected issuedAt ttl).2
        (Function.update (Function.update b.held new (some (b.filing r ttl))) old none) := by
  cases b with
  | memory s =>
    have hlt : s.purged.clock < s.clock + ttl.nanos := by
      have := ht.pos
      simp only [MemoryStore.clock_purged]
      omega
    have hshows := shows_memory s ((s.purged.file new r (s.clock + ttl.nanos)).remove old) rfl
      (by rw [MemoryStore.held_remove, MemoryStore.held_file _ _ _ hlt, MemoryStore.held_purged])
    rw [Function.comp_update, Function.comp_update] at hshows
    rw [rotate_move_memory h]
    exact ⟨rfl, hshows⟩
  | remote p l =>
    obtain ⟨e, ho, hown, hexp, hn, rfl⟩ := runRotate_allowed h
    obtain ⟨db, hmoves, hclock, hget⟩ := KeyServer.Database.runRotate_moves ho hown hexp hn
      r.issuedAt.secs ht.takes
    obtain ⟨l', hcall, hdb, hq'⟩ := rotate_of_run hq hmoves
    rw [hcall]
    refine ⟨rfl, shows_remote (by rw [hdb, hclock]) hq'
      (fun k hk => by rw [hdb, hget, if_neg (hk old), if_neg (hk new)]) fun d => ?_⟩
    simp only [hdb, hget, Function.update_apply, RemoteStore.key_inj]
    split_ifs <;> rfl

/-- What a rotation leaves is what its answer says. -/
def rotated (b : RefreshBackend) (old new : SecretDigest) (ttl : Span) :
    Except StoreError RefreshRecord → SecretDigest → Option Holding
  | .ok r => Function.update (Function.update b.held new (some (b.filing r ttl))) old none
  | .error _ => b.held

theorem rotate_spec (hq : b.Quiet) (ht : ttl.Storable) (old new : SecretDigest)
    (expected : Option OwnerId) (issuedAt : Instant) :
    (b.rotate old new expected issuedAt ttl).1 = b.rotateAnswer old new expected issuedAt ttl ∧
      b.Shows (b.rotate old new expected issuedAt ttl).2
        (b.rotated old new ttl (b.rotateAnswer old new expected issuedAt ttl)) := by
  cases hanswer : b.rotateAnswer old new expected issuedAt ttl with
  | error e => exact rotate_refusal hq hanswer
  | ok r => exact rotate_move hq ht hanswer

end Rotate

/-! ## Time -/

def ticks (b : RefreshBackend) (span : Span) : Nat :=
  match b with
  | .memory _ => span.nanos
  | .remote _ _ => span.millis

theorem advance_spec (hq : b.Quiet) (span : Span) :
    (b.advance span).place = b.place ∧ (b.advance span).Quiet ∧
      (b.advance span).clock = b.clock + b.ticks span ∧
      (∀ k, (b.advance span).Strays k → b.Strays k) ∧
      ∀ d, (b.advance span).held d =
        (b.held d).filter fun x => x.deadline.all (b.clock + b.ticks span < ·) := by
  cases b with
  | memory s =>
    refine ⟨rfl, trivial, rfl, fun _ => id, fun d => ?_⟩
    simp only [advance, held, MemoryStore.held_advance, Option.filter_map]
    rfl
  | remote p l =>
    refine ⟨rfl, hq, rfl, fun k ⟨hk, hd⟩ => ⟨?_, hd⟩, fun d => ?_⟩
    · rw [Link.advance, KeyServer.Database.get?_advance] at hk
      obtain ⟨e, he⟩ := Option.isSome_iff_exists.mp hk
      exact Option.isSome_iff_exists.mpr ⟨e, (Option.filter_eq_some_iff.mp he).1⟩
    simp only [advance, held, Link.advance, KeyServer.Database.get?_advance, Option.filter_map]
    rfl

theorem clock_lt_deadline {d : SecretDigest} {x : Holding} (h : b.held d = some x) {deadline : Nat}
    (hx : x.deadline = some deadline) : b.clock < deadline := by
  cases b with
  | memory s =>
    obtain ⟨f, hf, rfl⟩ := Option.map_eq_some_iff.mp h
    cases hx
    exact MemoryStore.clock_lt_of_held hf
  | remote p l =>
    obtain ⟨e, he, rfl⟩ := Option.map_eq_some_iff.mp h
    have hlive := (Option.filter_eq_some_iff.mp he).2
    simp only [Holding.deadline] at hx
    simpa [KeyServer.Database.Entry.isLive, hx, clock] using hlive

theorem filter_held (b : RefreshBackend) (d : SecretDigest) :
    (b.held d).filter (fun x => x.deadline.all (b.clock < ·)) = b.held d := by
  cases hx : b.held d with
  | none => rfl
  | some x =>
    have hlive : x.deadline.all (b.clock < ·) = true := by
      cases hd : x.deadline with
      | none => rfl
      | some deadline => simpa using clock_lt_deadline hx hd
    rw [Option.filter, if_pos hlive]

@[simp] theorem deadline_filing (b : RefreshBackend) (r : RefreshRecord) (ttl : Span) :
    (b.filing r ttl).deadline = some (b.clock + b.lifetime ttl) := by
  cases b <;> rfl

@[simp] theorem owner_filing (b : RefreshBackend) (r : RefreshRecord) (ttl : Span) :
    (b.filing r ttl).owner = .ok r.owner := by
  cases b <;> rfl

/-- A record with an owner and an issue time of the calendar is read as it was written. -/
theorem record_recordEntry {owner : String} {secs : Int} (deadline : Nat) (howner : owner ≠ "")
    (hsecs : Instant.inCalendar secs = true) :
    Holding.record (.keyed (recordEntry owner secs deadline)) =
      .ok ⟨⟨owner⟩, .ofParts secs 0⟩ := by
  have hint : Decimal.isInt64 secs = true := by
    have h := Instant.inCalendar_iff.mp hsecs
    simp only [Instant.firstSecs, Instant.lastSecs] at h
    simp only [Decimal.isInt64, Bool.and_eq_true, decide_eq_true_eq]
    omega
  simp only [recordEntry, Holding.record, Table.get?_insert, if_true, Option.map_some,
    Decimal.int64?_toString hint]
  simp [RemoteStore.recordOf, howner, Instant.ofSecs?, hsecs, KeyServer.ownerField,
    KeyServer.issuedAtField]

/-- A record is read as it was filed, but for the fraction of the second. -/
theorem record_filing (b : RefreshBackend) {r : RefreshRecord} (ttl : Span)
    (howner : r.owner.isEmpty = false) (hissued : Instant.inCalendar r.issuedAt.secs = true) :
    ∃ issuedAt, (b.filing r ttl).record = .ok ⟨r.owner, issuedAt⟩ := by
  cases b with
  | memory s => exact ⟨_, rfl⟩
  | remote p l =>
    have hne : r.owner.text ≠ "" := by simpa [OwnerId.isEmpty] using howner
    exact ⟨_, record_recordEntry _ hne hissued⟩

theorem isOf_filing (b : RefreshBackend) {owner : OwnerId} {now : Instant} (ttl : Span)
    (howner : owner.isEmpty = false) (hnow : Instant.inCalendar now.secs = true) :
    (b.filing ⟨owner, now⟩ ttl).IsOf owner :=
  ⟨howner, owner_filing .., record_filing b ttl howner hnow⟩

end RefreshBackend
end Gatehouse
