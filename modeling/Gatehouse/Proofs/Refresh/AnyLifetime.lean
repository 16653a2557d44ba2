import Gatehouse.Proofs.Refresh.Contract

/-!
# Gatehouse.Proofs.Refresh.AnyLifetime

Records with a lifetime of any length, on a server that is left alone. A script writes the fields of
a record first and then its lifetime, which the server refuses above `longestSecs`; and a refused
script keeps what it has written. So there is a third way for a call to end (`Ends`), beside being
refused and being done.

* `put_ends`, `rotate_ends`: how each call ends.
* `whole_unless_too_long`: both, with the lifetimes that reach the server as they are.
* `too_long_stays`: the third way is taken.
-/

namespace Gatehouse.RemoteStore

open KeyServer (Link Entry scriptNumber scriptNumber_of_lt)
open KeyServer.Database (longestSecs recordEntry undatedEntry runPut_dated runPut_undated
  runRotate_dated runRotate_undated get?_set_undated)

/-- The clock of a server that has done a call is as before, one key holds `e`, the key `gone` holds
nothing, and every other key holds what it held. -/
structure Leaves (l l' : Link) (gone : Option String) (k : String) (e : Entry) : Prop where
  clock : l'.db.clock = l.db.clock
  get : ∀ j, l'.db.get? j =
    if gone = some j then none else if j = k then some e else l.db.get? j

/-- How a call ends that is to answer `.ok a` only if it files a record of `owner a` for `secs`
seconds under the key `k` and removes the key `gone`. -/
inductive Ends {α : Type} (l : Link) (gone : Option String) (k : String) (owner : α → OwnerId)
    (issuedAt : Instant) (secs : Nat) :
    Except StoreError α → Except StoreError α × Link → Prop where
  | refused {e : StoreError} {l' : Link} (hdb : l'.db = l.db) :
    Ends l gone k owner issuedAt secs (.error e) (.error e, l')
  | whole {a : α} {l' : Link} (hsecs : (secs : Int) ≤ longestSecs)
    (h : Leaves l l' gone k
      (recordEntry (owner a).text issuedAt.secs (l.db.clock + secs * 1000))) :
    Ends l gone k owner issuedAt secs (.ok a) (.ok a, l')
  | undated {a : α} {l' : Link} (hsecs : longestSecs < secs)
    (h : Leaves l l' none k (undatedEntry (owner a).text issuedAt.secs)) :
    Ends l gone k owner issuedAt secs (.ok a) (.error (.failed .refused), l')

variable {p : String} {l : Link} {ttl : Span}

theorem lifetimeSecs_pos (ttl : Span) : 0 < ttl.lifetimeSecs := by
  simp only [Span.lifetimeSecs]
  omega

theorem put_ends (hq : l.pending = []) (d : SecretDigest) (r : RefreshRecord) (ttl : Span) :
    Ends l none (key p d) (fun _ => r.owner) r.issuedAt (scriptNumber ttl.lifetimeSecs)
      ((RefreshBackend.remote p l).putAnswer d ttl) (put p d r ttl l) := by
  cases hd : l.db.get? (key p d) with
  | some e =>
    have hanswer : (RefreshBackend.remote p l).putAnswer d ttl = .error .alreadyExists := by
      simp [RefreshBackend.putAnswer, RefreshBackend.canDate, RefreshBackend.held, hd]
    rw [hanswer]
    simp only [put, ask_quiet _ _ hq, KeyServer.Database.run, KeyServer.Database.runPut, hd,
      Option.isSome_some, if_true, KeyServer.Reply.int?, Option.elim]
    exact .refused rfl
  | none =>
    have hanswer : (RefreshBackend.remote p l).putAnswer d ttl = .ok () := by
      simp [RefreshBackend.putAnswer, RefreshBackend.canDate, RefreshBackend.held, hd]
    rw [hanswer]
    by_cases hshort : (scriptNumber ttl.lifetimeSecs : Int) ≤ longestSecs
    · obtain ⟨db, hrun, hclock, hget⟩ := runPut_dated hd r.owner.text r.issuedAt.secs
        (lifetimeSecs_pos ttl) hshort
      simp only [put, ask_quiet _ _ hq, KeyServer.Database.run, hrun, KeyServer.Reply.int?,
        Option.elim]
      exact .whole hshort ⟨hclock, hget⟩
    · have hlong := Int.not_le.mp hshort
      simp only [put, ask_quiet _ _ hq, KeyServer.Database.run,
        runPut_undated hd r.owner.text r.issuedAt.secs hlong, KeyServer.Reply.int?, Option.elim]
      exact .undated hlong ⟨rfl, get?_set_undated _ _ _ _⟩

theorem rotate_ends (hq : l.pending = []) (old new : SecretDigest) (expected : Option OwnerId)
    (issuedAt : Instant) (ttl : Span) :
    Ends l (some (key p old)) (key p new) RefreshRecord.owner issuedAt
      (scriptNumber ttl.lifetimeSecs)
      ((RefreshBackend.remote p l).rotateAnswer old new expected issuedAt ttl)
      (rotate p old new expected issuedAt ttl l) := by
  cases hanswer : (RefreshBackend.remote p l).rotateAnswer old new expected issuedAt ttl with
  | error e =>
    obtain ⟨reply, hrun, hread⟩ := RefreshBackend.runRotate_refused ttl.lifetimeSecs hanswer
    rw [rotate_quiet hq hrun, hread]
    exact .refused rfl
  | ok r =>
    obtain ⟨e, ho, hown, hexp, hn, rfl⟩ := RefreshBackend.runRotate_allowed hanswer
    by_cases hshort : (scriptNumber ttl.lifetimeSecs : Int) ≤ longestSecs
    · obtain ⟨db, hrun, hclock, hget⟩ := runRotate_dated ho hown hexp hn r.issuedAt.secs
        (lifetimeSecs_pos ttl) hshort
      rw [rotate_quiet hq hrun]
      refine .whole hshort ⟨hclock, fun j => ?_⟩
      simp only [Option.some.injEq, eq_comm (a := key p old)]
      exact hget j
    · have hlong := Int.not_le.mp hshort
      rw [rotate_quiet hq (runRotate_undated ho hown hexp hn r.issuedAt.secs hlong)]
      exact .undated hlong ⟨rfl, get?_set_undated _ _ _ _⟩

/-- Puts and rotations with any lifetime. What a script reads as the lifetime is the lifetime, if it
is below fifty-three bits. -/
theorem whole_unless_too_long (p : String) {l : Link} (hq : l.pending = []) (ttl : Span) :
    let secs := scriptNumber ttl.lifetimeSecs
    (ttl.lifetimeSecs < 0x20000000000000 → secs = ttl.lifetimeSecs) ∧
      (∀ d r, Ends l none (key p d) (fun _ => r.owner) r.issuedAt secs
        ((RefreshBackend.remote p l).putAnswer d ttl) (put p d r ttl l)) ∧
      ∀ old new expected issuedAt,
        Ends l (some (key p old)) (key p new) RefreshRecord.owner issuedAt secs
          ((RefreshBackend.remote p l).rotateAnswer old new expected issuedAt ttl)
          (rotate p old new expected issuedAt ttl l) :=
  ⟨scriptNumber_of_lt, fun d r => put_ends hq d r ttl,
    fun old new expected issuedAt => rotate_ends hq old new expected issuedAt ttl⟩

theorem whole_unless_too_long_moved :
    let l : Link := { db := .startingAt 0 }
    let l₁ := (put "refresh:th" ⟨"a"⟩ ⟨⟨"ada"⟩, ⟨0⟩⟩ (.ofSecs 60) l).2
    Ends l none (key "refresh:th" ⟨"a"⟩) (fun _ => ⟨"ada"⟩) ⟨0⟩ 60 (.ok ())
        (put "refresh:th" ⟨"a"⟩ ⟨⟨"ada"⟩, ⟨0⟩⟩ (.ofSecs 60) l) ∧
      Ends l₁ (some (key "refresh:th" ⟨"a"⟩)) (key "refresh:th" ⟨"b"⟩) RefreshRecord.owner ⟨0⟩
        0x10000000000000000 (.ok ⟨⟨"ada"⟩, ⟨0⟩⟩)
        (rotate "refresh:th" ⟨"a"⟩ ⟨"b"⟩ none ⟨0⟩ (.ofSecs 0xffffffffffffffff) l₁) := by
  intro l l₁
  have hput := (whole_unless_too_long "refresh:th" (l := l) rfl (.ofSecs 60)).2.1 ⟨"a"⟩
    ⟨⟨"ada"⟩, ⟨0⟩⟩
  have hrotate := (whole_unless_too_long "refresh:th" (l := l₁) rfl
    (.ofSecs 0xffffffffffffffff)).2.2 ⟨"a"⟩ ⟨"b"⟩ none ⟨0⟩
  exact ⟨hput, hrotate⟩

/-- A record that is put with the longest lifetime there is never expires, though the put is
refused; and a rotation with this lifetime leaves the old record beside the new one. -/
theorem too_long_stays :
    let ttl : Span := .ofSecs 0xffffffffffffffff
    let l : Link := { db := .startingAt 0 }
    let (a, l₁) := put "refresh:th" ⟨"a"⟩ ⟨⟨"ada"⟩, ⟨0⟩⟩ ttl l
    let (a', l₂) := rotate "refresh:th" ⟨"a"⟩ ⟨"b"⟩ none ⟨0⟩ ttl l₁
    a = .error (.failed .refused) ∧ l.db.get? (key "refresh:th" ⟨"a"⟩) = none ∧
      (l₁.db.get? (key "refresh:th" ⟨"a"⟩)).map Entry.deadline = some none ∧
      a' = .error (.failed .refused) ∧ l₁.db.get? (key "refresh:th" ⟨"b"⟩) = none ∧
      (l₂.db.get? (key "refresh:th" ⟨"a"⟩)).map Entry.deadline = some none ∧
      (l₂.db.get? (key "refresh:th" ⟨"b"⟩)).map Entry.deadline = some none :=
  ⟨rfl, rfl, rfl, rfl, rfl, rfl, rfl⟩

end Gatehouse.RemoteStore
