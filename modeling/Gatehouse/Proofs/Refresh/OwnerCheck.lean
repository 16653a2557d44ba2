import Gatehouse.Proofs.Refresh.Contract

/-!
# Gatehouse.Proofs.Refresh.OwnerCheck

Rotations that name another owner than that of the record. They are refused and change nothing, in
memory and on a server alike, but for one name: on a server the empty text stands for no owner, so
a rotation that names the owner with the empty name is one that names nobody.
-/

namespace Gatehouse.RefreshBackend

open KeyServer.Database (recordEntry)

variable {b : RefreshBackend} {old new : SecretDigest} {issuedAt : Instant} {ttl : Span}
  {x : Holding} {o e : OwnerId}

theorem refuses_some (he : e ≠ o) :
    b.refuses (some e) o = true ↔ b.place = none ∨ e.text ≠ "" := by
  cases b with
  | memory s => simp [refuses, place, he]
  | remote p l => simp [refuses, place, he]

theorem rotate_unnamed (hb : b.place ≠ none) (he : e.text = "") (old new : SecretDigest)
    (issuedAt : Instant) (ttl : Span) :
    b.rotate old new (some e) issuedAt ttl = b.rotate old new none issuedAt ttl := by
  cases b with
  | memory s => exact absurd rfl hb
  | remote p l =>
    simp only [rotate, RemoteStore.rotate, Option.map_some, he, Option.getD_some, Option.map_none,
      Option.getD_none]

/-- A rotation of a record of `o` that names `e`. -/
theorem foreign_refused (hq : b.Quiet) (hdate : b.canDate ttl = true) (hx : b.held old = some x)
    (ho : x.IsOf o) (he : e ≠ o) (new : SecretDigest) (issuedAt : Instant) :
    (b.place = none ∨ e.text ≠ "" →
      (b.rotate old new (some e) issuedAt ttl).1 = .error .ownerMismatch ∧
        b.Shows (b.rotate old new (some e) issuedAt ttl).2 b.held) ∧
    (b.place ≠ none → e.text = "" →
      b.rotate old new (some e) issuedAt ttl = b.rotate old new none issuedAt ttl) := by
  refine ⟨fun hcheck => ?_, fun hb hempty => rotate_unnamed hb hempty old new issuedAt ttl⟩
  have hrefuses := (refuses_some he).mpr hcheck
  have hanswer : b.rotateAnswer old new (some e) issuedAt ttl = .error .ownerMismatch := by
    rw [rotateAnswer_held hdate hx ho.owner, if_pos hrefuses]
  exact rotate_refusal hq hanswer

theorem foreign_refused_eve :
    let b : RefreshBackend := (RefreshBackend.put ⟨"a"⟩ ⟨⟨"ada"⟩, ⟨0⟩⟩ (.ofSecs 60)
      (.remote "refresh:th" { db := .startingAt 0 })).2
    (b.rotate ⟨"a"⟩ ⟨"b"⟩ (some ⟨"eve"⟩) ⟨0⟩ (.ofSecs 60)).1 = .error .ownerMismatch ∧
      b.Shows (b.rotate ⟨"a"⟩ ⟨"b"⟩ (some ⟨"eve"⟩) ⟨0⟩ (.ofSecs 60)).2 b.held := by
  intro b
  exact (foreign_refused (b := b) (x := .keyed (recordEntry "ada" 0 60000)) (o := ⟨"ada"⟩) rfl rfl
    rfl ⟨rfl, rfl, ⟨0⟩, rfl⟩ (by decide) ⟨"b"⟩ ⟨0⟩).1 (.inr (by decide))

/-- A record of `ada` on a server is moved for the owner without a name. -/
theorem unnamed_not_refused :
    let b : RefreshBackend := (RefreshBackend.put ⟨"a"⟩ ⟨⟨"ada"⟩, ⟨0⟩⟩ (.ofSecs 60)
      (.remote "refresh:th" { db := .startingAt 0 })).2
    let (a, b') := b.rotate ⟨"a"⟩ ⟨"b"⟩ (some ⟨""⟩) ⟨0⟩ (.ofSecs 60)
    (b.held ⟨"a"⟩).map Holding.owner = some (.ok ⟨"ada"⟩) ∧ a = .ok ⟨⟨"ada"⟩, ⟨0⟩⟩ ∧
      b'.held ⟨"a"⟩ = none ∧ (b'.held ⟨"b"⟩).map Holding.owner = some (.ok ⟨"ada"⟩) :=
  ⟨rfl, rfl, rfl, rfl⟩

end Gatehouse.RefreshBackend
