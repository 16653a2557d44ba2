import Gatehouse.Proofs.KeyServer.Records
import Gatehouse.Proofs.Token.Preserved

/-!
# Gatehouse.Proofs.Refresh.Interfered

The calls of a refresh store on a server that may be interfered with. Every call is one request, so
what the server has after a call is what the request leaves (`put_link`, `get_link`, `delete_link`,
`rotate_link`), however its answer is read.

* `preserves_sound`: no call leaves anything but records on the server.
* `get_passed`, `rotate_failing`, `delete_others`: a call in terms of what becomes of its request.
-/

namespace Gatehouse

namespace KeyServer

def Interference.runs : Interference → Bool
  | pass => true
  | answer _ => false
  | stall => false
  | late => true

inductive Interference.Fails : Interference → Prop where
  | refused (text : String) : Fails (.answer (.error text))
  | unheard : Fails .stall
  | late : Fails .late

theorem Link.send_next {l : Link} {x : Interference} {rest : List Interference}
    (hl : l.pending = x :: rest) (r : Request) :
    (l.send r).2 =
      ⟨if x.runs then (l.db.run r).2 else l.db, rest, l.sent ++ [r]⟩ := by
  unfold send
  cases x <;> simp only [hl] <;> rfl

end KeyServer

namespace RemoteStore

open KeyServer (Interference Link Reply Request)

section Requests

variable {α : Type} (p : String) (l : Link)

theorem ask_link (read : Reply → Option α) (r : Request) : (ask read r l).2 = (l.send r).2 := by
  unfold ask
  rcases l.send r with ⟨_ | reply, l'⟩
  · rfl
  · dsimp only
    cases read reply <;> rfl

theorem put_link (d : SecretDigest) (r : RefreshRecord) (ttl : Span) :
    (put p d r ttl l).2 =
      (l.send (.put (key p d) r.owner.text r.issuedAt.secs ttl.lifetimeSecs)).2 := by
  rw [← ask_link l Reply.int?]
  unfold put
  rcases ask Reply.int? _ l with ⟨x | status, l'⟩
  · rfl
  · dsimp only
    split <;> simp_all

theorem get_link (d : SecretDigest) : (get p d l).2 = (l.send (.read (key p d))).2 := by
  rw [← ask_link l (Reply.pair? (Reply.optional? Reply.text?) (Reply.optional? Reply.int?))]
  simp only [get]
  rcases ask _ _ l with ⟨x | found, l'⟩ <;> rfl

theorem delete_link (d : SecretDigest) : (delete p d l).2 = (l.send (.delete (key p d))).2 :=
  ask_link l _ _

theorem rotate_link (old new : SecretDigest) (expected : Option OwnerId) (issuedAt : Instant)
    (ttl : Span) :
    (rotate p old new expected issuedAt ttl l).2 =
      (l.send (.rotate (key p old) (key p new) ((expected.map OwnerId.text).getD "") issuedAt.secs
        ttl.lifetimeSecs)).2 := by
  rw [← ask_link l (Reply.pair? Reply.int? Reply.text?)]
  simp only [rotate]
  rcases ask _ _ l with ⟨x | ⟨status, owner⟩, l'⟩
  · rfl
  · dsimp only
    split <;> simp_all

end Requests

/-- No call of an engine leaves anything but records on the server, whatever becomes of it. -/
theorem preserves_sound (p : String) {ttl : Span} (ht : ttl.Storable) :
    (RefreshStore.remote p).Preserves ttl (Link.Sound p ttl.lifetimeSecs) where
  put secret owner now howner hnow h := by
    have hne : owner.text ≠ "" := by simpa [OwnerId.isEmpty] using howner
    change Link.Sound p ttl.lifetimeSecs (put p _ _ ttl _).2
    rw [put_link]
    exact h.send ht.takes (.put secret.isHex_digest hne hnow)
  get d h := by
    change Link.Sound p ttl.lifetimeSecs (get p d _).2
    rw [get_link]
    exact h.send ht.takes (.read _)
  delete d h := by
    change Link.Sound p ttl.lifetimeSecs (delete p d _).2
    rw [delete_link]
    exact h.send ht.takes (.delete _)
  rotate old secret expected now hnow h := by
    change Link.Sound p ttl.lifetimeSecs (rotate p old _ expected _ ttl _).2
    rw [rotate_link]
    exact h.send ht.takes (.rotate secret.isHex_digest hnow)

section Failing

variable {p : String} {l : Link} {x : Interference} {rest : List Interference}

theorem ask_passed {α : Type} (read : Reply → Option α) (r : Request)
    (hl : l.pending = .pass :: rest) :
    ask read r l = ((ask read r { db := l.db }).1, ⟨(l.db.run r).2, rest, l.sent ++ [r]⟩) := by
  simp only [ask, Link.send, hl]
  cases read (l.db.run r).1 <;> rfl

/-- A look that passes answers what a look at the same keys answers. -/
theorem get_passed (hl : l.pending = .pass :: rest) (d : SecretDigest) :
    get p d l =
      ((get p d { db := l.db }).1, ⟨l.db, rest, l.sent ++ [.read (key p d)]⟩) := by
  simp only [get]
  rw [ask_passed _ _ hl]
  rcases ask _ _ { db := l.db } with ⟨_ | found, l'⟩ <;> rfl

theorem ask_failing {α : Type} (read : Reply → Option α)
    (hread : ∀ text, read (.error text) = none) (r : Request) (hl : l.pending = x :: rest)
    (hx : x.Fails) :
    ∃ fault, (ask read r l).1 = .error (.failed fault) := by
  unfold ask Link.send
  cases hx with
  | refused text =>
    simp only [hl, hread]
    exact ⟨_, rfl⟩
  | unheard =>
    simp only [hl]
    exact ⟨_, rfl⟩
  | late =>
    simp only [hl]
    exact ⟨_, rfl⟩

theorem rotate_failing (hl : l.pending = x :: rest) (hx : x.Fails) (old new : SecretDigest)
    (expected : Option OwnerId) (issuedAt : Instant) (ttl : Span) :
    ∃ fault, (rotate p old new expected issuedAt ttl l).1 = .error (.failed fault) := by
  obtain ⟨fault, hask⟩ := ask_failing (Reply.pair? Reply.int? Reply.text?)
    (fun _ => rfl) (.rotate (key p old) (key p new) ((expected.map OwnerId.text).getD "")
      issuedAt.secs ttl.lifetimeSecs) hl hx
  refine ⟨fault, ?_⟩
  simp only [rotate]
  generalize ask _ _ l = asked at hask ⊢
  obtain ⟨e | _, l'⟩ := asked
  · obtain rfl : e = .failed fault := Except.error.inj hask
    rfl
  · cases hask

/-- A deletion leaves the records of other digests as they are, whether it is made or not. -/
theorem delete_others {d e : SecretDigest} (he : e ≠ d) (l : Link) :
    (delete p d l).2.db.get? (key p e) = l.db.get? (key p e) := by
  rw [delete_link]
  rcases l.db_send (.delete (key p d)) with hdb | hdb
  · rw [hdb]
  · rw [hdb]
    exact (KeyServer.Database.get?_erase ..).trans (if_neg fun h => he (key_injective p h))

end Failing

end RemoteStore
end Gatehouse
