import Mathlib.Control.Monad.Basic
import Gatehouse.Proofs.Refresh.Interfered

/-!
# Gatehouse.Proofs.Token.LostAnswer

A rotation whose answer is lost between the server and the engine. The client is told of a failure
of the store, and the new secret is taken back. Whether the old one is still good depends on what
the client cannot know: it is, if the server never ran the script, and it is gone, if the script ran
and only its answer came too late (`old_of_lost_answer`). A client whose answer was late is left
without a secret (`late_answer_loses_secret`).
-/

namespace Gatehouse

open KeyServer (Database Entry Interference Link)

namespace RemoteStore

theorem owner?_of_get {p : String} {d : SecretDigest} {db : Database} {r : RefreshRecord}
    (h : (get p d { db }).1 = .ok r) :
    ∃ e, db.get? (key p d) = some e ∧ e.owner? = .ok (some r.owner.text) := by
  have hanswer := (RefreshBackend.get_spec (b := .remote p { db }) rfl d).1
  replace h : (RefreshBackend.remote p { db }).getAnswer d = .ok r := hanswer.symm.trans h
  rw [RefreshBackend.getAnswer, RefreshBackend.held] at h
  cases hget : db.get? (key p d) with
  | none =>
    simp only [hget] at h
    cases h
  | some e =>
    simp only [hget, Option.map_some] at h
    exact ⟨e, rfl, (owner?_of_record h).1⟩

end RemoteStore

namespace TokenEngine

variable {τ : Type} {g : TokenEngine τ Link} {c : TokenConfig} {codec : TokenCodec τ Link}
  {p : String} {w : World τ Link} {x : Interference} {rest : List Interference}
  {expected : Option OwnerId}

theorem discard_others (hg : g.Made c codec (.remote p)) {d e : SecretDigest} (he : e ≠ d)
    (w : World τ Link) :
    (g.discard d w).stores.db.get? (RemoteStore.key p e) =
      w.stores.db.get? (RemoteStore.key p e) := by
  rw [discard, hg.store]
  exact RemoteStore.delete_others he w.stores

theorem rotate_script_old {ttl : Span} (ht : ttl.Storable) {l : Link} (hl : l.pending = x :: rest)
    {old new : SecretDigest} {owner : OwnerId} {e : Entry}
    (hold : l.db.get? (RemoteStore.key p old) = some e) (hown : e.owner? = .ok (some owner.text))
    (hexp : Accepts expected owner) (hfree : l.db.get? (RemoteStore.key p new) = none)
    (issuedAt : Instant) :
    (RemoteStore.rotate p old new expected issuedAt ttl l).2.db.get? (RemoteStore.key p old) =
      if x.runs then none else some e := by
  rw [RemoteStore.rotate_link, Link.send_next hl]
  cases hx : x.runs with
  | false => exact hold
  | true =>
    have hnot : ¬ ((expected.map OwnerId.text).getD "" ≠ "" ∧
        owner.text ≠ (expected.map OwnerId.text).getD "") := by
      rcases hexp with rfl | rfl <;> simp
    obtain ⟨db, hrun, -, hget⟩ := Database.runRotate_moves hold hown hnot hfree issuedAt.secs
      ht.takes
    simp only [if_true, Database.run, hrun, hget]

variable [ByteSource τ]

theorem replace_lost (hg : g.Made c codec (.remote p)) (hl : w.stores.pending = x :: rest)
    (hx : x.Fails) {old : SecretDigest} {owner : OwnerId} {e : Entry}
    (hold : w.stores.db.get? (RemoteStore.key p old) = some e)
    (hown : e.owner? = .ok (some owner.text)) (hexp : Accepts expected owner)
    (hfree : w.stores.db.get? (RemoteStore.key p (g.nextSecret w).digest) = none) {text : String}
    (h : (g.replace old expected w).1 = .error (.storage text)) :
    (g.replace old expected w).2.stores.db.get? (RemoteStore.key p old) =
      if x.runs then none else some e := by
  cases hlater : w.now.later? g.refreshTtl with
  | none =>
    rw [replace_undated hlater] at h
    cases h
  | some refreshEnd =>
    cases hdrawn : (ByteSource.draw g.secretBytes w.entropy).1.isSome with
    | false =>
      rw [replace_undrawn hlater (draw_of_isNone hg.long hdrawn)] at h
      cases h
    | true =>
      have hne : old ≠ (g.nextSecret w).digest := by
        rintro rfl
        rw [hfree] at hold
        cases hold
      have hscript := rotate_script_old (hg.ttl ▸ hg.admitted.storable) hl hold hown hexp hfree
        w.now
      obtain ⟨fault, hanswer⟩ := RemoteStore.rotate_failing (p := p) hl hx old
        (g.nextSecret w).digest expected w.now g.refreshTtl
      have hcall : g.store.rotate old (g.nextSecret w).digest expected w.now g.refreshTtl w.stores =
          (.error (.failed fault), (RemoteStore.rotate p old (g.nextSecret w).digest expected w.now
            g.refreshTtl w.stores).2) := by
        rw [hg.store, ← hanswer]
        rfl
      -- Only the new record is taken back, so the old one is as the script left it.
      rw [replace_eq_settle hlater (draw_of_isSome hg.long hdrawn) hcall]
      exact (discard_others hg hne _).trans hscript

/-- After a rotation whose answer is lost the old record is as it was, unless the script has run. -/
theorem old_of_lost_answer {made : Instant} (hmade : Instant.inCalendar made.secs = true)
    (hg : ofConfig c (.remote p) made id = .ok g) (hl : w.stores.pending = .pass :: x :: rest)
    (hx : x.Fails) {secret : RefreshSecret} {r : RefreshRecord}
    (hread : (RemoteStore.get p secret.digest { db := w.stores.db }).1 = .ok r)
    (hfree : w.stores.db.get? (RemoteStore.key p (g.nextSecret w).digest) = none) {text : String}
    (h : (g.rotate secret expected w).1 = .error (.storage text)) :
    (g.rotate secret expected w).2.stores.db.get? (RemoteStore.key p secret.digest) =
      if x.runs then none else w.stores.db.get? (RemoteStore.key p secret.digest) := by
  obtain ⟨access, -, hmade⟩ := made_of_ofConfig hmade hg
  obtain ⟨e, hold, hown⟩ := RemoteStore.owner?_of_get hread
  have hget : g.store.get secret.digest w.stores =
      (.ok r, ⟨w.stores.db, x :: rest,
        w.stores.sent ++ [.read (RemoteStore.key p secret.digest)]⟩) := by
    rw [hmade.store, ← hread]
    exact RemoteStore.get_passed hl secret.digest
  have hrotate : g.rotate secret expected w = _ := rotate_eq_replace hget
  split_ifs at hrotate with hrefused
  · rw [hrotate] at h
    cases h
  · have hexp := any_ne_eq_false_iff.mp (by simpa using hrefused)
    rw [hrotate] at h ⊢
    rw [hold]
    exact replace_lost hmade rfl hx hold hown hexp hfree h

theorem old_of_lost_answer_unheard :
    let g : TokenEngine Entropy Link :=
      ⟨.plain ⟨"gatehouse", "api", .ofSecs 300, List.replicate 32 7⟩, .remote "refresh",
        .ofSecs 60, 32⟩
    let w := (g.issue ⟨"ada"⟩ ⟨⟨0⟩, { word := 1 }, { db := .startingAt 8 }⟩).2
    let old : RefreshSecret := ⟨"bIKlYsuAjRDWMr6JyFE-v2ySnzTd-oyfY8mWDvbjSKM"⟩
    let unheard : World Entropy Link :=
      { w with stores := { w.stores with pending := [.pass, .stall] } }
    (w.stores.db.get? (RemoteStore.key "refresh" old.digest)).isSome = true ∧
      (g.rotate old none unheard).2.stores.db.get? (RemoteStore.key "refresh" old.digest) =
        w.stores.db.get? (RemoteStore.key "refresh" old.digest) := by
  intro g w old unheard
  have hg : ofConfig ⟨⟨"gatehouse", "api", .ofSecs 300, List.replicate 32 7⟩, .ofSecs 60, 32⟩
      (.remote "refresh") ⟨0⟩ id = .ok g := rfl
  obtain ⟨hold, hread, hfree, hlost⟩ :
      (w.stores.db.get? (RemoteStore.key "refresh" old.digest)).isSome = true ∧
        (RemoteStore.get "refresh" old.digest { db := w.stores.db }).1 = .ok ⟨⟨"ada"⟩, ⟨0⟩⟩ ∧
        (w.stores.db.get? (RemoteStore.key "refresh" (g.nextSecret w).digest)).isNone = true ∧
        (g.rotate old none unheard).1 = .error (.storage "redis call timed out") := by
    decide +kernel
  exact ⟨hold, old_of_lost_answer (by decide) hg rfl .unheard hread
    (Option.isNone_iff_eq_none.mp hfree) hlost⟩

/-- A secret is issued, and the answer to a rotation of it comes too late: the client is told of a
failure, the new secret is taken back, and the old one is gone. -/
theorem late_answer_loses_secret :
    let g : TokenEngine Entropy Link :=
      ⟨.plain ⟨"gatehouse", "api", .ofSecs 300, List.replicate 32 7⟩, .remote "refresh",
        .ofSecs 60, 32⟩
    let w := (g.issue ⟨"ada"⟩ ⟨⟨0⟩, { word := 1 }, { db := .startingAt 8 }⟩).2
    let old : RefreshSecret := ⟨"bIKlYsuAjRDWMr6JyFE-v2ySnzTd-oyfY8mWDvbjSKM"⟩
    let late : World Entropy Link :=
      { w with stores := { w.stores with pending := [.pass, .late] } }
    (g.validateRefresh old w).1 = .ok ⟨"ada"⟩ ∧
      (g.rotate old (some ⟨"ada"⟩) late).1 = .error (.storage "redis call timed out") ∧
      (g.rotate old (some ⟨"ada"⟩) late).2.stores.db.live.length = 0 ∧
      (g.validateRefresh old (g.rotate old (some ⟨"ada"⟩) late).2).1 = .error .invalid := by
  decide +kernel

end TokenEngine
end Gatehouse
