import Gatehouse.Proofs.Run
import Gatehouse.Proofs.Refresh.Interfered

/-!
# Gatehouse.Proofs.Token.Deadlines

No refresh secret lives for ever. An engine runs on a server that begins empty, and whatever becomes
of its requests, each key that the server has then is of a digest, can be read, and has a deadline
that is no further away than the lifetime of the engine's secrets (`records_expire`).
-/

namespace Gatehouse

open KeyServer (Database Entry Interference Link Request)

variable {τ : Type}

inductive LinkStep (τ : Type) where
  | call (c : TokenCall)
  | interfere (pending : List Interference)
  | wait (span : Span)
  | setClock (now : Instant)
  | reseed (e : τ)

def LinkStep.inCalendar : LinkStep τ → Bool
  | setClock now => Instant.inCalendar now.secs
  | _ => true

def LinkStep.apply [ByteSource τ] (g : TokenEngine τ Link) :
    LinkStep τ → World τ Link → Except TokenError TokenAnswer × World τ Link
  | call c, w => c.apply g w
  | interfere pending, w => (.ok .done, { w with stores := { w.stores with pending } })
  | wait span, w => (.ok .done, { w with stores := w.stores.advance span })
  | setClock now, w => (.ok .done, { w with now := now })
  | reseed e, w => (.ok .done, { w with entropy := e })

/-- A key of a digest that holds a record, which can be read and is going to be gone. -/
structure Expires (p : String) (ttl : Span) (db : Database) (k : String) (e : Entry) : Prop where
  hash : ∃ fields owner, e.value = .hash fields ∧
    fields.get? KeyServer.ownerField = some owner ∧ owner ≠ ""
  read : ∃ d : SecretDigest, d.IsHex ∧ k = p ++ ":" ++ d.hex ∧
    ∃ r, (RemoteStore.get p d { db }).1 = .ok r ∧ r.owner.isEmpty = false
  deadline : ∃ t, e.deadline = some t ∧ db.clock < t ∧ t ≤ db.clock + max 1 ttl.secs * 1000

theorem Expires.of_isRecord {p : String} {ttl : Span} {db : Database} {k : String} {e : Entry}
    (he : db.get? k = some e) (h : e.IsRecord p ttl.lifetimeSecs db.clock k) :
    Expires p ttl db k e := by
  obtain ⟨d, hd, rfl⟩ := h.digest
  obtain ⟨owner, issuedAt, deadline, rfl, howner, hissued, hdeadline⟩ := h.record
  have hlive : db.clock < deadline := by
    have hlater := (Option.filter_eq_some_iff.mp he).2
    simpa only [Database.Entry.isLive, Database.recordEntry, Option.all_some,
      decide_eq_true_eq] using hlater
  have hread : (RemoteStore.get p d { db }).1 = .ok ⟨⟨owner⟩, .ofParts issuedAt 0⟩ := by
    obtain ⟨hanswer, -⟩ := RefreshBackend.get_spec (b := .remote p { db }) rfl d
    rw [RefreshBackend.getAnswer, RefreshBackend.held, he] at hanswer
    exact hanswer.trans (RefreshBackend.record_recordEntry deadline howner hissued)
  exact {
    hash := ⟨_, owner, rfl, by simp [KeyServer.ownerField, KeyServer.issuedAtField], howner⟩
    read := ⟨d, hd, rfl, _, hread, by simpa [OwnerId.isEmpty] using howner⟩
    deadline := ⟨deadline, rfl, hlive, hdeadline⟩ }

namespace TokenEngine

variable [ByteSource τ]

def afterLinkSteps (g : TokenEngine τ Link) (w : World τ Link) (steps : List (LinkStep τ))
    (k : Nat) : World τ Link :=
  Run.after (LinkStep.apply g) steps w k

/-- The clock shows an instant that exists, and the server holds nothing but records. -/
structure LinkSound (p : String) (ttl : Span) (w : World τ Link) : Prop where
  inCalendar : Instant.inCalendar w.now.secs = true
  link : w.stores.Sound p ttl.lifetimeSecs

variable {g : TokenEngine τ Link} {c : TokenConfig} {access : AccessCodec} {p : String}

theorem linkSound_apply (hg : g.Made c (.plain access) (.remote p)) {w : World τ Link}
    (hw : LinkSound p c.refreshTtl w) {step : LinkStep τ} (hstep : step.inCalendar = true) :
    LinkSound p c.refreshTtl (step.apply g w).2 := by
  obtain ⟨hnow, hlink⟩ := hw
  cases step with
  | call call =>
    have hs : g.store.Preserves g.refreshTtl (Link.Sound p c.refreshTtl.lifetimeSecs) := by
      rw [hg.store, hg.ttl]
      exact RemoteStore.preserves_sound p hg.admitted.storable
    obtain ⟨hsame, hkept⟩ := preserves_apply hg.codec hs hlink hnow call
    exact ⟨hsame ▸ hnow, hkept⟩
  -- What becomes of the next requests is not yet anything on the server.
  | interfere pending => exact ⟨hnow, hlink.db, hlink.sent⟩
  | wait span => exact ⟨hnow, hlink.db.advance span.millis, hlink.sent⟩
  | setClock now => exact ⟨hstep, hlink⟩
  | reseed e => exact ⟨hnow, hlink⟩

/-- What the server holds after any steps, and what it was asked for: the lifetime that a script
sets is never refused. -/
theorem records_expire {made : Instant} (hmade : Instant.inCalendar made.secs = true)
    (hg : ofConfig c (.remote p) made id = .ok g) {now : Instant}
    (hnow : Instant.inCalendar now.secs = true) (e : τ) (clock : Nat)
    {steps : List (LinkStep τ)} (hsteps : ∀ s ∈ steps, s.inCalendar = true) (k : Nat) :
    let l := (g.afterLinkSteps ⟨now, e, { db := .startingAt clock }⟩ steps k).stores
    (∀ x ∈ l.db.live, Expires p c.refreshTtl l.db x.1 x.2) ∧
      ∀ r ∈ l.sent, ∀ ttl, r.lifetime? = some ttl →
        ∀ db key, (Database.expire db key (KeyServer.scriptNumber ttl)).isOk = true := by
  intro l
  obtain ⟨access, -, hmade⟩ := made_of_ofConfig hmade hg
  have hstart : LinkSound p c.refreshTtl ⟨now, e, { db := .startingAt clock }⟩ :=
    ⟨hnow, Database.sound_startingAt p _ clock, fun r hr => nomatch hr⟩
  have hafter : LinkSound p c.refreshTtl
      (g.afterLinkSteps ⟨now, e, { db := .startingAt clock }⟩ steps k) := by
    refine Run.after_inv (Nat.zero_le k) (by rwa [Run.after_zero]) fun j m _ _ hm hw => ?_
    exact linkSound_apply hmade hw (hsteps _ (Run.of_getElem? hm).2.1)
  refine ⟨fun ⟨key, entry⟩ hx => ?_, fun r hr ttl httl db key => ?_⟩
  · have hget := Database.mem_live_iff.mp hx
    exact .of_isRecord hget (hafter.link.db key entry hget)
  · rw [(hafter.link.sent r hr).lifetime httl]
    exact Database.isOk_expire hmade.admitted.storable.takes db key

/-- The answer to an issue comes too late and the clean-up is not heard, and so the record of a
secret that nobody has stays for its lifetime. -/
theorem records_expire_unheard :
    let g : TokenEngine Entropy Link :=
      ⟨.plain ⟨"gatehouse", "api", .ofSecs 300, List.replicate 32 7⟩, .remote "refresh",
        .ofMillis 500, 32⟩
    let steps : List (LinkStep Entropy) := [.interfere [.late, .stall], .call (.issue ⟨"ada"⟩),
      .wait (.ofMillis 999), .interfere [.answer (.error "LOADING")], .call (.issue ⟨"ada"⟩),
      .wait (.ofMillis 1)]
    let l (k : Nat) :=
      (g.afterLinkSteps ⟨⟨0⟩, { word := 1 }, { db := .startingAt 8 }⟩ steps k).stores
    ((l 5).db.live.length = 1 ∧ (l 6).db.live = []) ∧
      (∀ x ∈ (l 5).db.live, Expires "refresh" (.ofMillis 500) (l 5).db x.1 x.2) ∧
        ∀ r ∈ (l 5).sent, ∀ ttl, r.lifetime? = some ttl →
          ∀ db key, (Database.expire db key (KeyServer.scriptNumber ttl)).isOk = true := by
  intro g steps l
  have hg : ofConfig ⟨⟨"gatehouse", "api", .ofSecs 300, List.replicate 32 7⟩, .ofMillis 500, 32⟩
      (.remote "refresh") ⟨0⟩ id = .ok g := rfl
  refine ⟨⟨by decide +kernel, List.eq_nil_of_length_eq_zero (by decide +kernel)⟩, ?_⟩
  exact records_expire (by decide) hg (by decide) { word := 1 } 8
    (show ∀ s ∈ steps, s.inCalendar = true by decide) 5

end TokenEngine
end Gatehouse
