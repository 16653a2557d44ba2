import Gatehouse.Proofs.Run
import Gatehouse.Proofs.Server.Alike

/-!
# Gatehouse.Proofs.Server.Interchange

Whether a service keeps its refresh records in memory or on a server cannot be told by its clients.
In a run of calls on the engine, of requests, and of clocks that move, each step keeps the worlds
alike, so all answers are the same, and the keys on the server are those of the records in memory
(`interchangeable`).
-/

namespace Gatehouse

variable {τ : Type}

/-- A step of a run of a service: a call on its engine, a request, or a clock or the source of
random bytes that moves. -/
inductive ServiceStep (τ : Type) where
  | call (c : TokenCall)
  | validateAccess (token : String)
  | request (r : Http.Request)
  | wait (ms : Nat)
  | setClock (now : Instant)
  | reseed (e : τ)

inductive ServiceAnswer where
  | token (a : Except TokenError TokenAnswer)
  | owner (a : Except TokenError OwnerId)
  | reply (r : Http.Reply)
  | done

def ServiceStep.inCalendar : ServiceStep τ → Bool
  | setClock now => Instant.inCalendar now.secs
  | _ => true

def ServiceStep.apply [ByteSource τ] (a : AuthService τ Backends) :
    ServiceStep τ → World τ Backends → ServiceAnswer × World τ Backends
  | call c, w => (.token (c.apply a.engine w).1, (c.apply a.engine w).2)
  | validateAccess token, w =>
    (.owner (a.engine.validateAccess token w).1, (a.engine.validateAccess token w).2)
  | request r, w => (.reply (Http.serve (.ofService a) r w).1, (Http.serve (.ofService a) r w).2)
  | wait ms, w =>
    (.done, { w with stores := { w.stores with store := w.stores.store.advance (.ofMillis ms) } })
  | setClock now, w => (.done, { w with now := now })
  | reseed e, w => (.done, { w with entropy := e })

namespace AuthService

variable [ByteSource τ]

def history (a : AuthService τ Backends) (w : World τ Backends) (steps : List (ServiceStep τ)) :
    List (Moment (World τ Backends) (ServiceStep τ) ServiceAnswer) :=
  Run.moments (ServiceStep.apply a) steps w

def afterSteps (a : AuthService τ Backends) (w : World τ Backends) (steps : List (ServiceStep τ))
    (k : Nat) : World τ Backends :=
  Run.after (ServiceStep.apply a) steps w k

def keysAfter (a : AuthService τ Backends) (w : World τ Backends) (steps : List (ServiceStep τ))
    (k : Nat) : List String :=
  (a.afterSteps w steps k).stores.store.live

variable {g : TokenEngine τ Backends} {c : TokenConfig} {access : AccessCodec} {secs : Nat}
  {hasher : PasswordHasher τ Backends} {p : String}

theorem agrees_step (hg : g.Made c (.plain access) Backends.refreshStore)
    (hsecs : c.refreshTtl = .ofSecs secs) (hhasher : hasher.IsBlind) {step : ServiceStep τ}
    (hstep : step.inCalendar = true) :
    Agrees p c.refreshTtl (step.apply ⟨Backends.credentialRepo, hasher, g⟩) := by
  cases step with
  | call c => exact (TokenEngine.agrees_apply hg hsecs c).reply (fun a _ => .token a) fun _ => rfl
  | validateAccess token =>
    exact (TokenEngine.agrees_validateAccess hg token).reply (fun a _ => .owner a) fun _ => rfl
  | request r =>
    exact (Http.agrees_serve hg hsecs hhasher r).reply (fun a _ => .reply a) fun _ => rfl
  | wait ms =>
    rintro _ _ ⟨hnow, h⟩ -
    exact ⟨rfl, .intro hnow ⟨h.memory.advance ms, h.server.advance ms⟩⟩
  | setClock now =>
    rintro _ _ ⟨-, h⟩ -
    exact ⟨rfl, .intro hstep h⟩
  | reseed e =>
    rintro _ _ ⟨hnow, h⟩ -
    exact ⟨rfl, .intro hnow h⟩

/-- The same run of a service whose records are in memory and of one whose records are on a server,
from stores that are empty. The lifetime of a refresh secret is in whole seconds, and the clock in
memory can tell when it is over. -/
theorem interchangeable {made : Instant} (hmade : Instant.inCalendar made.secs = true)
    (hg : TokenEngine.ofConfig c Backends.refreshStore made id = .ok g)
    (hsecs : c.refreshTtl = .ofSecs secs) (hhasher : hasher.IsBlind) (p : String)
    (repo : RepoBackend) (e : τ) {now : Instant} (hnow : Instant.inCalendar now.secs = true)
    (clock clock' : Nat) {steps : List (ServiceStep τ)} (hsteps : ∀ s ∈ steps, s.inCalendar = true)
    (hdate : ∀ m ∈ history ⟨Backends.credentialRepo, hasher, g⟩
      ⟨now, e, .memory (.startingAt clock), repo⟩ steps,
      m.before.stores.store.canDate c.refreshTtl = true) :
    let a : AuthService τ Backends := ⟨Backends.credentialRepo, hasher, g⟩
    let inMemory : World τ Backends := ⟨now, e, .memory (.startingAt clock), repo⟩
    let onServer : World τ Backends := ⟨now, e, .remote p { db := .startingAt clock' }, repo⟩
    (a.history inMemory steps).map Moment.answer = (a.history onServer steps).map Moment.answer ∧
      ∀ k, a.keysAfter onServer steps k =
        (a.keysAfter inMemory steps k).map fun hex => p ++ ":" ++ hex := by
  intro a inMemory onServer
  obtain ⟨access, -, hmade⟩ := TokenEngine.made_of_ofConfig hmade hg
  have hstart : Alike p inMemory onServer :=
    .intro hnow ⟨RefreshBackend.keeps_memory clock, RefreshBackend.keeps_remote p clock'⟩
  obtain ⟨hanswers, hafter⟩ := Run.simulates hstart fun m hm w' h =>
    agrees_step hmade hsecs hhasher (hsteps _ (Run.call_mem hm)) m.before w' h (hdate m hm)
  refine ⟨hanswers, fun k => ?_⟩
  have hworlds := hafter k
  simp only [keysAfter, afterSteps]
  generalize Run.after (ServiceStep.apply a) steps inMemory k = w at hworlds ⊢
  generalize Run.after (ServiceStep.apply a) steps onServer k = w' at hworlds ⊢
  cases hworlds with
  | intro _ h => exact h.memory.live_eq h.server

/-- A secret is issued and traded, with a wait between, and a third call names an owner without a
name. -/
theorem interchangeable_traded :
    let g : TokenEngine Entropy Backends :=
      ⟨.plain ⟨"gatehouse", "api", .ofSecs 300, List.replicate 32 7⟩, Backends.refreshStore,
        .ofSecs 60, 32⟩
    let a : AuthService Entropy Backends := ⟨Backends.credentialRepo, .argon2, g⟩
    let inMemory : World Entropy Backends :=
      ⟨⟨0⟩, { word := 1 }, .memory (.startingAt 5), .memory default⟩
    let onServer : World Entropy Backends :=
      ⟨⟨0⟩, { word := 1 }, .remote "gatehouse" { db := .startingAt 8 }, .memory default⟩
    let steps : List (ServiceStep Entropy) := [.call (.issue ⟨"ada"⟩), .wait 59999,
      .call (.rotate ⟨"bIKlYsuAjRDWMr6JyFE-v2ySnzTd-oyfY8mWDvbjSKM"⟩ (some ⟨"ada"⟩)),
      .call (.rotate ⟨"bIKlYsuAjRDWMr6JyFE-v2ySnzTd-oyfY8mWDvbjSKM"⟩ (some ⟨""⟩)),
      .request ⟨"GET", "/api/v1/whoami", [], []⟩]
    (a.history inMemory steps).map Moment.answer = (a.history onServer steps).map Moment.answer ∧
      ∀ k, a.keysAfter onServer steps k =
        (a.keysAfter inMemory steps k).map fun hex => "gatehouse" ++ ":" ++ hex := by
  intro g a inMemory onServer steps
  exact interchangeable
    (c := ⟨⟨"gatehouse", "api", .ofSecs 300, List.replicate 32 7⟩, .ofSecs 60, 32⟩)
    (show Instant.inCalendar (Instant.mk 0).secs = true by decide) rfl rfl
    (PasswordHasher.isBlind_argon2With _) "gatehouse" (.memory default) (Entropy.mk 1 false)
    (show Instant.inCalendar (Instant.mk 0).secs = true by decide) 5 8
    (show ∀ s ∈ steps, s.inCalendar = true by decide) (by decide +kernel)

end AuthService
end Gatehouse
