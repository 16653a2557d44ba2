import Gatehouse.Proofs.Http.Replies

/-!
# Gatehouse.Proofs.Http.Deadline

Requests that are not answered before the deadline. The reply to one that asks for an action tells
of the deadline and of nothing that the action has come to (`timeout_of_overdue`), and no request
succeeds but one that asks who its sender is (`status_of_overdue`), which has no deadline. A service
that is stalled changes nothing, and takes nobody for a sender (`serve_stalled`).
-/

namespace Gatehouse.Http

inductive Request.Acts (r : Request) : Prop
  | signsUp {username password : String} (h : r.SignsUp username password)
  | logsIn {username password : String} (h : r.LogsIn username password)
  | refreshes {secret : RefreshSecret} {expected : Option OwnerId} (h : r.Refreshes secret expected)
  | revokes {secret : RefreshSecret} (h : r.Revokes secret)

variable {τ σ : Type}

/-- No action comes to an end before its deadline, whatever it has done by then. -/
structure AuthActions.Overdue (a : AuthActions τ σ) : Prop where
  signup : ∀ username password w, (a.signup username password w).1 = none
  login : ∀ username password w, (a.login username password w).1 = none
  refresh : ∀ secret expected w, (a.refresh secret expected w).1 = none
  revoke : ∀ secret w, (a.revoke secret w).1 = none

theorem AuthActions.overdue_stalled : (stalled : AuthActions τ σ).Overdue where
  signup _ _ _ := rfl
  login _ _ _ := rfl
  refresh _ _ _ := rfl
  revoke _ _ := rfl

section Overdue

variable {a : AuthActions τ σ} {r : Request} (ha : a.Overdue)
include ha

theorem timeout_of_overdue (hr : r.Acts) (w : World τ σ) :
    (serve a r w).1 = .ofCode .timeout := by
  cases hr with
  | signsUp h => rw [serve_signup a w h, ha.signup, answer, Refusal.reply]
  | logsIn h => rw [serve_login a w h, ha.login, answer, Refusal.reply]
  | refreshes h => rw [serve_refresh a w h, ha.refresh, answer, Refusal.reply]
  | revokes h => rw [serve_revoke a w h, ha.revoke, answer, Refusal.reply]

theorem status_of_overdue (hr : Route.find r ≠ .ok .whoami) (w : World τ σ) :
    (serve a r w).1.status ≠ 200 := by
  have hserved := served a r w
  generalize serve a r w = result at hserved
  cases hserved with
  | refused => exact Refusal.status_ne _
  | signup username password => rw [ha.signup]; exact Refusal.status_ne _
  | login username password => rw [ha.login]; exact Refusal.status_ne _
  | refresh secret expected => rw [ha.refresh]; exact Refusal.status_ne _
  | revoke secret => rw [ha.revoke]; exact Refusal.status_ne _
  | whoami token hroute => exact absurd hroute hr

end Overdue

theorem serve_stalled (r : Request) (w : World τ σ) :
    (serve .stalled r w).2 = w ∧ (serve .stalled r w).1.status ≠ 200 := by
  have hserved := served .stalled r w
  generalize serve .stalled r w = result at hserved
  cases hserved with
  | refused => exact ⟨rfl, Refusal.status_ne _⟩
  | _ => exact ⟨rfl, Refusal.status_ne _⟩

end Gatehouse.Http
