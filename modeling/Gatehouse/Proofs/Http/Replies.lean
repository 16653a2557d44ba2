import Gatehouse.Proofs.Http.Bodies
import Gatehouse.Proofs.Json.Writer

/-!
# Gatehouse.Proofs.Http.Replies

What becomes of a request: it is refused as it stands, and then nothing is asked of the service, or
one action is (`Served`). Whatever the service answers, the body of the reply is an envelope that
agrees with the status (`coherent_serve`).
-/

namespace Gatehouse.Http

/-! ## What is asked of the service -/

/-- The request asks who its sender is, with a header that has more than plain characters. -/
structure Request.Garbled (r : Request) : Prop where
  route : Route.find r = .ok .whoami
  header : bearer r = .error .garbledHeader

inductive Refused (r : Request) : Refusal → Prop where
  | noRoute : Refused r .noRoute
  | method : Refused r .method
  | body : Refused r .body
  | missingHeader : Refused r .missingHeader
  | noBearer : Refused r (.code .invalidToken)
  | garbledHeader (h : r.Garbled) : Refused r .garbledHeader

section Served

variable {τ σ : Type} (a : AuthActions τ σ) (r : Request) (w : World τ σ)

/-- The replies to the request, with the worlds that they leave. -/
inductive Served : Reply × World τ σ → Prop where
  | refused {refusal : Refusal} (h : Refused r refusal) : Served (refusal.reply, w)
  | signup (username password : String) (h : r.SignsUp username password) : Served
      (answer ownerData (a.signup username password w).1, (a.signup username password w).2)
  | login (username password : String) (h : r.LogsIn username password) : Served
      (answer (tokensData (a.login username password w).2.now) (a.login username password w).1,
        (a.login username password w).2)
  | refresh (secret : RefreshSecret) (expected : Option OwnerId)
      (h : r.Refreshes secret expected) : Served
      (answer (tokensData (a.refresh secret expected w).2.now) (a.refresh secret expected w).1,
        (a.refresh secret expected w).2)
  | revoke (secret : RefreshSecret) (h : r.Revokes secret) : Served
      (answer (fun _ => revokedData) (a.revoke secret w).1, (a.revoke secret w).2)
  | whoami (token : String) (h : Route.find r = .ok .whoami) (htoken : bearer r = .ok token) :
      Served (answer ownerData (some (a.verifyAccess token w).1), (a.verifyAccess token w).2)

variable {a r w}

theorem served_withBody {α : Type} {read? : Json → Option α}
    {f : α → World τ σ → Reply × World τ σ}
    (hf : ∀ x, (jsonBody? r).bind read? = some x → Served a r w (f x w)) :
    Served a r w (withBody r read? f w) := by
  unfold withBody
  split
  · exact .refused .body
  · rename_i hread
    exact hf _ hread

theorem bearer_error {refusal : Refusal} (h : bearer r = .error refusal) :
    refusal = .missingHeader ∨ refusal = .garbledHeader ∨ refusal = .code .invalidToken := by
  unfold bearer at h
  split at h
  · exact .inl (Except.error.inj h).symm
  · split at h
    · exact .inr (.inl (Except.error.inj h).symm)
    · split at h
      · exact .inr (.inr (Except.error.inj h).symm)
      · cases h

theorem refused_of_bearer {refusal : Refusal} (hroute : Route.find r = .ok .whoami)
    (h : bearer r = .error refusal) : Refused r refusal := by
  rcases bearer_error h with rfl | rfl | rfl
  · exact .missingHeader
  · exact .garbledHeader ⟨hroute, h⟩
  · exact .noBearer

theorem refused_of_find {refusal : Refusal} (h : Route.find r = .error refusal) :
    Refused r refusal := by
  unfold Route.find at h
  split at h
  · cases h
    exact .noRoute
  · split at h
    · cases h
    · cases h
      exact .method

/-- A request is refused, or it comes to one action of the service. -/
theorem served (a : AuthActions τ σ) (r : Request) (w : World τ σ) :
    Served a r w (serve a r w) := by
  unfold serve
  split
  · rename_i refusal hfind
    exact .refused (refused_of_find hfind)
  · rename_i route hfind
    cases route with
    | signup =>
      simp only [serveRoute]
      refine served_withBody fun input hinput => ?_
      exact .signup input.1 input.2 ⟨hfind, hinput⟩
    | login =>
      simp only [serveRoute]
      refine served_withBody fun input hinput => ?_
      exact .login input.1 input.2 ⟨hfind, hinput⟩
    | refresh =>
      simp only [serveRoute]
      refine served_withBody fun input hinput => ?_
      exact .refresh input.1 input.2 ⟨hfind, hinput⟩
    | revoke =>
      simp only [serveRoute]
      refine served_withBody fun secret hinput => ?_
      exact .revoke secret ⟨hfind, hinput⟩
    | whoami =>
      simp only [serveRoute]
      cases hbearer : bearer r with
      | error refusal => exact .refused (refused_of_bearer hfind hbearer)
      | ok token => exact .whoami token hfind hbearer

end Served

/-! ## The envelope -/

/-- The body is an envelope: with data and no error if the status is 200, and else with no data and
an error that has a code and a message. -/
structure Reply.Coherent (r : Reply) : Prop where
  ok : r.status = 200 → ∃ data : Json, data ≠ .null ∧ Json.read? r.body =
    some (.object [("success", .bool true), ("data", data), ("error", .null)])
  failed : r.status ≠ 200 → ∃ (code : ApiCode) (message : String), Json.read? r.body =
    some (.object [("success", .bool false), ("data", .null),
      ("error", .object [("code", .text code.name), ("message", .text message)])])

theorem coherent_ok {data : Json} (hdata : data ≠ .null) (h : data.Writable) :
    (Reply.ok data).Coherent where
  ok _ := ⟨data, hdata, Json.read?_render ⟨trivial, h, trivial, trivial⟩⟩
  failed hstatus := absurd rfl hstatus

theorem coherent_error {status : Nat} (hstatus : status ≠ 200) (code : ApiCode)
    (message : String) : (Reply.error status code message).Coherent where
  ok h := absurd h hstatus
  failed _ := ⟨code, message,
    Json.read?_render ⟨trivial, trivial, ⟨trivial, trivial, trivial⟩, trivial⟩⟩

theorem ApiCode.status_ne (c : ApiCode) : c.status ≠ 200 := by cases c <;> decide

theorem Refusal.status_ne (refusal : Refusal) : refusal.reply.status ≠ 200 := by
  cases refusal with
  | code c => exact c.status_ne
  | _ => decide

theorem coherent_refusal (refusal : Refusal) : refusal.reply.Coherent := by
  cases refusal with
  | noRoute => exact coherent_error (by decide) _ _
  | method => exact coherent_error (by decide) _ _
  | missingHeader => exact coherent_error (ApiCode.status_ne _) _ _
  | garbledHeader => exact coherent_error (ApiCode.status_ne _) _ _
  | body => exact coherent_error (ApiCode.status_ne _) _ _
  | code c => exact coherent_error c.status_ne _ _

theorem coherent_answer {α : Type} {data : α → Json} (hdata : ∀ x, data x ≠ .null)
    (h : ∀ x, (data x).Writable) (result : Option (Except AuthError α)) :
    (answer data result).Coherent := by
  match result with
  | none => exact coherent_refusal (.code .timeout)
  | some (.error e) => exact coherent_refusal (.code (.ofAuth e))
  | some (.ok x) => exact coherent_ok (hdata x) (h x)

theorem writable_ownerData (owner : OwnerId) : (ownerData owner).Writable := ⟨trivial, trivial⟩

theorem writable_tokensData (now : Instant) (t : IssuedTokens) : (tokensData now t).Writable :=
  ⟨trivial, trivial, Json.proper_ofInt _, Json.proper_ofInt _, trivial, trivial⟩

theorem writable_revokedData : revokedData.Writable := ⟨trivial, trivial⟩

/-- Every reply is an envelope that agrees with its status, whatever service is asked. -/
theorem coherent_serve {τ σ : Type} (a : AuthActions τ σ) (r : Request) (w : World τ σ) :
    (serve a r w).1.Coherent := by
  cases hserved : serve a r w with
  | mk reply w' =>
    have h := hserved ▸ served a r w
    cases h with
    | refused => exact coherent_refusal _
    | signup => exact coherent_answer (fun _ => Json.noConfusion) writable_ownerData _
    | login => exact coherent_answer (fun _ => Json.noConfusion) (writable_tokensData _) _
    | refresh => exact coherent_answer (fun _ => Json.noConfusion) (writable_tokensData _) _
    | revoke =>
      exact coherent_answer (fun _ => Json.noConfusion) (fun _ => writable_revokedData) _
    | whoami => exact coherent_answer (fun _ => Json.noConfusion) writable_ownerData _

end Gatehouse.Http
