import Gatehouse.Accounts.Service
import Gatehouse.Http.Reply
import Gatehouse.Http.Request
import Gatehouse.Json.Reader
import Gatehouse.Json.Record

/-!
# Gatehouse.Http.Service

The routes under `/api/v1`. A request finds its route by path and method, gives its input in a JSON
body or in a header, and is answered by the service, if that comes to an end before the deadline.
-/

namespace Gatehouse.Http

/-- What the routes ask of a service; the answer is `none` if it does not come before the deadline.
-/
structure AuthActions (τ σ : Type) where
  signup : String → String → World τ σ → Option (Except AuthError OwnerId) × World τ σ
  login : String → String → World τ σ → Option (Except AuthError IssuedTokens) × World τ σ
  refresh : RefreshSecret → Option OwnerId → World τ σ →
    Option (Except AuthError IssuedTokens) × World τ σ
  revoke : RefreshSecret → World τ σ → Option (Except AuthError Unit) × World τ σ
  verifyAccess : String → World τ σ → Except AuthError OwnerId × World τ σ

namespace AuthActions

variable {τ σ : Type}

def ofService [ByteSource τ] (a : AuthService τ σ) : AuthActions τ σ where
  signup username password w := let (r, w) := a.signup username password w; (some r, w)
  login username password w := let (r, w) := a.login username password w; (some r, w)
  refresh secret expected w := let (r, w) := a.refresh secret expected w; (some r, w)
  revoke secret w := let (r, w) := a.revoke secret w; (some r, w)
  verifyAccess := a.verifyAccess

/-- A service that never comes to an end, and takes no access token for good. -/
def stalled : AuthActions τ σ where
  signup _ _ w := (none, w)
  login _ _ w := (none, w)
  refresh _ _ w := (none, w)
  revoke _ w := (none, w)
  verifyAccess _ w := (.error (.token .invalid), w)

end AuthActions

inductive Route where
  | signup
  | login
  | refresh
  | revoke
  | whoami
  deriving DecidableEq

namespace Route

def method : Route → String
  | .whoami => "GET"
  | _ => "POST"

def ofName? : String → Option Route
  | "signup" => some .signup
  | "login" => some .login
  | "refresh" => some .refresh
  | "revoke" => some .revoke
  | "whoami" => some .whoami
  | _ => none

/-- The route of a path, at the end of which one slash may stand. -/
def ofSegments? : List String → Option Route
  | ["api", "v1", name] => ofName? name
  | ["api", "v1", name, ""] => ofName? name
  | _ => none

def find (r : Request) : Except Refusal Route :=
  match ofSegments? r.segments with
  | none => .error .noRoute
  | some route => if r.method = route.method then .ok route else .error .method

end Route

/-! ## Input -/

def longestBody : Nat := 16 * 1024

/-- The JSON value of a body whose length is given and that is not said to be anything else. -/
def jsonBody? (r : Request) : Option Json := do
  let length ← r.contentLength?
  if length ≤ longestBody ∧ r.admitsJson then Json.readBytes? r.body else none

def readCredentials? (v : Json) : Option (String × String) :=
  match Json.fields? ["username", "password"] 0 v with
  | some [username, password] => do
    some (← Json.requiredText? username, ← Json.requiredText? password)
  | _ => none

/-- An empty owner stands for none. -/
def readRefresh? (v : Json) : Option (RefreshSecret × Option OwnerId) :=
  match Json.fields? ["refresh_token", "expected_owner_id"] 1 v with
  | some [secret, expected] => do
    let secret ← Json.requiredText? secret
    let expected ← Json.optionalText? expected
    some (⟨secret⟩, (expected.filter (· ≠ "")).map OwnerId.mk)
  | _ => none

def readRevoke? (v : Json) : Option RefreshSecret :=
  match Json.fields? ["refresh_token"] 0 v with
  | some [secret] => (Json.requiredText? secret).map RefreshSecret.mk
  | _ => none

def afterMark? (mark s : String) : Option String :=
  if mark.toList.isPrefixOf s.toList then some (String.ofList (s.toList.drop mark.length)) else none

def bearer (r : Request) : Except Refusal String :=
  match r.header? "authorization" with
  | none => .error .missingHeader
  | some value =>
    match Request.plainText? value with
    | none => .error .garbledHeader
    | some text =>
      match afterMark? "Bearer " text with
      | none => .error (.code .invalidToken)
      | some token => .ok token

/-! ## Answers -/

variable {τ σ : Type}

def answer {α : Type} (data : α → Json) : Option (Except AuthError α) → Reply
  | none => Refusal.reply (.code .timeout)
  | some (.error e) => Refusal.reply (.code (.ofAuth e))
  | some (.ok a) => .ok (data a)

def withBody {α : Type} (r : Request) (read? : Json → Option α)
    (f : α → World τ σ → Reply × World τ σ) (w : World τ σ) : Reply × World τ σ :=
  match (jsonBody? r).bind read? with
  | none => (Refusal.body.reply, w)
  | some a => f a w

/-- The clock that a reply is told by is that of the world which the action has left. In the actions
of a service it has not moved: a request takes no time. -/
def serveRoute (a : AuthActions τ σ) (r : Request) (w : World τ σ) : Route → Reply × World τ σ
  | .signup =>
    withBody r readCredentials? (fun (username, password) w =>
      let (result, w) := a.signup username password w
      (answer ownerData result, w)) w
  | .login =>
    withBody r readCredentials? (fun (username, password) w =>
      let (result, w) := a.login username password w
      (answer (tokensData w.now) result, w)) w
  | .refresh =>
    withBody r readRefresh? (fun (secret, expected) w =>
      let (result, w) := a.refresh secret expected w
      (answer (tokensData w.now) result, w)) w
  | .revoke =>
    withBody r readRevoke? (fun secret w =>
      let (result, w) := a.revoke secret w
      (answer (fun _ => revokedData) result, w)) w
  | .whoami =>
    match bearer r with
    | .error refusal => (refusal.reply, w)
    | .ok token =>
      let (result, w) := a.verifyAccess token w
      (answer ownerData (some result), w)

def serve (a : AuthActions τ σ) (r : Request) (w : World τ σ) : Reply × World τ σ :=
  match Route.find r with
  | .error refusal => (refusal.reply, w)
  | .ok route => serveRoute a r w route

end Gatehouse.Http
