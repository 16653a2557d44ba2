import Gatehouse.Accounts.Error
import Gatehouse.Json.Writer
import Gatehouse.Token.Engine

/-!
# Gatehouse.Http.Reply

What clients are answered. Every body is an envelope with the three members `success`, `data` and
`error`. A failure shows its class and nothing of its cause.
-/

namespace Gatehouse.Http

inductive ApiCode where
  | invalidCredentials
  | usernameTaken
  | invalidRequest
  | invalidToken
  | tokenExpired
  | timeout
  | internalError
  deriving DecidableEq

namespace ApiCode

def name : ApiCode → String
  | .invalidCredentials => "InvalidCredentials"
  | .usernameTaken => "UsernameTaken"
  | .invalidRequest => "InvalidRequest"
  | .invalidToken => "InvalidToken"
  | .tokenExpired => "TokenExpired"
  | .timeout => "Timeout"
  | .internalError => "InternalError"

def message : ApiCode → String
  | .invalidCredentials => "Invalid username or password"
  | .usernameTaken => "Username already taken"
  | .invalidRequest => "Malformed or invalid request"
  | .invalidToken => "Token is not valid"
  | .tokenExpired => "Token has expired"
  | .timeout => "Request timed out"
  | .internalError => "Internal error"

def status : ApiCode → Nat
  | .invalidCredentials => 401
  | .invalidToken => 401
  | .tokenExpired => 401
  | .usernameTaken => 409
  | .invalidRequest => 400
  | .timeout => 504
  | .internalError => 500

def all : List ApiCode :=
  [.invalidCredentials, .usernameTaken, .invalidRequest, .invalidToken, .tokenExpired, .timeout,
    .internalError]

def ofName? (s : String) : Option ApiCode := all.find? (·.name = s)

def ofToken : TokenError → ApiCode
  | .invalid => .invalidToken
  | .expired => .tokenExpired
  | _ => .internalError

def ofAuth : AuthError → ApiCode
  | .invalidCredentials => .invalidCredentials
  | .usernameTaken => .usernameTaken
  | .invalidInput _ => .invalidRequest
  | .token e => ofToken e
  | _ => .internalError

end ApiCode

structure Reply where
  status : Nat
  contentType : String := "application/json"
  body : String
  deriving DecidableEq

/-- Why a request is refused before a reply could be made. -/
inductive Refusal where
  | noRoute
  | method
  | missingHeader
  /-- The header that has to carry the token has more than plain characters. -/
  | garbledHeader
  | body
  | code (c : ApiCode)
  deriving DecidableEq

namespace Reply

def ok (data : Json) : Reply where
  status := 200
  body := (Json.object [("success", .bool true), ("data", data), ("error", .null)]).render

def error (status : Nat) (code : ApiCode) (message : String) : Reply where
  status
  body := (Json.object [("success", .bool false), ("data", .null),
    ("error", .object [("code", .text code.name), ("message", .text message)])]).render

def ofCode (c : ApiCode) : Reply := error c.status c c.message

end Reply

def Refusal.reply : Refusal → Reply
  | .noRoute => .error 404 .invalidRequest "no such route"
  | .method => .error 405 .invalidRequest "method not allowed"
  | .missingHeader => .ofCode .invalidToken
  | .garbledHeader => .ofCode .internalError
  | .body => .ofCode .invalidRequest
  | .code c => .ofCode c

/-- The whole seconds from `now` to a later instant. -/
def secondsUntil (now t : Instant) : Nat := (Int.tdiv (t.nanos - now.nanos) Span.second).toNat

def ownerData (owner : OwnerId) : Json := .object [("owner_id", .text owner.text)]

def tokensData (now : Instant) (t : IssuedTokens) : Json :=
  .object [("access_token", .text t.accessToken), ("refresh_token", .text t.refreshToken.text),
    ("access_expires_in", .ofInt (secondsUntil now t.accessExpiresAt)),
    ("refresh_expires_in", .ofInt (secondsUntil now t.refreshExpiresAt)),
    ("owner_id", .text t.owner.text)]

def revokedData : Json := .object [("status", .text "revoked")]

end Gatehouse.Http
