import Gatehouse.Password.Error
import Gatehouse.Token.Error

/-!
# Gatehouse.Accounts.Error

Why an operation on accounts fails.
-/

namespace Gatehouse

inductive RepoError where
  | usernameTaken
  | failed (text : String)
  deriving DecidableEq

inductive InputFault where
  | shortUsername
  | shortPassword
  | reported (text : String)
  deriving DecidableEq

inductive AuthError where
  | invalidCredentials
  | usernameTaken
  | invalidInput (fault : InputFault)
  | token (e : TokenError)
  | store (text : String)
  | hasher (e : HasherError)
  /-- The operation came to no end: no identifier could be drawn. -/
  | aborted
  deriving DecidableEq

def RepoError.message : RepoError → String
  | .usernameTaken => "username already taken"
  | .failed text => "store error: " ++ text

def InputFault.message : InputFault → String
  | .shortUsername => "username too short"
  | .shortPassword => "password too short"
  | .reported text => text

def AuthError.message : AuthError → String
  | .invalidCredentials => "invalid credentials"
  | .usernameTaken => "username already taken"
  | .invalidInput fault => "invalid input: " ++ fault.message
  | .token e => e.message
  | .store text => "store error: " ++ text
  | .hasher e => "internal error: " ++ e.message
  | .aborted => "aborted"

def AuthError.ofRepo : RepoError → AuthError
  | .usernameTaken => .usernameTaken
  | .failed text => .store text

end Gatehouse
