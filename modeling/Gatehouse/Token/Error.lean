import Gatehouse.Secret

/-!
# Gatehouse.Token.Error

Why a token operation fails. A client learns no more than the class of the failure; the causes below
it are for the operator.
-/

namespace Gatehouse

inductive GenerationFault where
  | emptyOwner
  | accessExpiryOutOfRange
  | refreshExpiryOutOfRange
  | secret (e : SecretError)
  | digestCollision
  | reported (text : String)
  deriving DecidableEq

inductive Lifetime where
  | access
  | refresh
  deriving DecidableEq

inductive ConfigFault where
  | shortSigningKey (got : Nat)
  | shortSecret (got : Nat)
  | zero (which : Lifetime)
  /-- The span is longer than any that can be added to an instant. -/
  | tooLong (which : Lifetime)
  /-- The span leads out of the calendar. -/
  | outOfRange (which : Lifetime)
  | reported (text : String)
  deriving DecidableEq

inductive TokenError where
  | invalid
  | expired
  | generation (cause : GenerationFault)
  | storage (text : String)
  | config (cause : ConfigFault)
  /-- The operation came to no end: no identifier could be drawn, or the clock stands before
  1970. -/
  | aborted
  deriving DecidableEq

def GenerationFault.message : GenerationFault → String
  | .emptyOwner => "empty owner id"
  | .accessExpiryOutOfRange => "access expiry is out of range"
  | .refreshExpiryOutOfRange => "refresh expiry is out of range"
  | .secret e => e.message
  | .digestCollision => "refresh digest collision"
  | .reported text => text

def Lifetime.name : Lifetime → String
  | .access => "access ttl"
  | .refresh => "refresh ttl"

def ConfigFault.message : ConfigFault → String
  | .shortSigningKey got => s!"signing key must be at least 32 bytes, got {got}"
  | .shortSecret got => s!"refresh secret must be at least 32 bytes, got {got}"
  | .zero which => which.name ++ " must be positive"
  | .tooLong which => which.name ++ ": Source duration value is out of range for the target type"
  | .outOfRange which => which.name ++ " is out of range"
  | .reported text => text

def TokenError.message : TokenError → String
  | .invalid => "token invalid"
  | .expired => "token expired"
  | .generation cause => "token generation failed: " ++ cause.message
  | .storage text => "storage error: " ++ text
  | .config cause => "invalid token configuration: " ++ cause.message
  | .aborted => "aborted"

end Gatehouse
