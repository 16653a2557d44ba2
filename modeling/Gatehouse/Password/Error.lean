/-!
# Gatehouse.Password.Error

Why a stored password hash cannot be read or used.
-/

namespace Gatehouse

inductive ValueFault where
  | badCharacter (c : Char)
  | badFormat
  | malformed
  | tooLong
  | tooShort
  deriving DecidableEq

inductive HashFault where
  | algorithm
  | base64Encoding
  | base64Length
  | outputTooShort (fewest : Nat)
  | parameterName
  | parameterValue (fault : ValueFault)
  | tooManyParameters
  | missingField
  | trailingCharacters
  | salt (fault : ValueFault)
  | version
  deriving DecidableEq

inductive HasherError where
  | unreadable (fault : HashFault)
  | unusable (fault : HashFault)
  /-- A failure that another part of the system reports. -/
  | reported (text : String)
  deriving DecidableEq

def ValueFault.message : ValueFault → String
  | .badCharacter c => "contains invalid character: '" ++ c.toString ++ "'"
  | .badFormat => "value format is invalid"
  | .malformed => "value malformed"
  | .tooLong => "value to long"
  | .tooShort => "value to short"

def HashFault.message : HashFault → String
  | .algorithm => "unsupported algorithm"
  | .base64Encoding => "invalid Base64 encoding"
  | .base64Length => "invalid Base64 length"
  | .outputTooShort fewest => s!"output size too short, expected at least {fewest} bytes"
  | .parameterName => "invalid parameter name"
  | .parameterValue fault => "invalid parameter value: " ++ fault.message
  | .tooManyParameters => "maximum number of parameters reached"
  | .missingField => "password hash string missing field"
  | .trailingCharacters => "password hash string contains trailing characters"
  | .salt fault => "salt invalid: " ++ fault.message
  | .version => "invalid algorithm version"

def HasherError.message : HasherError → String
  | .unreadable fault => "invalid PHC hash: " ++ fault.message
  | .unusable fault => "verify error: " ++ fault.message
  | .reported text => text

end Gatehouse
