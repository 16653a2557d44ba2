import Gatehouse.Text.Quoted
import Gatehouse.Text.Utf8
import Gatehouse.Bytes.Base64
import Gatehouse.Hash.Sha256
import Gatehouse.Entropy

/-!
# Gatehouse.Secret

Refresh secrets and their digests. A secret is drawn from the random source and goes to the client
only; the service keeps its digest, under which the record of the secret is filed.
-/

namespace Gatehouse

/-- The SHA-256 digest of a secret, in hexadecimal. -/
structure SecretDigest where
  hex : String
  deriving DecidableEq, Inhabited

structure RefreshSecret where
  text : String
  deriving DecidableEq, Inhabited

inductive SecretError where
  | tooShort (got : Nat)
  | noEntropy
  deriving DecidableEq

namespace SecretError

def message : SecretError → String
  | .tooShort got => s!"secret must carry at least 32 bytes, got {got}"
  | .noEntropy => "entropy source failure: Input/output error"

end SecretError

namespace SecretDigest

def short (d : SecretDigest) : String := String.ofList (d.hex.toList.take 8)

def debugText (d : SecretDigest) : String := "RefreshDigest(" ++ Text.quoted d.hex ++ ")"

end SecretDigest

namespace RefreshSecret

def fewestBytes : Nat := 32

def digest (s : RefreshSecret) : SecretDigest := ⟨Hex.encode (Sha256.hash (Utf8.encode s.text))⟩

/-- The form that diagnostics show, which tells nothing of the secret. -/
def debugText (_ : RefreshSecret) : String := "RawRefreshToken(<redacted>)"

section

variable {τ : Type} [ByteSource τ] {n : Nat} {e e' : τ}

/-- A secret of `n` random bytes. A length that is too short draws nothing. -/
def draw (n : Nat) (e : τ) : Except SecretError RefreshSecret × τ :=
  if n < fewestBytes then (.error (.tooShort n), e)
  else
    match ByteSource.draw n e with
    | (some bytes, e) => (.ok ⟨Base64.url.encode bytes⟩, e)
    | (none, e) => (.error .noEntropy, e)

theorem draw_short (hn : n < fewestBytes) : draw n e = (.error (.tooShort n), e) := if_pos hn

theorem draw_some (hn : fewestBytes ≤ n) {bytes : List UInt8}
    (h : ByteSource.draw n e = (some bytes, e')) :
    draw n e = (.ok ⟨Base64.url.encode bytes⟩, e') := by
  rw [draw, if_neg (Nat.not_lt.mpr hn), h]

theorem draw_none (hn : fewestBytes ≤ n) (h : ByteSource.draw n e = (none, e')) :
    draw n e = (.error .noEntropy, e') := by
  rw [draw, if_neg (Nat.not_lt.mpr hn), h]

end

end RefreshSecret
end Gatehouse
