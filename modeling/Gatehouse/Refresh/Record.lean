import Gatehouse.Owner
import Gatehouse.Secret
import Gatehouse.Time.Instant

/-!
# Gatehouse.Refresh.Record

What is kept of a refresh secret, and why a store of such records refuses a call.
-/

namespace Gatehouse

structure RefreshRecord where
  owner : OwnerId
  issuedAt : Instant
  deriving DecidableEq, Inhabited

inductive StoreFault where
  /-- The store's clock cannot tell the end of the record's lifetime. -/
  | deadlineOutOfRange
  /-- The server refused the call, or its answer cannot be read. -/
  | refused
  | timedOut
  | putStatus (status : Int)
  | rotateStatus (status : Int)
  | noIssueTime
  | reported (text : String)
  deriving DecidableEq

inductive StoreError where
  | notFound
  | ownerMismatch
  | alreadyExists
  | failed (fault : StoreFault)
  deriving DecidableEq

def StoreFault.message : StoreFault → String
  | .deadlineOutOfRange => "ttl is out of range"
  | .refused => "(redis client error)"
  | .timedOut => "redis call timed out"
  | .putStatus status => s!"unknown put script status {status}"
  | .rotateStatus status => s!"unknown rotate script status {status}"
  | .noIssueTime => "refresh record has no valid issued_at"
  | .reported text => text

def StoreError.message : StoreError → String
  | .notFound => "refresh record not found"
  | .ownerMismatch => "refresh record owner mismatch"
  | .alreadyExists => "refresh record already exists"
  | .failed fault => "store error: " ++ fault.message

/-- The whole seconds of a lifetime, and one second at least. -/
def Span.lifetimeSecs (ttl : Span) : Nat := max 1 ttl.secs

end Gatehouse
