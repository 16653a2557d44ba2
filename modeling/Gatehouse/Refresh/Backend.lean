import Gatehouse.Refresh.Memory
import Gatehouse.Refresh.Remote

/-!
# Gatehouse.Refresh.Backend

The two places that can hold refresh records, behind one interface.
-/

namespace Gatehouse

inductive RefreshBackend where
  | memory (s : MemoryStore)
  | remote (keyPrefix : String) (l : KeyServer.Link)

namespace RefreshBackend

def inMemory {α : Type} (r : α × MemoryStore) : α × RefreshBackend := (r.1, .memory r.2)

def onServer {α : Type} (keyPrefix : String) (r : α × KeyServer.Link) : α × RefreshBackend :=
  (r.1, .remote keyPrefix r.2)

def put (d : SecretDigest) (r : RefreshRecord) (ttl : Span) :
    RefreshBackend → Except StoreError Unit × RefreshBackend
  | .memory s => inMemory (s.put d r ttl)
  | .remote p l => onServer p (RemoteStore.put p d r ttl l)

def get (d : SecretDigest) : RefreshBackend → Except StoreError RefreshRecord × RefreshBackend
  | .memory s => inMemory (s.get d)
  | .remote p l => onServer p (RemoteStore.get p d l)

def delete (d : SecretDigest) : RefreshBackend → Except StoreError Unit × RefreshBackend
  | .memory s => inMemory (s.delete d)
  | .remote p l => onServer p (RemoteStore.delete p d l)

def rotate (old new : SecretDigest) (expected : Option OwnerId) (issuedAt : Instant) (ttl : Span) :
    RefreshBackend → Except StoreError RefreshRecord × RefreshBackend
  | .memory s => inMemory (s.rotate old new expected issuedAt ttl)
  | .remote p l => onServer p (RemoteStore.rotate p old new expected issuedAt ttl l)

def advance (span : Span) : RefreshBackend → RefreshBackend
  | .memory s => .memory (s.advance span)
  | .remote p l => .remote p (l.advance span)

/-- The keys of the records that are there, in order: digests in memory, whole keys on a server. -/
def live (b : RefreshBackend) : List String :=
  let keys := match b with
    | .memory s => s.digests.map SecretDigest.hex
    | .remote _ l => l.db.live.map Prod.fst
  keys.mergeSort fun a b => !(decide (b < a))

end RefreshBackend

def RefreshStore.backend : RefreshStore RefreshBackend where
  put := RefreshBackend.put
  get := RefreshBackend.get
  delete := RefreshBackend.delete
  rotate := RefreshBackend.rotate

end Gatehouse
