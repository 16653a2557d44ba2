import Gatehouse.Refresh.Store
import Gatehouse.Table

/-!
# Gatehouse.Refresh.Memory

Refresh records in memory. Each is filed with a deadline on a clock that only moves forward; a
record whose deadline has come is dropped when the store is next used.
-/

namespace Gatehouse

structure FiledRecord where
  record : RefreshRecord
  deadline : Nat
  deriving DecidableEq, Inhabited

/-- The clock is in nanoseconds. -/
structure MemoryStore where
  clock : Nat
  entries : Table SecretDigest FiledRecord
  deriving Inhabited

namespace MemoryStore

def startingAt (clock : Nat) : MemoryStore := ⟨clock, .empty⟩

/-- The clock cannot tell a time from this many seconds on. -/
def secondsEnd : Nat := 0x8000000000000000

/-- When a lifetime that begins now is over, if the clock can tell. -/
def deadline? (s : MemoryStore) (ttl : Span) : Option Nat :=
  let deadline := s.clock + ttl.nanos
  if deadline / Span.second < secondsEnd then some deadline else none

def purged (s : MemoryStore) : MemoryStore :=
  { s with entries := s.entries.filter fun e => s.clock < e.2.deadline }

def file (s : MemoryStore) (d : SecretDigest) (r : RefreshRecord) (deadline : Nat) : MemoryStore :=
  { s with entries := s.entries.insert d ⟨r, deadline⟩ }

def remove (s : MemoryStore) (d : SecretDigest) : MemoryStore :=
  { s with entries := s.entries.erase d }

def digests (s : MemoryStore) : List SecretDigest := s.purged.entries.keys

def size (s : MemoryStore) : Nat := s.purged.entries.size

def isEmpty (s : MemoryStore) : Bool := s.size == 0

def advance (span : Span) (s : MemoryStore) : MemoryStore :=
  { s with clock := s.clock + span.nanos }

def put (d : SecretDigest) (r : RefreshRecord) (ttl : Span) (s : MemoryStore) :
    Except StoreError Unit × MemoryStore :=
  match s.deadline? ttl with
  | none => (.error (.failed .deadlineOutOfRange), s)
  | some deadline =>
    let s := s.purged
    if s.entries.contains d then (.error .alreadyExists, s) else (.ok (), s.file d r deadline)

def get (d : SecretDigest) (s : MemoryStore) : Except StoreError RefreshRecord × MemoryStore :=
  let s := s.purged
  match s.entries.get? d with
  | none => (.error .notFound, s)
  | some e => (.ok e.record, s)

def delete (d : SecretDigest) (s : MemoryStore) : Except StoreError Unit × MemoryStore :=
  (.ok (), s.remove d)

def rotate (old new : SecretDigest) (expected : Option OwnerId) (issuedAt : Instant) (ttl : Span)
    (s : MemoryStore) : Except StoreError RefreshRecord × MemoryStore :=
  match s.deadline? ttl with
  | none => (.error (.failed .deadlineOutOfRange), s)
  | some deadline =>
    let s := s.purged
    match s.entries.get? old with
    | none => (.error .notFound, s)
    | some e =>
      if expected.any (· ≠ e.record.owner) then (.error .ownerMismatch, s)
      else if s.entries.contains new then (.error .alreadyExists, s)
      else
        let r : RefreshRecord := ⟨e.record.owner, issuedAt⟩
        (.ok r, (s.file new r deadline).remove old)

end MemoryStore

def RefreshStore.memory : RefreshStore MemoryStore where
  put := MemoryStore.put
  get := MemoryStore.get
  delete := MemoryStore.delete
  rotate := MemoryStore.rotate

end Gatehouse
