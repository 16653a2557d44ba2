import Gatehouse.KeyServer.Link
import Gatehouse.Refresh.Store

/-!
# Gatehouse.Refresh.Remote

Refresh records on a key server, each under a key of its own made of a prefix and the digest. The
server lets records expire, in whole seconds, and keeps only the second of their issue.
-/

namespace Gatehouse.RemoteStore

open KeyServer

def key (keyPrefix : String) (d : SecretDigest) : String := keyPrefix ++ ":" ++ d.hex

def ask {α : Type} (read : Reply → Option α) (r : Request) (l : Link) :
    Except StoreError α × Link :=
  match l.send r with
  | (none, l) => (.error (.failed .timedOut), l)
  | (some reply, l) =>
    match read reply with
    | none => (.error (.failed .refused), l)
    | some a => (.ok a, l)

def put (keyPrefix : String) (d : SecretDigest) (r : RefreshRecord) (ttl : Span) (l : Link) :
    Except StoreError Unit × Link :=
  match ask Reply.int? (.put (key keyPrefix d) r.owner.text r.issuedAt.secs ttl.lifetimeSecs) l with
  | (.error e, l) => (.error e, l)
  | (.ok 1, l) => (.ok (), l)
  | (.ok (-3), l) => (.error .alreadyExists, l)
  | (.ok status, l) => (.error (.failed (.putStatus status)), l)

/-- The record that the two fields of a key tell of: one without owner is no record. -/
def recordOf : Option String × Option Int → Except StoreError RefreshRecord
  | (some owner, issuedAt) =>
    if owner = "" then .error .notFound
    else
      match issuedAt.bind Instant.ofSecs? with
      | none => .error (.failed .noIssueTime)
      | some t => .ok ⟨⟨owner⟩, t⟩
  | (none, _) => .error .notFound

def get (keyPrefix : String) (d : SecretDigest) (l : Link) :
    Except StoreError RefreshRecord × Link :=
  let fields := Reply.pair? (Reply.optional? Reply.text?) (Reply.optional? Reply.int?)
  match ask fields (.read (key keyPrefix d)) l with
  | (.error e, l) => (.error e, l)
  | (.ok found, l) => (recordOf found, l)

def delete (keyPrefix : String) (d : SecretDigest) (l : Link) : Except StoreError Unit × Link :=
  ask Reply.done? (.delete (key keyPrefix d)) l

/-- An expected owner goes to the server as a text, and no owner as the empty text. -/
def rotate (keyPrefix : String) (old new : SecretDigest) (expected : Option OwnerId)
    (issuedAt : Instant) (ttl : Span) (l : Link) : Except StoreError RefreshRecord × Link :=
  let request := Request.rotate (key keyPrefix old) (key keyPrefix new)
    ((expected.map OwnerId.text).getD "") issuedAt.secs ttl.lifetimeSecs
  match ask (Reply.pair? Reply.int? Reply.text?) request l with
  | (.error e, l) => (.error e, l)
  | (.ok (1, owner), l) => (.ok ⟨⟨owner⟩, issuedAt⟩, l)
  | (.ok (-1, _), l) => (.error .notFound, l)
  | (.ok (-2, _), l) => (.error .ownerMismatch, l)
  | (.ok (-3, _), l) => (.error .alreadyExists, l)
  | (.ok (status, _), l) => (.error (.failed (.rotateStatus status)), l)

end Gatehouse.RemoteStore

namespace Gatehouse

def RefreshStore.remote (keyPrefix : String) : RefreshStore KeyServer.Link where
  put := RemoteStore.put keyPrefix
  get := RemoteStore.get keyPrefix
  delete := RemoteStore.delete keyPrefix
  rotate := RemoteStore.rotate keyPrefix

end Gatehouse
