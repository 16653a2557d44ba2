import Gatehouse.Access.Codec
import Gatehouse.Refresh.Store
import Gatehouse.Text.Quoted
import Gatehouse.World

/-!
# Gatehouse.Token.Engine

The life of tokens. `TokenEngine.issue` makes an access token and a refresh secret for an owner;
`TokenEngine.rotate` trades a refresh secret for a new pair, once; `TokenEngine.revoke` ends one.
The engine holds no state: what is left of a secret is its record in the store.
-/

namespace Gatehouse

structure TokenCodec (τ σ : Type) where
  sign : OwnerId → Instant → Operation τ σ TokenError SignedAccess
  verify : String → Operation τ σ TokenError OwnerId

def TokenCodec.plain {τ σ : Type} [ByteSource τ] (c : AccessCodec) : TokenCodec τ σ where
  sign owner now := World.onEntropy (c.sign owner now)
  verify token w := (c.verify token w.now, w)

structure TokenConfig where
  access : AccessConfig
  refreshTtl : Span
  secretBytes : Nat

structure IssuedTokens where
  owner : OwnerId
  accessToken : String
  refreshToken : RefreshSecret
  accessExpiresAt : Instant
  refreshExpiresAt : Instant
  deriving DecidableEq, Inhabited

def IssuedTokens.debugText (t : IssuedTokens) : String :=
  "IssuedTokens \x7b owner_id: " ++ t.owner.debugText ++
    ", access_token: AccessToken(<redacted>)" ++
    ", refresh_token: " ++ t.refreshToken.debugText ++
    ", access_expires_at: " ++ t.accessExpiresAt.text ++
    ", refresh_expires_at: " ++ t.refreshExpiresAt.text ++ " \x7d"

/-- What a client is told of a refusal: that a secret is used up and that it is another owner's look
the same. -/
def TokenError.ofStore : StoreError → TokenError
  | .notFound => .invalid
  | .ownerMismatch => .invalid
  | .alreadyExists => .generation .digestCollision
  | .failed fault => .storage fault.message

structure TokenEngine (τ σ : Type) where
  codec : TokenCodec τ σ
  store : RefreshStore σ
  refreshTtl : Span
  secretBytes : Nat

namespace TokenEngine

variable {τ σ : Type} [ByteSource τ]

def withCodec (codec : TokenCodec τ σ) (store : RefreshStore σ) (refreshTtl : Span)
    (secretBytes : Nat) (now : Instant) : Except TokenError (TokenEngine τ σ) :=
  if refreshTtl.isZero then .error (.config (.zero .refresh))
  else if secretBytes < RefreshSecret.fewestBytes then .error (.config (.shortSecret secretBytes))
  else
    match AccessCodec.checkLifetime .refresh refreshTtl now with
    | .error e => .error (.config e)
    | .ok () => .ok ⟨codec, store, refreshTtl, secretBytes⟩

/-- The engine of a configuration that is accepted at `now`; `wrap` is put around its codec. -/
def ofConfig (c : TokenConfig) (store : RefreshStore σ) (now : Instant)
    (wrap : TokenCodec τ σ → TokenCodec τ σ) : Except TokenError (TokenEngine τ σ) :=
  match AccessCodec.ofConfig c.access now with
  | .error e => .error e
  | .ok codec => withCodec (wrap (.plain codec)) store c.refreshTtl c.secretBytes now

/-- Removes a record that no client will learn of. If that fails, nobody is told. -/
def discard (g : TokenEngine τ σ) (d : SecretDigest) (w : World τ σ) : World τ σ :=
  (w.onStores (g.store.delete d)).2

def issue (g : TokenEngine τ σ) (owner : OwnerId) (w : World τ σ) :
    Except TokenError IssuedTokens × World τ σ :=
  if owner.isEmpty then (.error (.generation .emptyOwner), w)
  else
    let now := w.now
    match now.later? g.refreshTtl with
    | none => (.error (.generation .refreshExpiryOutOfRange), w)
    | some refreshExpiresAt =>
      match w.onEntropy (RefreshSecret.draw g.secretBytes) with
      | (.error e, w) => (.error (.generation (.secret e)), w)
      | (.ok secret, w) =>
        match g.codec.sign owner now w with
        | (.error e, w) => (.error e, w)
        | (.ok access, w) =>
          match w.onStores (g.store.put secret.digest ⟨owner, now⟩ g.refreshTtl) with
          | (.error (.failed fault), w) =>
            (.error (.storage fault.message), g.discard secret.digest w)
          | (.error e, w) => (.error (.ofStore e), w)
          | (.ok (), w) =>
            (.ok ⟨owner, access.token, secret, access.expiresAt, refreshExpiresAt⟩, w)

def validateAccess (g : TokenEngine τ σ) (token : String) : Operation τ σ TokenError OwnerId :=
  g.codec.verify token

def validateRefresh (g : TokenEngine τ σ) (secret : RefreshSecret) (w : World τ σ) :
    Except TokenError OwnerId × World τ σ :=
  match w.onStores (g.store.get secret.digest) with
  | (.error e, w) => (.error (.ofStore e), w)
  | (.ok record, w) => (.ok record.owner, w)

/-- The second half of a rotation: a new secret takes the place of the old one, and an access token
is signed for the owner that the store names. A record that no client can use is removed. -/
def replace (g : TokenEngine τ σ) (old : SecretDigest) (expected : Option OwnerId) (w : World τ σ) :
    Except TokenError IssuedTokens × World τ σ :=
  let now := w.now
  match now.later? g.refreshTtl with
  | none => (.error (.generation .refreshExpiryOutOfRange), w)
  | some refreshExpiresAt =>
    match w.onEntropy (RefreshSecret.draw g.secretBytes) with
    | (.error e, w) => (.error (.generation (.secret e)), w)
    | (.ok secret, w) =>
      match w.onStores (g.store.rotate old secret.digest expected now g.refreshTtl) with
      | (.error (.failed fault), w) => (.error (.storage fault.message), g.discard secret.digest w)
      | (.error e, w) => (.error (.ofStore e), w)
      | (.ok record, w) =>
        match g.codec.sign record.owner now w with
        | (.error .aborted, w) => (.error .aborted, w)
        | (.error e, w) => (.error e, g.discard secret.digest w)
        | (.ok access, w) =>
          (.ok ⟨record.owner, access.token, secret, access.expiresAt, refreshExpiresAt⟩, w)

/-- Trades a refresh secret for a new pair of tokens. If an owner is given, the secret has to be
that owner's; a secret that is refused costs no random bytes. -/
def rotate (g : TokenEngine τ σ) (secret : RefreshSecret) (expected : Option OwnerId)
    (w : World τ σ) : Except TokenError IssuedTokens × World τ σ :=
  match w.onStores (g.store.get secret.digest) with
  | (.error e, w) => (.error (.ofStore e), w)
  | (.ok record, w) =>
    if expected.any (· ≠ record.owner) then (.error .invalid, w)
    else g.replace secret.digest expected w

def revoke (g : TokenEngine τ σ) (secret : RefreshSecret) (w : World τ σ) :
    Except TokenError Unit × World τ σ :=
  match w.onStores (g.store.delete secret.digest) with
  | (.error e, w) => (.error (.ofStore e), w)
  | (.ok (), w) => (.ok (), w)

end TokenEngine
end Gatehouse
