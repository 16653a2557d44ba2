import Gatehouse.Accounts.Remote
import Gatehouse.Accounts.Service
import Gatehouse.KeyServer.Address
import Gatehouse.Password.Argon2Hasher
import Gatehouse.Refresh.Backend
import Gatehouse.Settings.Basic

/-!
# Gatehouse.Server

The service on the backends that the settings name: the refresh store comes first, then the
repository with its table, and last the engine. The first of them that cannot be had ends it.
-/

namespace Gatehouse

/-- Both backends of a running service. -/
structure Backends where
  store : RefreshBackend
  repo : RepoBackend

namespace Backends

def onStore {α : Type} (f : RefreshBackend → α × RefreshBackend) (b : Backends) : α × Backends :=
  let (a, store) := f b.store
  (a, { b with store })

def onRepo {α : Type} (f : RepoBackend → α × RepoBackend) (b : Backends) : α × Backends :=
  let (a, repo) := f b.repo
  (a, { b with repo })

def refreshStore : RefreshStore Backends where
  put d r ttl := onStore (RefreshStore.backend.put d r ttl)
  get d := onStore (RefreshStore.backend.get d)
  delete d := onStore (RefreshStore.backend.delete d)
  rotate old new expected issuedAt ttl :=
    onStore (RefreshStore.backend.rotate old new expected issuedAt ttl)

def credentialRepo : CredentialRepo Backends where
  find username := onRepo (CredentialRepo.backend.find username)
  create c := onRepo (CredentialRepo.backend.create c)

end Backends

/-- What answers under an address, if anything answers in time. -/
structure Network where
  keyServer? : String → Option KeyServer.Link
  rowServer? : String → Option RowServer.Link

inductive SetupError where
  | noKeyServerAddress
  | badKeyServerAddress
  | keyServerTimeout
  | unknownStore (name : String)
  | noRowServerAddress
  | noRowServer
  | migration (e : RepoError)
  | unknownRepo (name : String)
  | token (e : TokenError)

namespace SetupError

def message : SetupError → String
  | .noKeyServerAddress => "store.redis_dsn is required for the redis backend"
  | .badKeyServerAddress => "store.redis_dsn is not an address"
  | .keyServerTimeout => "timed out connecting to redis"
  | .unknownStore name => "Unknown store backend: " ++ name
  | .noRowServerAddress => "credentials.mysql_dsn is required for the mysql backend"
  | .noRowServer => "no server at credentials.mysql_dsn"
  | .migration e => e.message
  | .unknownRepo name => "Unknown credentials backend: " ++ name
  | .token e => e.message

end SetupError

/-- A service with its backends, and the time that a request may take. -/
structure Server (τ : Type) where
  service : AuthService τ Backends
  requestTimeout : Span
  backends : Backends

namespace Server

def openStore (net : Network) (s : StoreSettings) : Except SetupError RefreshBackend :=
  if s.backend = "memory" then .ok (.memory (.startingAt 0))
  else if s.backend = "redis" then
    match s.redisDsn with
    | none => .error .noKeyServerAddress
    | some dsn =>
      if KeyServer.Address.isValid dsn then
        match net.keyServer? dsn with
        | some link => .ok (.remote s.keyPrefix link)
        | none => .error .keyServerTimeout
      else .error .badKeyServerAddress
  else .error (.unknownStore s.backend)

def openRepo (net : Network) (s : CredentialSettings) : Except SetupError RepoBackend :=
  if s.backend = "memory" then .ok (.memory default)
  else if s.backend = "mysql" then
    match s.mysqlDsn with
    | none => .error .noRowServerAddress
    | some dsn =>
      match net.rowServer? dsn with
      | none => .error .noRowServer
      | some link =>
        match RemoteRepo.migrate link with
        | (.ok (), link) => .ok (.remote link)
        | (.error e, _) => .error (.migration e)
  else .error (.unknownRepo s.backend)

/-- The server of settings that are accepted at `now`. -/
def ofSettings {τ : Type} [ByteSource τ] (net : Network) (now : Instant) (s : Settings) :
    Except SetupError (Server τ) := do
  let store ← openStore net s.store
  let repo ← openRepo net s.credentials
  let engine ←
    (TokenEngine.ofConfig s.token.config Backends.refreshStore now id).mapError .token
  return {
    service := ⟨Backends.credentialRepo, .argon2, engine⟩
    requestTimeout := .ofMillis s.http.requestTimeoutMs
    backends := ⟨store, repo⟩ }

end Server
end Gatehouse
