import Gatehouse.Settings.Reading
import Gatehouse.Token.Engine

/-!
# Gatehouse.Settings.Basic

The settings of the service, how they are read from a tree, and the text in which they are shown,
without their secrets.
-/

namespace Gatehouse

structure CredentialSettings where
  backend : String
  mysqlDsn : Option String

/-- The files of a certificate and of its key. -/
structure TlsSettings where
  certPath : String
  keyPath : String

structure HttpSettings where
  address : String
  requestTimeoutMs : Nat
  tls : Option TlsSettings

structure LogSettings where
  filter : String

structure StoreSettings where
  backend : String
  redisDsn : Option String
  keyPrefix : String
  connectTimeoutMs : Nat
  responseTimeoutMs : Nat

structure TokenSettings where
  signingKey : String
  issuer : String
  audience : String
  accessTtlSecs : Nat
  refreshTtlSecs : Nat
  refreshSecretBytes : Nat

structure Settings where
  credentials : CredentialSettings
  http : HttpSettings
  log : LogSettings
  store : StoreSettings
  token : TokenSettings

/-! ## Reading -/

open SettingTree (toText toNumber layout)

def CredentialSettings.record : Record := ⟨"Credentials", ["backend", "mysql_dsn"]⟩

def CredentialSettings.ofTree (t : SettingTree) : Except Misfit CredentialSettings := do
  let l ← layout record t
  let backend ← l.required record toText "backend"
  let mysqlDsn ← l.optional record toText "mysql_dsn"
  return { backend, mysqlDsn }

def TlsSettings.record : Record := ⟨"Tls", ["cert_path", "key_path"]⟩

def TlsSettings.ofTree (t : SettingTree) : Except Misfit TlsSettings := do
  let l ← layout record t
  let certPath ← l.required record toText "cert_path"
  let keyPath ← l.required record toText "key_path"
  return { certPath, keyPath }

def HttpSettings.record : Record := ⟨"Http", ["address", "request_timeout_ms", "tls"]⟩

def HttpSettings.ofTree (t : SettingTree) : Except Misfit HttpSettings := do
  let l ← layout record t
  let address ← l.required record toText "address"
  let requestTimeoutMs ← l.defaulted record toNumber 5000 "request_timeout_ms"
  let tls ← l.optional record TlsSettings.ofTree "tls"
  return { address, requestTimeoutMs, tls }

def LogSettings.record : Record := ⟨"Log", ["filter"]⟩

def LogSettings.ofTree (t : SettingTree) : Except Misfit LogSettings := do
  let l ← layout record t
  let filter ← l.required record toText "filter"
  return { filter }

def StoreSettings.record : Record :=
  ⟨"Store", ["backend", "redis_dsn", "key_prefix", "connect_timeout_ms", "response_timeout_ms"]⟩

def StoreSettings.ofTree (t : SettingTree) : Except Misfit StoreSettings := do
  let l ← layout record t
  let backend ← l.required record toText "backend"
  let redisDsn ← l.optional record toText "redis_dsn"
  let keyPrefix ← l.defaulted record toText "refresh:th" "key_prefix"
  let connectTimeoutMs ← l.defaulted record toNumber 3000 "connect_timeout_ms"
  let responseTimeoutMs ← l.defaulted record toNumber 1000 "response_timeout_ms"
  return { backend, redisDsn, keyPrefix, connectTimeoutMs, responseTimeoutMs }

def TokenSettings.record : Record :=
  ⟨"Token", ["signing_key", "issuer", "audience", "access_ttl_secs", "refresh_ttl_secs",
    "refresh_secret_bytes"]⟩

def TokenSettings.ofTree (t : SettingTree) : Except Misfit TokenSettings := do
  let l ← layout record t
  let signingKey ← l.required record toText "signing_key"
  let issuer ← l.required record toText "issuer"
  let audience ← l.required record toText "audience"
  let accessTtlSecs ← l.required record toNumber "access_ttl_secs"
  let refreshTtlSecs ← l.required record toNumber "refresh_ttl_secs"
  let refreshSecretBytes ← l.defaulted record toNumber 64 "refresh_secret_bytes"
  return { signingKey, issuer, audience, accessTtlSecs, refreshTtlSecs, refreshSecretBytes }

def Settings.record : Record := ⟨"Settings", ["credentials", "http", "log", "store", "token"]⟩

def Settings.ofTree (t : SettingTree) : Except Misfit Settings := do
  let l ← layout record t
  let credentials ← l.required record CredentialSettings.ofTree "credentials"
  let http ← l.required record HttpSettings.ofTree "http"
  let log ← l.required record LogSettings.ofTree "log"
  let store ← l.required record StoreSettings.ofTree "store"
  let token ← l.required record TokenSettings.ofTree "token"
  return { credentials, http, log, store, token }

def Settings.keys : List String :=
  let under (group : String) (r : Record) : List String := r.fields.map (group ++ "." ++ ·)
  under "credentials" CredentialSettings.record ++ under "http" HttpSettings.record ++
    under "http.tls" TlsSettings.record ++ under "log" LogSettings.record ++
    under "store" StoreSettings.record ++ under "token" TokenSettings.record

/-! ## Showing -/

/-- A group with its fields. -/
def Record.display (r : Record) (values : List String) : String :=
  r.name ++ " \x7b " ++
    ", ".intercalate ((r.fields.zip values).map fun (field, v) => field ++ ": " ++ v) ++ " \x7d"

/-- What is shown in place of a secret. -/
def redacted : String := "<redacted>"

def optionText (t : Option String) : String :=
  match t with
  | some s => "Some(" ++ s ++ ")"
  | none => "None"

namespace Settings

open Text (quoted)

def debugText (s : Settings) : String :=
  record.display
    [ CredentialSettings.record.display
        [quoted s.credentials.backend, optionText (s.credentials.mysqlDsn.map fun _ => redacted)],
      HttpSettings.record.display
        [quoted s.http.address, toString s.http.requestTimeoutMs,
          optionText (s.http.tls.map fun t =>
            TlsSettings.record.display [quoted t.certPath, quoted t.keyPath])],
      LogSettings.record.display [quoted s.log.filter],
      StoreSettings.record.display
        [quoted s.store.backend, optionText (s.store.redisDsn.map fun _ => redacted),
          quoted s.store.keyPrefix, toString s.store.connectTimeoutMs,
          toString s.store.responseTimeoutMs],
      TokenSettings.record.display
        [redacted, quoted s.token.issuer, quoted s.token.audience, toString s.token.accessTtlSecs,
          toString s.token.refreshTtlSecs, toString s.token.refreshSecretBytes] ]

end Settings

def TokenSettings.config (s : TokenSettings) : TokenConfig where
  access :=
    { issuer := s.issuer, audience := s.audience, ttl := .ofSecs s.accessTtlSecs,
      signingKey := Utf8.encode s.signingKey }
  refreshTtl := .ofSecs s.refreshTtlSecs
  secretBytes := s.refreshSecretBytes

end Gatehouse
