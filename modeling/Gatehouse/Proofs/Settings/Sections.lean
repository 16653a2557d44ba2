import Mathlib.Control.Monad.Basic
import Gatehouse.Settings.Basic

/-!
# Gatehouse.Proofs.Settings.Sections

Reading a group of settings from a table, field by field: a group can be read exactly if each of its
fields can (the lemmas `ofTree_eq_ok`). A field depends on nothing but the entry of its name
(`required_set_of_ne` and its like), and so a change of one entry is a change of one field.
-/

namespace Gatehouse

theorem bind_eq_ok {ε α β : Type} {x : Except ε α} {f : α → Except ε β} {b : β} :
    x >>= f = .ok b ↔ ∃ a, x = .ok a ∧ f a = .ok b := by
  cases x with
  | error e => simp [bind, Except.bind]
  | ok a => simp [bind, Except.bind]

/-! ## Fields of a table -/

namespace SettingTree.Layout

variable {α : Type} {r : Record} {decode : SettingTree → Except Misfit α} {es : Fields SettingTree}
  {name other : String} {x : SettingTree} {a : α}

theorem find?_set_self : find? r name (named (es.set name x)) = some (.name name, x) := by
  rw [find?, Fields.get?_set_self]
  rfl

theorem find?_set_of_ne (h : other ≠ name) :
    find? r other (named (es.set name x)) = find? r other (named es) := by
  rw [find?, find?, Fields.get?_set_of_ne h]

theorem required_set_self (hx : decode x = .ok a) :
    (named (es.set name x)).required r decode name = .ok a := by
  simp only [required, find?_set_self, readAt, hx, Except.mapError]

theorem required_set_of_ne (h : other ≠ name) :
    (named (es.set name x)).required r decode other = (named es).required r decode other := by
  simp only [required, find?_set_of_ne h]
  rfl

theorem defaulted_set_self {default : α} (hx : decode x = .ok a) :
    (named (es.set name x)).defaulted r decode default name = .ok a := by
  simp only [defaulted, find?_set_self, readAt, hx, Except.mapError]

theorem defaulted_set_of_ne {default : α} (h : other ≠ name) :
    (named (es.set name x)).defaulted r decode default other =
      (named es).defaulted r decode default other := by
  simp only [defaulted, find?_set_of_ne h]

theorem optional_set_self {origin : Option String} {v : Scalar} (hv : v ≠ .null)
    (hx : decode (.scalar origin v) = .ok a) :
    (named (es.set name (.scalar origin v))).optional r decode name = .ok (some a) := by
  cases v with
  | null => exact absurd rfl hv
  | _ => simp only [optional, find?_set_self, readAt, hx, Except.mapError, Except.map]

theorem optional_set_of_ne (h : other ≠ name) :
    (named (es.set name x)).optional r decode other = (named es).optional r decode other := by
  simp only [optional, find?_set_of_ne h]
  cases find? r other (named es) with
  | none => rfl
  | some found =>
    obtain ⟨s, t⟩ := found
    cases t with
    | scalar origin v => cases v <;> rfl
    | list origin items => rfl
    | table origin entries => rfl

/-- What a required field is read as, its entry is read as. -/
theorem of_required (h : (named es).required r decode name = .ok a) :
    ∃ t, es.get? name = some t ∧ decode t = .ok a := by
  cases hget : es.get? name with
  | none =>
    rw [required, find?, hget] at h
    cases h
  | some t =>
    rw [required, find?, hget] at h
    refine ⟨t, rfl, ?_⟩
    cases hdecode : decode t with
    | error m =>
      simp only [Option.map_some, readAt, hdecode, Except.mapError] at h
      cases h
    | ok b =>
      simp only [Option.map_some, readAt, hdecode, Except.mapError] at h
      exact h

end SettingTree.Layout

/-! ## Groups in a table -/

open SettingTree (toText toNumber Layout layout)
open SettingTree.Layout (named)

variable {origin : Option String} {es : Fields SettingTree}

theorem CredentialSettings.ofTree_eq_ok {s : CredentialSettings} :
    ofTree (.table origin es) = .ok s ↔
      (named es).required record toText "backend" = .ok s.backend ∧
      (named es).optional record toText "mysql_dsn" = .ok s.mysqlDsn := by
  simp only [ofTree, layout, bind_eq_ok, pure, Except.pure]
  constructor
  · rintro ⟨_, ⟨⟩, _, hbackend, _, hdsn, ⟨⟩⟩
    exact ⟨hbackend, hdsn⟩
  · rintro ⟨hbackend, hdsn⟩
    exact ⟨_, rfl, _, hbackend, _, hdsn, rfl⟩

theorem HttpSettings.ofTree_eq_ok {s : HttpSettings} :
    ofTree (.table origin es) = .ok s ↔
      (named es).required record toText "address" = .ok s.address ∧
      (named es).defaulted record toNumber 5000 "request_timeout_ms" = .ok s.requestTimeoutMs ∧
      (named es).optional record TlsSettings.ofTree "tls" = .ok s.tls := by
  simp only [ofTree, layout, bind_eq_ok, pure, Except.pure]
  constructor
  · rintro ⟨_, ⟨⟩, _, haddress, _, htimeout, _, htls, ⟨⟩⟩
    exact ⟨haddress, htimeout, htls⟩
  · rintro ⟨haddress, htimeout, htls⟩
    exact ⟨_, rfl, _, haddress, _, htimeout, _, htls, rfl⟩

theorem LogSettings.ofTree_eq_ok {s : LogSettings} :
    ofTree (.table origin es) = .ok s ↔
      (named es).required record toText "filter" = .ok s.filter := by
  simp only [ofTree, layout, bind_eq_ok, pure, Except.pure]
  constructor
  · rintro ⟨_, ⟨⟩, _, hfilter, ⟨⟩⟩
    exact hfilter
  · intro hfilter
    exact ⟨_, rfl, _, hfilter, rfl⟩

theorem StoreSettings.ofTree_eq_ok {s : StoreSettings} :
    ofTree (.table origin es) = .ok s ↔
      (named es).required record toText "backend" = .ok s.backend ∧
      (named es).optional record toText "redis_dsn" = .ok s.redisDsn ∧
      (named es).defaulted record toText "refresh:th" "key_prefix" = .ok s.keyPrefix ∧
      (named es).defaulted record toNumber 3000 "connect_timeout_ms" = .ok s.connectTimeoutMs ∧
      (named es).defaulted record toNumber 1000 "response_timeout_ms" =
        .ok s.responseTimeoutMs := by
  simp only [ofTree, layout, bind_eq_ok, pure, Except.pure]
  constructor
  · rintro ⟨_, ⟨⟩, _, hbackend, _, hdsn, _, hprefix, _, hconnect, _, hresponse, ⟨⟩⟩
    exact ⟨hbackend, hdsn, hprefix, hconnect, hresponse⟩
  · rintro ⟨hbackend, hdsn, hprefix, hconnect, hresponse⟩
    exact ⟨_, rfl, _, hbackend, _, hdsn, _, hprefix, _, hconnect, _, hresponse, rfl⟩

theorem TokenSettings.ofTree_eq_ok {s : TokenSettings} :
    ofTree (.table origin es) = .ok s ↔
      (named es).required record toText "signing_key" = .ok s.signingKey ∧
      (named es).required record toText "issuer" = .ok s.issuer ∧
      (named es).required record toText "audience" = .ok s.audience ∧
      (named es).required record toNumber "access_ttl_secs" = .ok s.accessTtlSecs ∧
      (named es).required record toNumber "refresh_ttl_secs" = .ok s.refreshTtlSecs ∧
      (named es).defaulted record toNumber 64 "refresh_secret_bytes" =
        .ok s.refreshSecretBytes := by
  simp only [ofTree, layout, bind_eq_ok, pure, Except.pure]
  constructor
  · rintro ⟨_, ⟨⟩, _, hkey, _, hissuer, _, haudience, _, haccess, _, hrefresh, _, hbytes, ⟨⟩⟩
    exact ⟨hkey, hissuer, haudience, haccess, hrefresh, hbytes⟩
  · rintro ⟨hkey, hissuer, haudience, haccess, hrefresh, hbytes⟩
    exact ⟨_, rfl, _, hkey, _, hissuer, _, haudience, _, haccess, _, hrefresh, _, hbytes, rfl⟩

theorem Settings.ofTree_eq_ok {s : Settings} :
    ofTree (.table origin es) = .ok s ↔
      (named es).required record CredentialSettings.ofTree "credentials" = .ok s.credentials ∧
      (named es).required record HttpSettings.ofTree "http" = .ok s.http ∧
      (named es).required record LogSettings.ofTree "log" = .ok s.log ∧
      (named es).required record StoreSettings.ofTree "store" = .ok s.store ∧
      (named es).required record TokenSettings.ofTree "token" = .ok s.token := by
  simp only [ofTree, layout, bind_eq_ok, pure, Except.pure]
  constructor
  · rintro ⟨_, ⟨⟩, _, hcredentials, _, hhttp, _, hlog, _, hstore, _, htoken, ⟨⟩⟩
    exact ⟨hcredentials, hhttp, hlog, hstore, htoken⟩
  · rintro ⟨hcredentials, hhttp, hlog, hstore, htoken⟩
    exact ⟨_, rfl, _, hcredentials, _, hhttp, _, hlog, _, hstore, _, htoken, rfl⟩

end Gatehouse
