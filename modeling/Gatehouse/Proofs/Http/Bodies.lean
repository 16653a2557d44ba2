import Gatehouse.Proofs.Http.Bearer
import Gatehouse.Proofs.Json.Length
import Gatehouse.Proofs.Json.Reader

/-!
# Gatehouse.Proofs.Http.Bodies

What a request asks of the service, in the text of its body. A body is taken if it is JSON, its
length is told, and nothing else is said of it (`jsonBody?_eq_some_iff`); then it is a record of
fields (`logsIn_iff`, `refreshes_iff`, `revokes_iff`).
-/

namespace Gatehouse.Http

open Json (IsRecord IsTextOf MayHold)

/-! ## Bodies -/

theorem isDigit_of_nat? {cs : List Char} {n : Nat} (h : Decimal.nat? cs = some n) :
    ∀ c ∈ cs, c.isDigit = true := by
  unfold Decimal.nat? at h
  split_ifs at h with hdigits
  exact List.all_eq_true.mp hdigits.2

theorem plainChar_of_isDigit {c : Char} (h : c.isDigit = true) : PlainChar c := by
  rw [Char.isDigit, Bool.and_eq_true, decide_eq_true_eq, decide_eq_true_eq] at h
  have hlow : 48 ≤ c.toNat := UInt32.le_iff_toNat_le.mp h.1
  have hhigh : c.toNat ≤ 57 := UInt32.le_iff_toNat_le.mp h.2
  exact .inl ⟨by omega, by omega⟩

/-- The length of a body is told in digits, and a plus before them is passed over. -/
def Request.TellsLength (r : Request) (n : Nat) : Prop :=
  ∃ sign digits, (sign = [] ∨ sign = ['+']) ∧
    r.header? "content-length" = some (Utf8.encode (String.ofList (sign ++ digits))) ∧
    Decimal.nat? digits = some n ∧ n < 0x10000000000000000

theorem contentLength?_eq_some_iff {r : Request} {n : Nat} :
    r.contentLength? = some n ↔ r.TellsLength n := by
  simp only [Request.TellsLength, Request.contentLength?, Option.bind_eq_bind,
    Option.bind_eq_some_iff, Option.filter_eq_some_iff, decide_eq_true_eq,
    Request.plainText?_eq_some_iff]
  constructor
  · rintro ⟨value, hheader, text, ⟨rfl, -⟩, hdigits, hlt⟩
    split at hdigits
    · rename_i cs htext
      refine ⟨['+'], cs, .inr rfl, ?_, hdigits, hlt⟩
      rwa [List.singleton_append, ← htext, String.ofList_toList]
    · refine ⟨[], text.toList, .inl rfl, ?_, hdigits, hlt⟩
      rwa [List.nil_append, String.ofList_toList]
  · rintro ⟨sign, digits, hsign, hheader, hdigits, hlt⟩
    have hplain : ∀ c ∈ digits, PlainChar c := fun c hc =>
      plainChar_of_isDigit (isDigit_of_nat? hdigits c hc)
    refine ⟨_, hheader, _, ⟨rfl, fun c hc => ?_⟩, ?_, hlt⟩
    · rw [String.toList_ofList, List.mem_append] at hc
      rcases hc with hc | hc
      · rcases hsign with rfl | rfl
        · cases hc
        · rw [List.mem_singleton.mp hc]
          decide
      · exact hplain c hc
    · rw [String.toList_ofList]
      rcases hsign with rfl | rfl
      · rw [List.nil_append]
        split
        · -- Digits do not begin with a plus.
          cases isDigit_of_nat? hdigits '+' List.mem_cons_self
        · exact hdigits
      · exact hdigits

/-- The body of the request is the text of a JSON value, it is not too long, and it is not said to
be anything else. -/
structure Request.Brings (r : Request) (v : Json) : Prop where
  length : ∃ n ≤ longestBody, r.TellsLength n
  kind : r.admitsJson = true
  text : IsTextOf (Utf8.letters r.body) v

theorem jsonBody?_eq_some_iff {r : Request} {v : Json} : jsonBody? r = some v ↔ r.Brings v := by
  simp only [jsonBody?, Option.bind_eq_bind, Option.bind_eq_some_iff, contentLength?_eq_some_iff,
    Json.readBytes?]
  constructor
  · rintro ⟨n, hlength, h⟩
    split_ifs at h with hfits
    exact ⟨⟨n, hfits.1, hlength⟩, hfits.2, Json.readLetters?_eq_some_iff.mp h⟩
  · rintro ⟨⟨n, hle, hlength⟩, hkind, htext⟩
    exact ⟨n, hlength, by rw [if_pos ⟨hle, hkind⟩, Json.readLetters?_eq_some_iff.mpr htext]⟩

theorem bind_jsonBody?_iff {α : Type} {r : Request} {read? : Json → Option α} {a : α} :
    (jsonBody? r).bind read? = some a ↔ ∃ v, r.Brings v ∧ read? v = some a := by
  simp only [Option.bind_eq_some_iff, jsonBody?_eq_some_iff]

/-! ## Fields -/

theorem readCredentials?_eq_some_iff {v : Json} {username password : String} :
    readCredentials? v = some (username, password) ↔
      IsRecord ["username", "password"] 0 [some (.text username), some (.text password)] v := by
  rw [← Json.fields?_eq_some_iff]
  constructor
  · intro h
    unfold readCredentials? at h
    split at h
    · rename_i username? password? hfields
      simp only [Option.bind_eq_bind, Option.bind_eq_some_iff, Json.requiredText?_eq_some_iff] at h
      obtain ⟨_, rfl, _, rfl, ⟨⟩⟩ := h
      exact hfields
    · cases h
  · intro h
    simp only [readCredentials?, h]
    rfl

/-- The owner that a field expects: the empty text stands for none. -/
inductive Expects (expected : Option OwnerId) (v : Option Json) : Prop
  | owner {s : String} (hv : v = some (.text s)) (hs : s ≠ "") (h : expected = some ⟨s⟩)
  | empty (hv : v = some (.text "")) (h : expected = none)
  | none (hv : MayHold none v) (h : expected = none)

theorem expects_iff {expected : Option OwnerId} {v : Option Json} :
    Expects expected v ↔ ∃ s, Json.optionalText? v = some s ∧
      (s.filter (· ≠ "")).map OwnerId.mk = expected := by
  simp only [Json.optionalText?_eq_some_iff]
  constructor
  · intro h
    cases h with
    | @owner s hv hs h => exact ⟨some s, hv ▸ .text s, by simp [hs, h]⟩
    | empty hv h => exact ⟨some "", hv ▸ .text "", by simp [h]⟩
    | none hv h => exact ⟨_, hv, by simp [h]⟩
  · rintro ⟨s, hv, rfl⟩
    cases hv with
    | text s =>
      by_cases hs : s = ""
      · exact .empty (by rw [hs]) (by simp [hs])
      · exact .owner rfl hs (by simp [hs])
    | null => exact .none .null rfl
    | leftOut => exact .none .leftOut rfl

theorem readRefresh?_eq_some_iff {v : Json} {secret : RefreshSecret} {expected : Option OwnerId} :
    readRefresh? v = some (secret, expected) ↔ ∃ e, Expects expected e ∧
      IsRecord ["refresh_token", "expected_owner_id"] 1 [some (.text secret.text), e] v := by
  simp only [← Json.fields?_eq_some_iff]
  constructor
  · intro h
    unfold readRefresh? at h
    split at h
    · rename_i secret? e hfields
      simp only [Option.bind_eq_bind, Option.bind_eq_some_iff, Json.requiredText?_eq_some_iff] at h
      obtain ⟨_, rfl, s, hs, ⟨⟩⟩ := h
      exact ⟨e, expects_iff.mpr ⟨s, hs, rfl⟩, hfields⟩
    · cases h
  · rintro ⟨e, he, hfields⟩
    obtain ⟨s, hs, rfl⟩ := expects_iff.mp he
    simp only [readRefresh?, hfields, hs]
    rfl

theorem readRevoke?_eq_some_iff {v : Json} {secret : RefreshSecret} :
    readRevoke? v = some secret ↔ IsRecord ["refresh_token"] 0 [some (.text secret.text)] v := by
  rw [← Json.fields?_eq_some_iff]
  constructor
  · intro h
    unfold readRevoke? at h
    split at h
    · rename_i secret? hfields
      simp only [Option.map_eq_some_iff, Json.requiredText?_eq_some_iff] at h
      obtain ⟨_, rfl, rfl⟩ := h
      exact hfields
    · cases h
  · intro h
    simp only [readRevoke?, h]
    rfl

/-! ## Requests -/

structure Request.SignsUp (r : Request) (username password : String) : Prop where
  route : Route.find r = .ok .signup
  input : (jsonBody? r).bind readCredentials? = some (username, password)

/-- The request trades a secret for new tokens, if it expects the owner that the secret has. -/
structure Request.Refreshes (r : Request) (secret : RefreshSecret) (expected : Option OwnerId) :
    Prop where
  route : Route.find r = .ok .refresh
  input : (jsonBody? r).bind readRefresh? = some (secret, expected)

structure Request.Revokes (r : Request) (secret : RefreshSecret) : Prop where
  route : Route.find r = .ok .revoke
  input : (jsonBody? r).bind readRevoke? = some secret

structure Request.LogsIn (r : Request) (username password : String) : Prop where
  route : Route.find r = .ok .login
  input : (jsonBody? r).bind readCredentials? = some (username, password)

theorem logsIn_iff {r : Request} {username password : String} :
    r.LogsIn username password ↔ Route.find r = .ok .login ∧ ∃ v, r.Brings v ∧
      IsRecord ["username", "password"] 0 [some (.text username), some (.text password)] v := by
  simp only [← readCredentials?_eq_some_iff, ← bind_jsonBody?_iff]
  exact ⟨fun h => ⟨h.route, h.input⟩, fun ⟨route, input⟩ => ⟨route, input⟩⟩

theorem refreshes_iff {r : Request} {secret : RefreshSecret} {expected : Option OwnerId} :
    r.Refreshes secret expected ↔ Route.find r = .ok .refresh ∧ ∃ v, r.Brings v ∧
      ∃ e, Expects expected e ∧
        IsRecord ["refresh_token", "expected_owner_id"] 1 [some (.text secret.text), e] v := by
  simp only [← readRefresh?_eq_some_iff, ← bind_jsonBody?_iff]
  exact ⟨fun h => ⟨h.route, h.input⟩, fun ⟨route, input⟩ => ⟨route, input⟩⟩

theorem revokes_iff {r : Request} {secret : RefreshSecret} :
    r.Revokes secret ↔ Route.find r = .ok .revoke ∧ ∃ v, r.Brings v ∧
      IsRecord ["refresh_token"] 0 [some (.text secret.text)] v := by
  simp only [← readRevoke?_eq_some_iff, ← bind_jsonBody?_iff]
  exact ⟨fun h => ⟨h.route, h.input⟩, fun ⟨route, input⟩ => ⟨route, input⟩⟩

theorem signsUp_iff {r : Request} {username password : String} :
    r.SignsUp username password ↔ Route.find r = .ok .signup ∧ ∃ v, r.Brings v ∧
      IsRecord ["username", "password"] 0 [some (.text username), some (.text password)] v := by
  simp only [← readCredentials?_eq_some_iff, ← bind_jsonBody?_iff]
  exact ⟨fun h => ⟨h.route, h.input⟩, fun ⟨route, input⟩ => ⟨route, input⟩⟩

/-- A password is about as short as the body that brings it: a character has four bytes at most. -/
theorem Request.SignsUp.size_le {r : Request} {username password : String}
    (h : r.SignsUp username password) : Utf8.size password ≤ 4 * r.body.length := by
  obtain ⟨-, v, hbrings, hrecord⟩ := signsUp_iff.mp h
  have hsize := Utf8.size_le password
  have hlength := hrecord.length_text_le (by simp) hbrings.text (t := password)
  have hletters := Utf8.length_letters_le r.body
  omega

section Serve

variable {τ σ : Type} {r : Request} (a : AuthActions τ σ) (w : World τ σ)

theorem serve_signup {username password : String} (h : r.SignsUp username password) :
    serve a r w = (answer ownerData (a.signup username password w).1,
      (a.signup username password w).2) := by
  simp only [serve, h.route, serveRoute, withBody, h.input]

theorem serve_refresh {secret : RefreshSecret} {expected : Option OwnerId}
    (h : r.Refreshes secret expected) :
    serve a r w = (answer (tokensData (a.refresh secret expected w).2.now)
      (a.refresh secret expected w).1, (a.refresh secret expected w).2) := by
  simp only [serve, h.route, serveRoute, withBody, h.input]

theorem serve_revoke {secret : RefreshSecret} (h : r.Revokes secret) :
    serve a r w = (answer (fun _ => revokedData) (a.revoke secret w).1,
      (a.revoke secret w).2) := by
  simp only [serve, h.route, serveRoute, withBody, h.input]

theorem serve_login {username password : String} (h : r.LogsIn username password) :
    serve a r w = (answer (tokensData (a.login username password w).2.now)
      (a.login username password w).1, (a.login username password w).2) := by
  simp only [serve, h.route, serveRoute, withBody, h.input]

end Serve

end Gatehouse.Http
