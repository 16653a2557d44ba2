import Gatehouse.Access.Header
import Gatehouse.Proofs.Json.Record

/-!
# Gatehouse.Proofs.Access.Header

Which values are the header of a token. A header names its algorithm, and each other field that is
known is left out, `null`, or of its type; a key inside it has to be one of four kinds. The reader
takes these headers and no others (`headerAlgorithm?_eq_some_iff`).
-/

namespace Gatehouse.Access

/-! ## Values of one field -/

/-- The value names one of the names: as text, or as an object whose only member has that name and
holds nothing. -/
inductive IsChoice (names : List String) (s : String) : Json → Prop
  | text (h : s ∈ names) : IsChoice names s (.text s)
  | member (h : s ∈ names) : IsChoice names s (.object [(s, .null)])

theorem choice?_eq_some_iff {names : List String} {s : String} {v : Json} :
    choice? names v = some s ↔ IsChoice names s v := by
  constructor
  · intro h
    unfold choice? at h
    split at h
    · split_ifs at h with hmem
      cases h
      exact .text hmem
    · split_ifs at h with hmem
      cases h
      exact .member hmem
    · cases h
  · intro h
    cases h with
    | text hmem => exact if_pos hmem
    | member hmem => exact if_pos hmem

def IsOneOf (names : List String) (v : Json) : Prop := ∃ s, IsChoice names s v

theorem isSome_choice? {names : List String} {v : Json} :
    (choice? names v).isSome = true ↔ IsOneOf names v := by
  simp only [Option.isSome_iff_exists, choice?_eq_some_iff, IsOneOf]

def IsText (v : Json) : Prop := ∃ s, v = .text s

theorem isText_iff {v : Json} : isText v = true ↔ IsText v := by
  simp only [isText, Option.isSome_iff_exists, Json.text?_eq_some_iff, IsText]

def IsTexts (v : Json) : Prop := ∃ items, v = .array items ∧ ∀ x ∈ items, IsText x

theorem isTexts_iff {v : Json} : isTexts v = true ↔ IsTexts v := by
  cases v with
  | array items => simp [isTexts, IsTexts, isText_iff]
  | _ => simp [isTexts, IsTexts]

/-- The field is left out, `null`, or such a value. -/
def Optionally (P : Json → Prop) (v : Option Json) : Prop :=
  v = none ∨ v = some .null ∨ ∃ x, v = some x ∧ P x

theorem optional_iff {ok : Json → Bool} {P : Json → Prop} (h : ∀ v, ok v = true ↔ P v)
    {v : Option Json} : optional ok v = true ↔ Optionally P v := by
  unfold optional
  split
  · simp [Optionally]
  · simp [Optionally]
  · rename_i x hnull
    rw [h]
    constructor
    · exact fun hx => .inr (.inr ⟨x, rfl, hx⟩)
    · rintro (hx | hx | ⟨y, hx, hy⟩)
      · cases hx
      · exact (hnull (Option.some.inj hx)).elim
      · rwa [Option.some.inj hx]

/-! ## Keys -/

/-- The members have the field just once, with such a value. -/
def Has (members : List (String × Json)) (name : String) (P : Json → Prop) : Prop :=
  ∃ v, Json.Once members name v ∧ P v

/-- The members have the field at most once, and then it is `null` or such a value. -/
def MayHave (members : List (String × Json)) (name : String) (P : Json → Prop) : Prop :=
  ∃ v, Json.Gives members name v ∧ Optionally P v

section Fields

variable {members : List (String × Json)} {name : String} {ok : Json → Bool} {P : Json → Prop}

theorem hasField_iff (h : ∀ v, ok v = true ↔ P v) :
    hasField members (name, ok) = true ↔ Has members name P := by
  unfold hasField
  split
  · rename_i v hv
    rw [h]
    constructor
    · exact fun hP => ⟨v, Json.member?_eq_value_iff.mp hv, hP⟩
    · rintro ⟨x, hx, hP⟩
      cases hv.symm.trans (Json.member?_eq_value_iff.mpr hx)
      exact hP
  · rename_i hnone
    constructor
    · nofun
    · rintro ⟨x, hx, -⟩
      exact absurd (Json.member?_eq_value_iff.mpr hx) (hnone x)

theorem mayHaveField_iff (h : ∀ v, ok v = true ↔ P v) :
    mayHaveField members (name, ok) = true ↔ MayHave members name P := by
  unfold mayHaveField
  split
  · rename_i v hv
    rw [optional_iff h]
    constructor
    · exact fun hP => ⟨v, Json.member?_eq_some_iff.mp hv, hP⟩
    · rintro ⟨x, hx, hP⟩
      cases hv.symm.trans (Json.member?_eq_some_iff.mpr hx)
      exact hP
  · rename_i hnone
    constructor
    · nofun
    · rintro ⟨x, hx, -⟩
      cases hnone.symm.trans (Json.member?_eq_some_iff.mpr hx)

end Fields

inductive IsKeyAlgorithm : Json → Prop
  | choice {s : String} {v : Json} (h : IsChoice keyAlgorithms s v) : IsKeyAlgorithm v
  | empty {s : String} (h : s ∈ keyAlgorithms) : IsKeyAlgorithm (.object [(s, .object [])])

theorem isKeyAlgorithm_iff {v : Json} : isKeyAlgorithm v = true ↔ IsKeyAlgorithm v := by
  constructor
  · intro h
    unfold isKeyAlgorithm at h
    split at h
    · exact .empty (of_decide_eq_true h)
    · obtain ⟨s, hs⟩ := isSome_choice?.mp h
      exact .choice hs
  · intro h
    cases h with
    | choice h =>
      have hsome := isSome_choice?.mpr ⟨_, h⟩
      cases h <;> exact hsome
    | empty h => exact decide_eq_true h

inductive HasKind (members : List (String × Json)) : Prop
  | ec (kty : Has members "kty" (IsOneOf ["EC"])) (crv : Has members "crv" (IsOneOf curves))
      (x : Has members "x" IsText) (y : Has members "y" IsText)
  | rsa (kty : Has members "kty" (IsOneOf ["RSA"])) (n : Has members "n" IsText)
      (e : Has members "e" IsText)
  | oct (kty : Has members "kty" (IsOneOf ["oct"])) (k : Has members "k" IsText)
  | okp (kty : Has members "kty" (IsOneOf ["OKP"])) (crv : Has members "crv" (IsOneOf curves))
      (x : Has members "x" IsText)

/-- A key is an object that can be kept whole, is of one of the kinds, and has the types right that
all keys share. -/
structure IsKeyObject (members : List (String × Json)) : Prop where
  sound : Json.membersSound 125 members = true
  kind : HasKind members
  use : MayHave members "use" IsText
  keyOps : MayHave members "key_ops" IsTexts
  alg : MayHave members "alg" IsKeyAlgorithm
  kid : MayHave members "kid" IsText
  x5u : MayHave members "x5u" IsText
  x5c : MayHave members "x5c" IsTexts
  x5t : MayHave members "x5t" IsText
  x5t256 : MayHave members "x5t#S256" IsText

def IsKey (v : Json) : Prop := ∃ members, v = .object members ∧ IsKeyObject members

theorem hasKind_iff {members : List (String × Json)} :
    (keyKinds.any fun fields => fields.all (hasField members)) = true ↔ HasKind members := by
  have hnamed (names : List String) (v : Json) : (choice? names v).isSome = true ↔
      IsOneOf names v := isSome_choice?
  simp only [keyKinds, List.any_cons, List.any_nil, List.all_cons, List.all_nil, Bool.or_eq_true,
    Bool.and_eq_true, hasField_iff (hnamed _), hasField_iff fun _ => isText_iff, and_true,
    Bool.false_eq_true, or_false]
  constructor
  · rintro (⟨kty, crv, x, y⟩ | ⟨kty, n, e⟩ | ⟨kty, k⟩ | ⟨kty, crv, x⟩)
    · exact .ec kty crv x y
    · exact .rsa kty n e
    · exact .oct kty k
    · exact .okp kty crv x
  · intro h
    cases h with
    | ec kty crv x y => exact .inl ⟨kty, crv, x, y⟩
    | rsa kty n e => exact .inr (.inl ⟨kty, n, e⟩)
    | oct kty k => exact .inr (.inr (.inl ⟨kty, k⟩))
    | okp kty crv x => exact .inr (.inr (.inr ⟨kty, crv, x⟩))

theorem isKey_iff {v : Json} : isKey v = true ↔ IsKey v := by
  cases v with
  | object members =>
    simp only [isKey, sharedKeyFields, List.all_cons, List.all_nil, Bool.and_eq_true, hasKind_iff,
      mayHaveField_iff fun _ => isText_iff, mayHaveField_iff fun _ => isTexts_iff,
      mayHaveField_iff fun _ => isKeyAlgorithm_iff, and_true]
    constructor
    · rintro ⟨⟨sound, use, keyOps, alg, kid, x5u, x5c, x5t, x5t256⟩, kind⟩
      exact ⟨members, rfl, ⟨sound, kind, use, keyOps, alg, kid, x5u, x5c, x5t, x5t256⟩⟩
    · rintro ⟨_, ⟨⟩, h⟩
      exact ⟨⟨h.sound, h.use, h.keyOps, h.alg, h.kid, h.x5u, h.x5c, h.x5t, h.x5t256⟩, h.kind⟩
  | _ => simp [isKey, IsKey]

/-! ## Headers -/

/-- The value is a header that names the algorithm. -/
def IsHeader (algorithm : String) (v : Json) : Prop :=
  ∃ typ alg cty jku jwk kid x5u x5c x5t x5t256,
    Json.IsRecord headerFields 0 [typ, some alg, cty, jku, jwk, kid, x5u, x5c, x5t, x5t256] v ∧
      IsChoice algorithms algorithm alg ∧
      (∀ x ∈ [typ, cty, jku, kid, x5u, x5t, x5t256], Optionally IsText x) ∧
      Optionally IsTexts x5c ∧ Optionally IsKey jwk

theorem headerAlgorithm?_eq_some_iff {algorithm : String} {v : Json} :
    headerAlgorithm? v = some algorithm ↔ IsHeader algorithm v := by
  constructor
  · intro h
    unfold headerAlgorithm? at h
    split at h
    · rename_i typ alg cty jku jwk kid x5u x5c x5t x5t256 hfields
      split_ifs at h with hright
      simp only [Bool.and_eq_true, List.all_eq_true, optional_iff fun _ => isText_iff,
        optional_iff fun _ => isTexts_iff, optional_iff fun _ => isKey_iff] at hright
      obtain ⟨⟨htexts, hx5c⟩, hjwk⟩ := hright
      exact ⟨typ, alg, cty, jku, jwk, kid, x5u, x5c, x5t, x5t256,
        Json.fields?_eq_some_iff.mp hfields, choice?_eq_some_iff.mp h, htexts, hx5c, hjwk⟩
    · cases h
  · rintro ⟨typ, alg, cty, jku, jwk, kid, x5u, x5c, x5t, x5t256, hrecord, halg, htexts, hx5c, hjwk⟩
    simp only [headerAlgorithm?, Json.fields?_eq_some_iff.mpr hrecord]
    rw [choice?_eq_some_iff.mpr halg]
    refine if_pos ?_
    simp only [Bool.and_eq_true, List.all_eq_true, optional_iff fun _ => isText_iff,
      optional_iff fun _ => isTexts_iff, optional_iff fun _ => isKey_iff]
    exact ⟨⟨htexts, hx5c⟩, hjwk⟩

end Gatehouse.Access
