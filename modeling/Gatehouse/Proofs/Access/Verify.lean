import Gatehouse.Access.Codec
import Gatehouse.Proofs.Access.Header
import Gatehouse.Proofs.Bytes.Base64
import Gatehouse.Proofs.Json.Reader

/-!
# Gatehouse.Proofs.Access.Verify

Which tokens a codec accepts, and what it says of the others. `Carries` tells what a token looks
like that carries claims under a key, letter by letter.

* `claims?_eq_some_iff`: the claims that a codec finds are those that the token carries.
* `verify_exact`: a codec answers with the owner, that the token has expired, or that it is invalid,
  and it does so for exactly these tokens.
-/

namespace Gatehouse

namespace Json

def IsInt64 (v : Json) (i : Int) : Prop :=
  ∃ n : Numeral, v = .number n ∧ n.int? = some i ∧ -0x8000000000000000 ≤ i ∧ i < 0x8000000000000000

theorem int64?_eq_some_iff {v : Json} {i : Int} : v.int64? = some i ↔ v.IsInt64 i := by
  cases v with
  | number n =>
    simp [int64?, IsInt64, Numeral.int64?, Option.filter_eq_some_iff, Decimal.isInt64]
  | _ => simp [int64?, IsInt64]

end Json

/-! ## Claims -/

/-- The members of an object are these claims, each once and with its type; there may be others. -/
structure AccessClaims.Among (a : AccessClaims) (members : List (String × Json)) : Prop where
  sub : Json.Once members "sub" (.text a.sub)
  typ : Json.Once members "typ" (.text a.typ)
  jti : Json.Once members "jti" (.text a.jti)
  iat : ∃ v, Json.Once members "iat" v ∧ v.IsInt64 a.iat
  nbf : ∃ v, Json.Once members "nbf" v ∧ v.IsInt64 a.nbf
  exp : ∃ v, Json.Once members "exp" v ∧ v.IsInt64 a.exp
  iss : Json.Once members "iss" (.text a.iss)
  aud : Json.Once members "aud" (.text a.aud)

namespace AccessClaims

section Fields

variable {β : Type} {members : List (String × Json)} {name : String} {b : β}

theorem bind_text_iff {f : String → Option β} :
    (((Json.member? members name).bind id).bind fun v => v.text?.bind f) = some b ↔
      ∃ s, Json.Once members name (.text s) ∧ f s = some b := by
  constructor
  · intro h
    obtain ⟨v, hv, h⟩ := Option.bind_eq_some_iff.mp h
    obtain ⟨s, hs, h⟩ := Option.bind_eq_some_iff.mp h
    obtain ⟨_, hmember, rfl⟩ := Option.bind_eq_some_iff.mp hv
    exact ⟨s, Json.text?_eq_some_iff.mp hs ▸ Json.member?_eq_value_iff.mp hmember, h⟩
  · rintro ⟨s, hs, h⟩
    rw [Json.member?_eq_value_iff.mpr hs]
    exact h

theorem bind_int64_iff {f : Int → Option β} :
    (((Json.member? members name).bind id).bind fun v => v.int64?.bind f) = some b ↔
      ∃ i, (∃ v, Json.Once members name v ∧ v.IsInt64 i) ∧ f i = some b := by
  constructor
  · intro h
    obtain ⟨v, hv, h⟩ := Option.bind_eq_some_iff.mp h
    obtain ⟨i, hi, h⟩ := Option.bind_eq_some_iff.mp h
    obtain ⟨_, hmember, rfl⟩ := Option.bind_eq_some_iff.mp hv
    exact ⟨i, ⟨v, Json.member?_eq_value_iff.mp hmember, Json.int64?_eq_some_iff.mp hi⟩, h⟩
  · rintro ⟨i, ⟨v, hv, hi⟩, h⟩
    rw [Json.member?_eq_value_iff.mpr hv]
    simp only [Option.bind_some, id_eq, Json.int64?_eq_some_iff.mpr hi]
    exact h

end Fields

theorem among_of_ofJson? {members : List (String × Json)} {a : AccessClaims}
    (h : ofJson? (.object members) = some a) : a.Among members := by
  unfold ofJson? at h
  obtain ⟨sub, hsub, h⟩ := bind_text_iff.mp h
  obtain ⟨typ, htyp, h⟩ := bind_text_iff.mp h
  obtain ⟨jti, hjti, h⟩ := bind_text_iff.mp h
  obtain ⟨iat, hiat, h⟩ := bind_int64_iff.mp h
  obtain ⟨nbf, hnbf, h⟩ := bind_int64_iff.mp h
  obtain ⟨exp, hexp, h⟩ := bind_int64_iff.mp h
  obtain ⟨iss, hiss, h⟩ := bind_text_iff.mp h
  obtain ⟨aud, haud, h⟩ := bind_text_iff.mp h
  cases h
  exact ⟨hsub, htyp, hjti, hiat, hnbf, hexp, hiss, haud⟩

theorem Among.ofJson? {members : List (String × Json)} {a : AccessClaims} (h : a.Among members) :
    ofJson? (.object members) = some a := by
  unfold AccessClaims.ofJson?
  refine bind_text_iff.mpr ⟨a.sub, h.sub, ?_⟩
  refine bind_text_iff.mpr ⟨a.typ, h.typ, ?_⟩
  refine bind_text_iff.mpr ⟨a.jti, h.jti, ?_⟩
  refine bind_int64_iff.mpr ⟨a.iat, h.iat, ?_⟩
  refine bind_int64_iff.mpr ⟨a.nbf, h.nbf, ?_⟩
  refine bind_int64_iff.mpr ⟨a.exp, h.exp, ?_⟩
  refine bind_text_iff.mpr ⟨a.iss, h.iss, ?_⟩
  exact bind_text_iff.mpr ⟨a.aud, h.aud, rfl⟩

theorem ofJson?_eq_some_iff {v : Json} {a : AccessClaims} :
    ofJson? v = some a ↔ ∃ members, v = .object members ∧ a.Among members := by
  constructor
  · intro h
    cases v with
    | object members => exact ⟨members, rfl, among_of_ofJson? h⟩
    | _ => cases h
  · rintro ⟨members, rfl, h⟩
    exact h.ofJson?

end AccessClaims

/-! ## Parts -/

namespace AccessCodec

theorem dot_notMem_of_splitLastDot {cs : List Char} (h : splitLastDot cs = none) : '.' ∉ cs := by
  induction cs with
  | nil => exact List.not_mem_nil
  | cons c cs ih =>
    simp only [splitLastDot] at h
    split at h
    · cases h
    · rename_i hrest
      split_ifs at h with hc
      rw [List.mem_cons, not_or]
      exact ⟨Ne.symm hc, ih hrest⟩

/-- Characters are split where their last dot is. -/
theorem splitLastDot_eq_some_iff {cs before after : List Char} :
    splitLastDot cs = some (before, after) ↔ cs = before ++ '.' :: after ∧ '.' ∉ after := by
  induction cs generalizing before after with
  | nil => simp [splitLastDot]
  | cons c cs ih =>
    constructor
    · intro h
      simp only [splitLastDot] at h
      split at h
      · rename_i hrest
        cases h
        obtain ⟨hcs, hafter⟩ := ih.mp hrest
        exact ⟨by rw [hcs]; rfl, hafter⟩
      · rename_i hrest
        split_ifs at h with hc
        cases h
        exact ⟨by rw [hc]; rfl, dot_notMem_of_splitLastDot hrest⟩
    · rintro ⟨hsplit, hafter⟩
      cases before with
      | nil =>
        obtain ⟨rfl, rfl⟩ := List.cons.inj hsplit
        -- There is no dot further on to split at.
        have hnone : splitLastDot cs = none := by
          rw [Option.eq_none_iff_forall_ne_some]
          rintro ⟨before, after⟩ hrest
          rw [(ih.mp hrest).1] at hafter
          simp at hafter
        simp [splitLastDot, hnone]
      | cons b before =>
        obtain ⟨rfl, hcs⟩ := List.cons.inj hsplit
        have hrest := ih.mpr ⟨hcs, hafter⟩
        simp [splitLastDot, hrest]

/-- A part of a token: base64url, without padding, of a text in JSON. -/
def IsPart (cs : List Char) (v : Json) : Prop :=
  ∃ bytes, cs = Base64.url.encodeChars bytes ∧ Json.IsTextOf (Utf8.letters bytes) v

theorem IsPart.dot_notMem {cs : List Char} {v : Json} (h : IsPart cs v) : '.' ∉ cs := by
  obtain ⟨bytes, rfl, -⟩ := h
  exact Base64.dot_notMem_encodeChars bytes

theorem readPart?_eq_some_iff {cs : List Char} {v : Json} :
    readPart? cs = some v ↔ IsPart cs v := by
  simp only [readPart?, Option.bind_eq_some_iff, Base64.decodeChars?_eq_some_iff Base64.lawful_url,
    Json.readBytes?, Json.readLetters?_eq_some_iff, IsPart]

/-! ## Tokens -/

/-- The three parts of a token that carries claims under a key: a header that names the algorithm,
the claims, and the signature of both. -/
structure Signs (key : List UInt8) (a : AccessClaims) (header payload sig : List Char) : Prop where
  algorithm : ∃ v, IsPart header v ∧ Access.IsHeader "HS256" v
  signed : sig = Base64.url.encodeChars
    (Hmac.sha256 key (Utf8.encode (String.ofList (header ++ '.' :: payload))))
  claims : ∃ members, IsPart payload (.object members) ∧ a.Among members

/-- The token has three such parts. None of them has a dot inside, so the last two dots of the token
are those between them. -/
def Carries (key : List UInt8) (token : String) (a : AccessClaims) : Prop :=
  ∃ header payload sig, token.toList = header ++ '.' :: payload ++ '.' :: sig ∧
    Signs key a header payload sig

theorem Signs.sig_dot {key : List UInt8} {a : AccessClaims} {header payload sig : List Char}
    (h : Signs key a header payload sig) : '.' ∉ sig := by
  rw [h.signed]
  exact Base64.dot_notMem_encodeChars _

theorem claims?_eq_some_iff {c : AccessCodec} {token : String} {a : AccessClaims} :
    c.claims? token = some a ↔ Carries c.key token a := by
  constructor
  · intro h
    simp only [claims?, Option.bind_eq_bind, Option.bind_eq_some_iff] at h
    obtain ⟨⟨message, sig⟩, hlast, ⟨header, payload⟩, hfirst, algorithm, ⟨v, hv, halg⟩, h⟩ := h
    split_ifs at h with hright
    obtain ⟨rfl, hsig⟩ := hright
    obtain ⟨object, hobject, hclaims⟩ := Option.bind_eq_some_iff.mp h
    obtain ⟨members, rfl, hamong⟩ := AccessClaims.ofJson?_eq_some_iff.mp hclaims
    obtain ⟨htoken, -⟩ := splitLastDot_eq_some_iff.mp hlast
    obtain ⟨rfl, -⟩ := splitLastDot_eq_some_iff.mp hfirst
    exact ⟨header, payload, sig, htoken, {
      algorithm := ⟨v, readPart?_eq_some_iff.mp hv, Access.headerAlgorithm?_eq_some_iff.mp halg⟩
      signed := hsig
      claims := ⟨members, readPart?_eq_some_iff.mp hobject, hamong⟩ }⟩
  · rintro ⟨header, payload, sig, htoken, h⟩
    obtain ⟨v, hv, halg⟩ := h.algorithm
    obtain ⟨members, hobject, hamong⟩ := h.claims
    have hlast : splitLastDot token.toList = some (header ++ '.' :: payload, sig) :=
      splitLastDot_eq_some_iff.mpr ⟨htoken, h.sig_dot⟩
    have hfirst : splitLastDot (header ++ '.' :: payload) = some (header, payload) :=
      splitLastDot_eq_some_iff.mpr ⟨rfl, hobject.dot_notMem⟩
    have hsig : sig = signature c.key (header ++ '.' :: payload) := h.signed
    simp only [claims?, hlast, hfirst, readPart?_eq_some_iff.mpr hv,
      Access.headerAlgorithm?_eq_some_iff.mpr halg,
      readPart?_eq_some_iff.mpr hobject, hamong.ofJson?, hsig, Option.bind_eq_bind,
      Option.bind_some]
    simp

/-! ## Judgement -/

structure Good (cfg : AccessConfig) (a : AccessClaims) (o : OwnerId) (now : Int) : Prop where
  typ : a.typ = "access"
  sub : a.sub = o.text
  named : o.text ≠ ""
  iss : a.iss = cfg.issuer
  aud : a.aud = cfg.audience
  begun : 0 ≤ a.nbf ∧ a.nbf ≤ now
  unexpired : now ≤ a.exp

/-- The times of the claims can be told, and the last of them is past. -/
structure Over (a : AccessClaims) (now : Int) : Prop where
  nbf : 0 ≤ a.nbf
  exp : 0 ≤ a.exp
  past : a.exp < now

section Judge

variable {cfg : AccessConfig} {c : AccessCodec} {a : AccessClaims} {now : Int}

theorem eq_of_ofConfig {made : Instant} (h : ofConfig cfg made = .ok c) :
    c = ⟨cfg.issuer, cfg.audience, cfg.ttl, cfg.signingKey⟩ := by
  unfold ofConfig at h
  split_ifs at h
  split at h
  · cases h
  · cases h
    rfl

theorem judge_of_over (h : Over a now) : c.judge a now = .error .expired := by
  obtain ⟨hnbf, hexp, hover⟩ := h
  rw [judge, if_neg (by omega), if_neg (by omega), if_pos hover]

theorem judge_of_good (hc : c = ⟨cfg.issuer, cfg.audience, cfg.ttl, cfg.signingKey⟩) {o : OwnerId}
    (h : Good cfg a o now) : c.judge a now = .ok o := by
  obtain ⟨htyp, hsub, hnamed, hiss, haud, hbegun, hunexpired⟩ := h
  have hplace : ¬ (now < a.nbf ∨ a.iss ≠ c.issuer ∨ a.aud ≠ c.audience) := by
    subst hc
    simp [hiss, haud]
    omega
  have hkind : ¬ (a.typ ≠ accessKind ∨ a.sub = "") := by
    simp [htyp, hsub, hnamed, accessKind]
  rw [judge, if_neg (by omega), if_neg (by omega), if_neg (by omega), if_neg hplace,
    if_neg hkind, hsub]

theorem judge_of_neither (hc : c = ⟨cfg.issuer, cfg.audience, cfg.ttl, cfg.signingKey⟩)
    (hnow : 0 ≤ now) (hgood : ∀ o, ¬ Good cfg a o now) (hover : ¬ Over a now) :
    c.judge a now = .error .invalid := by
  subst hc
  unfold judge
  split_ifs with hneg hepoch hexp hplace hkind
  · rfl
  · omega
  · exact absurd ⟨by omega, by omega, hexp⟩ hover
  · rfl
  · rfl
  · -- Every check is passed, and then the claims are good for their own subject.
    refine absurd ?_ (hgood ⟨a.sub⟩)
    simp only [not_or, not_not, ne_eq] at hneg hplace hkind
    exact ⟨hkind.1, rfl, hkind.2, hplace.2.1, hplace.2.2, ⟨by omega, by omega⟩, by omega⟩

end Judge

/-! ## Verification -/

section Verify

variable {cfg : AccessConfig} {c : AccessCodec} {token : String} {now : Instant}

theorem verify_of_carries {a : AccessClaims} (h : Carries c.key token a) :
    c.verify token now = c.judge a now.secs := by
  rw [verify, claims?_eq_some_iff.mpr h]

theorem verify_of_not_carries (h : ∀ a, ¬ Carries c.key token a) :
    c.verify token now = .error .invalid := by
  have hnone : c.claims? token = none := by
    rw [Option.eq_none_iff_forall_ne_some]
    intro a ha
    exact h a (claims?_eq_some_iff.mp ha)
  rw [verify, hnone]

theorem verify_cases (hc : c = ⟨cfg.issuer, cfg.audience, cfg.ttl, cfg.signingKey⟩)
    (token : String) (hnow : 0 ≤ now.secs) :
    (∃ a o, Carries cfg.signingKey token a ∧ Good cfg a o now.secs ∧ c.verify token now = .ok o) ∨
    (∃ a, Carries cfg.signingKey token a ∧ Over a now.secs ∧
      c.verify token now = .error .expired) ∨
    c.verify token now = .error .invalid := by
  have hkey : c.key = cfg.signingKey := by rw [hc]
  by_cases hcarries : ∃ a, Carries c.key token a
  · obtain ⟨a, ha⟩ := hcarries
    rw [verify_of_carries ha, ← hkey]
    by_cases hgood : ∃ o, Good cfg a o now.secs
    · obtain ⟨o, hgood⟩ := hgood
      exact .inl ⟨a, o, ha, hgood, judge_of_good hc hgood⟩
    · by_cases hover : Over a now.secs
      · exact .inr (.inl ⟨a, ha, hover, judge_of_over hover⟩)
      · exact .inr (.inr (judge_of_neither hc hnow (not_exists.mp hgood) hover))
  · exact .inr (.inr (verify_of_not_carries (not_exists.mp hcarries)))

/-- What a codec says of a token. -/
structure Verdict (cfg : AccessConfig) (c : AccessCodec) (token : String) (now : Instant) :
    Prop where
  accepted : ∀ o, c.verify token now = .ok o ↔
    ∃ a, Carries cfg.signingKey token a ∧ Good cfg a o now.secs
  expired : c.verify token now = .error .expired ↔
    ∃ a, Carries cfg.signingKey token a ∧ Over a now.secs
  invalid : (∀ o, c.verify token now ≠ .ok o) → c.verify token now ≠ .error .expired →
    c.verify token now = .error .invalid
  /-- A message goes with just one signature. -/
  signature : ∀ message sig, token.toList = message ++ '.' :: sig → '.' ∉ sig →
    c.verify token now ≠ .error .invalid →
    sig = Base64.url.encodeChars
      (Hmac.sha256 cfg.signingKey (Utf8.encode (String.ofList message)))

theorem Carries.signature {key : List UInt8} {a : AccessClaims} (h : Carries key token a)
    {message sig : List Char} (htoken : token.toList = message ++ '.' :: sig)
    (hdot : '.' ∉ sig) :
    sig = Base64.url.encodeChars (Hmac.sha256 key (Utf8.encode (String.ofList message))) := by
  obtain ⟨header, payload, sig', htoken', h⟩ := h
  have hsplit := splitLastDot_eq_some_iff.mpr ⟨htoken, hdot⟩
  rw [splitLastDot_eq_some_iff.mpr ⟨htoken', h.sig_dot⟩] at hsplit
  cases hsplit
  exact h.signed

/-- A codec accepts the tokens that carry good claims under its key, and no other. -/
theorem verify_exact {made : Instant} (hc : ofConfig cfg made = .ok c) (token : String)
    (hnow : 0 ≤ now.secs) : Verdict cfg c token now := by
  have hcodec := eq_of_ofConfig hc
  have hkey : c.key = cfg.signingKey := by rw [hcodec]
  have hcases := verify_cases hcodec token hnow
  constructor
  case accepted =>
    intro o
    constructor
    · intro hok
      obtain ⟨a, o', ha, hgood, h⟩ | ⟨a, -, -, h⟩ | h := hcases
      · rw [hok] at h
        cases h
        exact ⟨a, ha, hgood⟩
      · rw [hok] at h
        cases h
      · rw [hok] at h
        cases h
    · rintro ⟨a, ha, hgood⟩
      rw [verify_of_carries (hkey ▸ ha), judge_of_good hcodec hgood]
  case expired =>
    constructor
    · intro hexpired
      obtain ⟨a, o, -, -, h⟩ | ⟨a, ha, hover, -⟩ | h := hcases
      · rw [hexpired] at h
        cases h
      · exact ⟨a, ha, hover⟩
      · rw [hexpired] at h
        cases h
    · rintro ⟨a, ha, hover⟩
      rw [verify_of_carries (hkey ▸ ha), judge_of_over hover]
  case invalid =>
    intro hok hexpired
    obtain ⟨a, o, -, -, h⟩ | ⟨a, -, -, h⟩ | h := hcases
    · exact absurd h (hok o)
    · exact absurd h hexpired
    · exact h
  case signature =>
    intro message sig htoken hdot hvalid
    obtain ⟨a, o, ha, -, -⟩ | ⟨a, ha, -, -⟩ | h := hcases
    · exact ha.signature htoken hdot
    · exact ha.signature htoken hdot
    · exact absurd h hvalid

end Verify

/-- A token is good in the last second of its claims, and has expired in the next. -/
theorem verify_exact_to_the_second :
    let cfg : AccessConfig := ⟨"gatehouse", "desk", .ofSecs 300, List.replicate 32 7⟩
    let c : AccessCodec := ⟨"gatehouse", "desk", .ofSecs 300, List.replicate 32 7⟩
    let a := c.claims ⟨"ada"⟩ "first" (.ofParts 100 0) (.ofParts 400 0)
    let token := sealed c.key a.toJson
    (Verdict cfg c token (.ofParts 400 999999999) ∧ Verdict cfg c token (.ofParts 401 0)) ∧
      c.verify token (.ofParts 400 999999999) = .ok ⟨"ada"⟩ ∧
      c.verify token (.ofParts 401 0) = .error .expired := by
  intro cfg c a token
  have hc : ofConfig ⟨"gatehouse", "desk", .ofSecs 300, List.replicate 32 7⟩ ⟨0⟩ = .ok c := rfl
  -- Part by part: to take the whole text apart again is slow in the kernel.
  have hcarries : Carries c.key token a := by
    have halg : (readPart? (part header)).bind Access.headerAlgorithm? = some "HS256" := by
      decide +kernel
    have hclaims : (readPart? (part a.toJson)).bind AccessClaims.ofJson? = some a := by
      decide +kernel
    obtain ⟨v, hv, halg⟩ := Option.bind_eq_some_iff.mp halg
    obtain ⟨object, hobject, hclaims⟩ := Option.bind_eq_some_iff.mp hclaims
    obtain ⟨members, rfl, hamong⟩ := AccessClaims.ofJson?_eq_some_iff.mp hclaims
    exact ⟨part header, part a.toJson, signature c.key (part header ++ '.' :: part a.toJson),
      String.toList_ofList, {
        algorithm := ⟨v, readPart?_eq_some_iff.mp hv, Access.headerAlgorithm?_eq_some_iff.mp halg⟩
        signed := rfl
        claims := ⟨members, readPart?_eq_some_iff.mp hobject, hamong⟩ }⟩
  refine ⟨⟨verify_exact hc token (by decide), verify_exact hc token (by decide)⟩, ?_, ?_⟩
  · rw [verify_of_carries hcarries]
    rfl
  · rw [verify_of_carries hcarries]
    rfl

end AccessCodec
end Gatehouse
