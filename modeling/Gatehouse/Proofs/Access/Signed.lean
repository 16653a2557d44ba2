import Gatehouse.Proofs.Access.Verify
import Gatehouse.Proofs.Json.Writer
import Gatehouse.Proofs.Text.Decimal
import Gatehouse.Proofs.Text.Utf8
import Gatehouse.Proofs.Token.Engine

/-!
# Gatehouse.Proofs.Access.Signed

A token that is signed carries the claims it was signed with, whatever their texts are, and so its
life can be told from the claims: from the second of its making to the second of its expiry, both
rounded down, for the codecs that share key, issuer and audience.

* `carries_sealed`: a sealed token carries its claims.
* `sign_then_verify`: what one codec says of what another has signed.
-/

namespace Gatehouse

/-! ## Claims in JSON -/

namespace Json

theorem int?_ofInt (i : Int) : (Numeral.ofInt i).int? = some i := by
  have hvalue : Decimal.value (Numeral.ofInt i).whole = i.natAbs := Decimal.value_toDigits i.natAbs
  have hsign : (Numeral.ofInt i).negative = decide (i < 0) := rfl
  have hwhole : (Numeral.ofInt i).isWhole = true := by
    rw [Numeral.isWhole, hvalue, hsign]
    simp [Numeral.ofInt]
    omega
  rw [Numeral.int?, if_pos hwhole, hvalue, hsign]
  by_cases hi : i < 0
  · rw [if_pos (decide_eq_true hi), Int.ofNat_natAbs_of_nonpos (by omega), Int.neg_neg]
  · rw [if_neg (by simpa using hi), Int.natAbs_of_nonneg (by omega)]

theorem isInt64_ofInt {i : Int} (hlow : -0x8000000000000000 ≤ i) (hhigh : i < 0x8000000000000000) :
    (ofInt i).IsInt64 i :=
  ⟨.ofInt i, rfl, int?_ofInt i, hlow, hhigh⟩

end Json

namespace AccessClaims

/-- Times that a signed number of sixty-four bits can tell. -/
structure Timely (a : AccessClaims) : Prop where
  iat : (Json.ofInt a.iat).IsInt64 a.iat
  nbf : (Json.ofInt a.nbf).IsInt64 a.nbf
  exp : (Json.ofInt a.exp).IsInt64 a.exp

theorem writable_toJson (a : AccessClaims) : a.toJson.Writable := by
  simp only [toJson, Json.Writable, Json.WritableMembers, Json.ofInt, Json.proper_ofInt, and_self]

theorem ofJson?_toJson {a : AccessClaims} (h : a.Timely) : ofJson? a.toJson = some a := by
  have hmember {members : List (String × Json)} {name : String} {v : Json}
      (h : Json.member? members name = some (some v)) : Json.Once members name v :=
    Json.member?_eq_value_iff.mp h
  refine ofJson?_eq_some_iff.mpr ⟨_, rfl, ?_⟩
  exact {
    sub := hmember rfl
    typ := hmember rfl
    jti := hmember rfl
    iat := ⟨_, hmember rfl, h.iat⟩
    nbf := ⟨_, hmember rfl, h.nbf⟩
    exp := ⟨_, hmember rfl, h.exp⟩
    iss := hmember rfl
    aud := hmember rfl }

end AccessClaims

namespace AccessCodec

/-! ## What a token carries -/

theorem readPart?_part {v : Json} (h : v.Writable) : readPart? (part v) = some v := by
  rw [readPart?, part, Base64.decodeChars?_encodeChars Base64.lawful_url, Option.bind_some,
    Json.readBytes?, Utf8.letters_encode]
  exact Json.read?_render h

theorem writable_header : header.Writable := ⟨trivial, trivial, trivial⟩

/-- A sealed token carries its claims, under the key that it was sealed with. -/
theorem carries_sealed (key : List UInt8) {a : AccessClaims} (h : a.Timely) :
    Carries key (sealed key a.toJson) a := by
  refine ⟨part header, part a.toJson, signature key (part header ++ '.' :: part a.toJson),
    String.toList_ofList, ?_⟩
  obtain ⟨members, hmembers, hamong⟩ :=
    AccessClaims.ofJson?_eq_some_iff.mp (AccessClaims.ofJson?_toJson h)
  have hpart : IsPart (part a.toJson) a.toJson :=
    readPart?_eq_some_iff.mp (readPart?_part a.writable_toJson)
  exact {
    algorithm := ⟨header, readPart?_eq_some_iff.mp (readPart?_part writable_header),
      Access.headerAlgorithm?_eq_some_iff.mp rfl⟩
    signed := rfl
    claims := ⟨members, hmembers ▸ hpart, hamong⟩ }

theorem sealed_of_sign {τ : Type} [ByteSource τ] {c : AccessCodec} {owner : OwnerId}
    {now : Instant} {e : τ} {signed : SignedAccess} (h : (c.sign owner now e).1 = .ok signed) :
    now.later? c.ttl = some signed.expiresAt ∧ ∃ jti,
      signed.token = sealed c.key (c.claims owner jti now signed.expiresAt).toJson := by
  unfold sign at h
  split at h
  · cases h
  · rename_i expiresAt hlater
    split at h
    · cases h
    · rename_i jti e' hdraw
      have hsigned := Except.ok.inj h
      subst hsigned
      exact ⟨hlater, jti, rfl⟩

/-! ## Signing and verifying -/

section Sign

variable {cfg cfg' : AccessConfig} {c c' : AccessCodec} {owner : OwnerId}
  {signedAt expiresAt now : Instant}

theorem timely_claims (c : AccessCodec) (owner : OwnerId) (jti : String)
    (hsince : 0 ≤ signedAt.secs) (hend : signedAt.secs ≤ expiresAt.secs)
    (hlater : Instant.inCalendar expiresAt.secs = true) :
    (c.claims owner jti signedAt expiresAt).Timely := by
  have hlast := (Instant.inCalendar_iff.mp hlater).2
  simp only [Instant.lastSecs] at hlast
  have hbegin : (Json.ofInt signedAt.secs).IsInt64 signedAt.secs :=
    Json.isInt64_ofInt (by omega) (by omega)
  have hexp : (Json.ofInt expiresAt.secs).IsInt64 expiresAt.secs :=
    Json.isInt64_ofInt (by omega) (by omega)
  exact ⟨hbegin, hbegin, hexp⟩

theorem judge_claims (hc : c = ⟨cfg.issuer, cfg.audience, cfg.ttl, cfg.signingKey⟩)
    (hc' : c' = ⟨cfg'.issuer, cfg'.audience, cfg'.ttl, cfg'.signingKey⟩) (jti : String)
    (hsince : 0 ≤ signedAt.secs) (hend : signedAt.secs ≤ expiresAt.secs) (hnow : 0 ≤ now.secs) :
    c'.judge (c.claims owner jti signedAt expiresAt) now.secs =
      if expiresAt.secs < now.secs then .error .expired
      else if signedAt.secs ≤ now.secs ∧ owner.text ≠ "" ∧ cfg.issuer = cfg'.issuer ∧
        cfg.audience = cfg'.audience then .ok owner
      else .error .invalid := by
  have hexp : 0 ≤ expiresAt.secs := by omega
  split_ifs with hpast hgood
  · exact judge_of_over ⟨hsince, hexp, hpast⟩
  · obtain ⟨hbegun, hnamed, hiss, haud⟩ := hgood
    refine judge_of_good hc' ⟨rfl, rfl, hnamed, ?_, ?_, ⟨hsince, hbegun⟩, Int.not_lt.mp hpast⟩
    · rw [← hiss, hc]
      rfl
    · rw [← haud, hc]
      rfl
  · refine judge_of_neither hc' hnow (fun o ho => hgood ?_) fun hover => hpast hover.past
    have ho' : o = owner := congrArg OwnerId.mk ho.sub.symm
    subst ho'
    refine ⟨ho.begun.2, ho.named, ?_, ?_⟩
    · rw [← ho.iss, hc]
      rfl
    · rw [← ho.aud, hc]
      rfl

/-- A sealed token is good in every second from its making to its expiry. -/
theorem verify_sealed (c : AccessCodec) (hnamed : owner.text ≠ "") (jti : String)
    (hsince : 0 ≤ signedAt.secs) (hlater : Instant.inCalendar expiresAt.secs = true)
    (hbegun : signedAt.secs ≤ now.secs) (hunexpired : now.secs ≤ expiresAt.secs) :
    c.verify (sealed c.key (c.claims owner jti signedAt expiresAt).toJson) now = .ok owner := by
  have hend : signedAt.secs ≤ expiresAt.secs := by omega
  have hgood : Good ⟨c.issuer, c.audience, c.ttl, c.key⟩ (c.claims owner jti signedAt expiresAt)
      owner now.secs :=
    ⟨rfl, rfl, hnamed, rfl, rfl, ⟨hsince, hbegun⟩, hunexpired⟩
  rw [verify_of_carries (carries_sealed c.key (timely_claims c owner jti hsince hend hlater))]
  refine judge_of_good ?_ hgood
  rfl

/-- What becomes of a token that the codec of one configuration is asked for: what signing answers,
and what the codec of another configuration says of the token. -/
structure RoundTrip {τ : Type} [ByteSource τ] (cfg cfg' : AccessConfig) (c c' : AccessCodec)
    (owner : OwnerId) (signedAt : Instant) (e : τ) : Prop where
  /-- Such an expiry is found out before anything is drawn. -/
  outOfRange : Instant.inCalendar (Instant.mk (signedAt.nanos + cfg.ttl.nanos)).secs = false →
    c.sign owner signedAt e = (.error (.generation .accessExpiryOutOfRange), e)
  signed : ∀ expiresAt : Instant, expiresAt.nanos = signedAt.nanos + cfg.ttl.nanos →
    Instant.inCalendar expiresAt.secs = true → (Uuid.draw e).1.isSome = true →
    ∃ token e', c.sign owner signedAt e = (.ok ⟨token, expiresAt⟩, e') ∧
      ∀ now : Instant, 0 ≤ now.secs → c'.verify token now =
        if expiresAt.secs < now.secs then .error .expired
        else if signedAt.secs ≤ now.secs ∧ owner.text ≠ "" ∧ cfg.issuer = cfg'.issuer ∧
          cfg.audience = cfg'.audience then .ok owner
        else .error .invalid

/-- Codecs with one signing key agree on what they sign. The clock of the one that verifies, the
signing and the expiry count in whole seconds. -/
theorem sign_then_verify {τ : Type} [ByteSource τ] {made made' : Instant}
    (hc : ofConfig cfg made = .ok c) (hc' : ofConfig cfg' made' = .ok c')
    (hkey : cfg.signingKey = cfg'.signingKey) (owner : OwnerId) (hsince : 0 ≤ signedAt.secs)
    (e : τ) :
    RoundTrip cfg cfg' c c' owner signedAt e := by
  have hcodec := eq_of_ofConfig hc
  have hcodec' := eq_of_ofConfig hc'
  have httl : c.ttl = cfg.ttl := by rw [hcodec]
  constructor
  case outOfRange =>
    intro hlate
    have hlater : signedAt.later? c.ttl = none := by
      simp only [Instant.later?, httl, hlate]
      rfl
    simp only [sign, hlater]
  case signed =>
    intro expiresAt hexpires hcal hdrawn
    have hlater : signedAt.later? c.ttl = some expiresAt := by
      have : Instant.mk (signedAt.nanos + cfg.ttl.nanos) = expiresAt := by rw [← hexpires]
      simp only [Instant.later?, httl, this, hcal, if_true]
    have hend : signedAt.secs ≤ expiresAt.secs := by
      simp only [Instant.secs, Span.second]
      omega
    rcases hdraw : Uuid.draw e with ⟨drawn, e'⟩
    rw [hdraw] at hdrawn
    obtain ⟨jti, rfl⟩ := Option.isSome_iff_exists.mp hdrawn
    have hkeys : c.key = c'.key := by rw [hcodec, hcodec', hkey]
    have hsealed := carries_sealed c.key (timely_claims c owner jti hsince hend hcal)
    rw [hkeys] at hsealed
    have hsign : c.sign owner signedAt e =
        (.ok ⟨sealed c'.key (c.claims owner jti signedAt expiresAt).toJson, expiresAt⟩, e') := by
      simp only [sign, hlater, hdraw, hkeys]
    refine ⟨_, e', hsign, fun now hnow => ?_⟩
    rw [verify_of_carries hsealed]
    exact judge_claims hcodec hcodec' jti hsince hend hnow

/-- A lifetime that ends within a second is kept to the end of that second, by a codec with another
lifetime of its own. -/
theorem sign_then_verify_to_the_second :
    let cfg : AccessConfig := ⟨"gatehouse", "desk", .ofParts 300 500000000, List.replicate 32 7⟩
    let cfg' : AccessConfig := ⟨"gatehouse", "desk", .ofSecs 60, List.replicate 32 7⟩
    let c : AccessCodec := ⟨"gatehouse", "desk", .ofParts 300 500000000, List.replicate 32 7⟩
    let c' : AccessCodec := ⟨"gatehouse", "desk", .ofSecs 60, List.replicate 32 7⟩
    (ofConfig cfg ⟨0⟩ = .ok c ∧ ofConfig cfg' ⟨0⟩ = .ok c') ∧
      ∃ token e', c.sign ⟨"\"ada\"\n"⟩ (.ofParts 100 600000000) (Entropy.mk 1 false) =
        (.ok ⟨token, .ofParts 401 100000000⟩, e') ∧
      c'.verify token (.ofParts 99 999999999) = .error .invalid ∧
      c'.verify token (.ofParts 100 0) = .ok ⟨"\"ada\"\n"⟩ ∧
      c'.verify token (.ofParts 401 999999999) = .ok ⟨"\"ada\"\n"⟩ ∧
      c'.verify token (.ofParts 402 0) = .error .expired := by
  intro cfg cfg' c c'
  have hc : ofConfig ⟨"gatehouse", "desk", .ofParts 300 500000000, List.replicate 32 7⟩ ⟨0⟩ =
      .ok c := rfl
  have hc' : ofConfig ⟨"gatehouse", "desk", .ofSecs 60, List.replicate 32 7⟩ ⟨0⟩ = .ok c' := rfl
  have htrip := sign_then_verify hc hc' rfl ⟨"\"ada\"\n"⟩
    (show 0 ≤ (Instant.ofParts 100 600000000).secs by decide) (Entropy.mk 1 false)
  obtain ⟨token, e', hsign, hverify⟩ :=
    htrip.signed (.ofParts 401 100000000) (by decide) (by decide) rfl
  refine ⟨⟨hc, hc'⟩, token, e', hsign, ?_, ?_, ?_, ?_⟩
  · rw [hverify _ (by decide)]
    decide
  · rw [hverify _ (by decide)]
    decide
  · rw [hverify _ (by decide)]
    decide
  · rw [hverify _ (by decide)]
    decide

end Sign

end AccessCodec
end Gatehouse
