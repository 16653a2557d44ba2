import Gatehouse.Access.Header
import Gatehouse.Bytes.Base64
import Gatehouse.Hash.Hmac
import Gatehouse.Json.Reader
import Gatehouse.Json.Writer
import Gatehouse.Owner
import Gatehouse.Time.Instant
import Gatehouse.Token.Error

/-!
# Gatehouse.Access.Codec

Access tokens: signed claims that say who the owner is and when the token is good. A token is
`header.payload.signature`, each part in base64url, and the signature is the HMAC-SHA256 of the
rest.

Signing (`AccessCodec.sign`) makes a token that lives for the configured time; checking
(`AccessCodec.verify`) accepts a token whose signature is right and whose claims name this issuer
and this audience, from its first second to its last.
-/

namespace Gatehouse

structure AccessConfig where
  issuer : String
  audience : String
  ttl : Span
  signingKey : List UInt8

def AccessConfig.debugText (c : AccessConfig) : String :=
  "JwtConfig \x7b issuer: " ++ Text.quoted c.issuer ++ ", audience: " ++ Text.quoted c.audience ++
    ", access_ttl: " ++ c.ttl.text ++ ", signing_key: \"<redacted>\" \x7d"

/-- The claims of an access token; times are in whole seconds. -/
structure AccessClaims where
  sub : String
  typ : String
  jti : String
  iat : Int
  nbf : Int
  exp : Int
  iss : String
  aud : String
  deriving DecidableEq

namespace AccessClaims

def toJson (c : AccessClaims) : Json :=
  .object [("sub", .text c.sub), ("typ", .text c.typ), ("jti", .text c.jti), ("iat", .ofInt c.iat),
    ("nbf", .ofInt c.nbf), ("exp", .ofInt c.exp), ("iss", .text c.iss), ("aud", .text c.aud)]

/-- The claims that an object carries: each just once, and each with its type. -/
def ofJson? : Json → Option AccessClaims
  | .object members => do
    let field (name : String) := (Json.member? members name).bind id
    let sub ← (← field "sub").text?
    let typ ← (← field "typ").text?
    let jti ← (← field "jti").text?
    let iat ← (← field "iat").int64?
    let nbf ← (← field "nbf").int64?
    let exp ← (← field "exp").int64?
    let iss ← (← field "iss").text?
    let aud ← (← field "aud").text?
    some { sub, typ, jti, iat, nbf, exp, iss, aud }
  | _ => none

end AccessClaims

structure SignedAccess where
  token : String
  expiresAt : Instant
  deriving DecidableEq, Inhabited

structure AccessCodec where
  issuer : String
  audience : String
  ttl : Span
  key : List UInt8

namespace AccessCodec

def fewestKeyBytes : Nat := 32

def accessKind : String := "access"

/-- A lifetime that is not zero and ends within the calendar if it begins at `now`. -/
def checkLifetime (which : Lifetime) (ttl : Span) (now : Instant) : Except ConfigFault Unit :=
  if Span.longest < ttl.nanos then .error (.tooLong which)
  else
    match now.later? ttl with
    | none => .error (.outOfRange which)
    | some _ => .ok ()

def ofConfig (c : AccessConfig) (now : Instant) : Except TokenError AccessCodec :=
  if c.signingKey.length < fewestKeyBytes then
    .error (.config (.shortSigningKey c.signingKey.length))
  else if c.ttl.isZero then .error (.config (.zero .access))
  else
    match checkLifetime .access c.ttl now with
    | .error e => .error (.config e)
    | .ok () => .ok ⟨c.issuer, c.audience, c.ttl, c.signingKey⟩

/-! ## Signing -/

def header : Json := .object [("typ", .text "JWT"), ("alg", .text "HS256")]

def part (v : Json) : List Char := Base64.url.encodeChars (Utf8.encode v.render)

def signature (key : List UInt8) (message : List Char) : List Char :=
  Base64.url.encodeChars (Hmac.sha256 key (Utf8.encode (String.ofList message)))

def sealed (key : List UInt8) (payload : Json) : String :=
  let message := part header ++ '.' :: part payload
  String.ofList (message ++ '.' :: signature key message)

def claims (c : AccessCodec) (owner : OwnerId) (jti : String) (now expiresAt : Instant) :
    AccessClaims :=
  { sub := owner.text, typ := accessKind, jti, iat := now.secs, nbf := now.secs,
    exp := expiresAt.secs, iss := c.issuer, aud := c.audience }

/-- A token for `owner` that is good from `now` on. Nothing is drawn if its expiry would be out of
range. -/
def sign {τ : Type} [ByteSource τ] (c : AccessCodec) (owner : OwnerId) (now : Instant) (e : τ) :
    Except TokenError SignedAccess × τ :=
  match now.later? c.ttl with
  | none => (.error (.generation .accessExpiryOutOfRange), e)
  | some expiresAt =>
    match Uuid.draw e with
    | (none, e) => (.error .aborted, e)
    | (some jti, e) => (.ok ⟨sealed c.key (c.claims owner jti now expiresAt).toJson, expiresAt⟩, e)

/-! ## Checking -/

def splitLastDot : List Char → Option (List Char × List Char)
  | [] => none
  | c :: cs =>
    match splitLastDot cs with
    | some (before, after) => some (c :: before, after)
    | none => if c = '.' then some ([], cs) else none

def readPart? (cs : List Char) : Option Json :=
  (Base64.url.decodeChars? cs).bind Json.readBytes?

/-- The claims of a token with a right header and a right signature. -/
def claims? (c : AccessCodec) (token : String) : Option AccessClaims := do
  let (message, sig) ← splitLastDot token.toList
  let (head, payload) ← splitLastDot message
  let algorithm ← (readPart? head).bind Access.headerAlgorithm?
  if algorithm = "HS256" ∧ sig = signature c.key message then
    (readPart? payload).bind AccessClaims.ofJson?
  else none

/-- What claims are worth in the second `now`: that they have expired is told first, and of all else
only that they are not valid. -/
def judge (c : AccessCodec) (a : AccessClaims) (now : Int) : Except TokenError OwnerId :=
  if a.exp < 0 ∨ a.nbf < 0 then .error .invalid
  else if now < 0 then .error .aborted
  else if a.exp < now then .error .expired
  else if now < a.nbf ∨ a.iss ≠ c.issuer ∨ a.aud ≠ c.audience then .error .invalid
  else if a.typ ≠ accessKind ∨ a.sub = "" then .error .invalid
  else .ok ⟨a.sub⟩

/-- The owner that a token was made for, if it is good at `now`. -/
def verify (c : AccessCodec) (token : String) (now : Instant) : Except TokenError OwnerId :=
  match c.claims? token with
  | none => .error .invalid
  | some a => c.judge a now.secs

end AccessCodec
end Gatehouse
