import DeliveryService.Login
import DeliveryService.ProofLinks

namespace DeliveryService

inductive TokenType
  | access
  | refresh
deriving DecidableEq

def TokenType.value : TokenType → String
  | .access => "access"
  | .refresh => "refresh"

/-- The `typ` of the header of a token. -/
def TokenType.typ : TokenType → String
  | .access => "at+jwt"
  | .refresh => "rt+jwt"

/-- What a token is made as; a refresh token belongs to a family. -/
inductive TokenKind
  | access
  | refresh (familyId : UUID)
deriving DecidableEq

def TokenKind.type : TokenKind → TokenType
  | .access => .access
  | .refresh _ => .refresh

def TokenKind.family : TokenKind → Option UUID
  | .access => none
  | .refresh familyId => some familyId

/-- The fields of a header that `decode_token` reads. -/
structure JwtHeader where
  alg : Option String
  typ : Option String
deriving DecidableEq

/-- The claims of a token, with the times in seconds. -/
structure JwtClaims where
  sub : String
  type : String
  iss : String
  aud : String
  iat : Int
  nbf : Int
  exp : Int
  jti : String
  tenant : String
  family : Option String
deriving DecidableEq

/-- The library of tokens: `jwt.encode`, `jwt.get_unverified_header` and `jwt.decode` for HS256 with the required
claims and the leeway of `decode_token`; `none` is a `PyJWTError`. -/
structure JwtLibrary where
  encode : (header : JwtHeader) → (claims : JwtClaims) → (secret : String) → String
  getUnverifiedHeader : (token : String) → Option JwtHeader
  decode : (token secret issuer audience : String) → (now : Int) → Option JwtClaims

structure TokenSettings where
  jwt : JwtLibrary
  sha : Sha256
  secret : String
  issuer : String
  audience : String

/-- `timegm(moment.utctimetuple())` of a moment in microseconds. -/
def unixSeconds (moment : Int) : Int := (moment - epoch) / 1000000

/-- Thirty seconds in microseconds. -/
def tokenLeeway : Int := 30 * 1000000

/-- Fifteen minutes in microseconds. -/
def accessLifetime : Int := 15 * 60 * 1000000

section

variable (settings : TokenSettings)

/-- The header and the claims that `create_token` writes. -/
def tokenHeader (type : TokenType) : JwtHeader := ⟨some "HS256", some type.typ⟩

def tokenClaims (subject : String) (kind : TokenKind) (lifetime : Int) (tokenId : UUID) (issuedAt : Int)
    (tenantId : UUID) : JwtClaims where
  sub := subject
  type := kind.type.value
  iss := settings.issuer
  aud := settings.audience
  iat := unixSeconds issuedAt
  nbf := unixSeconds issuedAt
  exp := unixSeconds (issuedAt + lifetime)
  jti := tokenId.str
  tenant := tenantId.str
  family := kind.family.map UUID.str

def createToken (subject : String) (kind : TokenKind) (lifetime : Int) (tokenId : UUID) (issuedAt : Int)
    (tenantId : UUID) : String :=
  settings.jwt.encode (tokenHeader kind.type) (tokenClaims settings subject kind lifetime tokenId issuedAt tenantId)
    settings.secret

def invalidToken : HTTPException := ⟨401, "invalid token", bearerChallenge⟩

/-- `decode_token` at a moment in microseconds. -/
def decodeToken (token : String) (expected : TokenType) (now : Int) : Except HTTPException JwtClaims :=
  match settings.jwt.getUnverifiedHeader token with
  | none => .error invalidToken
  | some header =>
    if header.alg ≠ some "HS256" ∨ header.typ ≠ some expected.typ then .error invalidToken
    else match settings.jwt.decode token settings.secret settings.issuer settings.audience now with
      | none => .error invalidToken
      | some payload =>
        if payload.type ≠ expected.value then .error invalidToken
        else if (UUID.parse payload.jti.toList).isNone ∨ (UUID.parse payload.tenant.toList).isNone then
          .error invalidToken
        else if expected = .refresh ∧ (payload.family.bind fun family => UUID.parse family.toList).isNone then
          .error invalidToken
        else .ok payload

/-- What `current_actor` reads of a request. -/
structure ActorRequest where
  method : String
  bearer : Option String
  sessionCookie : Option String
  csrfCookie : Option String
  csrfHeader : Option String
  now : Int

def authenticationRequired : LoginError := .http ⟨401, "authentication required", bearerChallenge⟩

def csrfCheckFailed : LoginError := .http ⟨403, "CSRF check failed", []⟩

def ActorRequest.Safe (request : ActorRequest) : Prop := request.method ∈ ["GET", "HEAD", "OPTIONS"]

instance instDecidableSafe (request : ActorRequest) : Decidable request.Safe :=
  inferInstanceAs (Decidable (request.method ∈ ["GET", "HEAD", "OPTIONS"]))

def JwtClaims.actor (claims : JwtClaims) : Except LoginError Actor :=
  match actorFromClaims ⟨claims.sub, claims.tenant⟩ with
  | .error refused => .error (.http refused)
  | .ok actor => .ok actor

def ActorRequest.currentActor (request : ActorRequest) : Except LoginError Actor :=
  match request.bearer with
  | some token => match decodeToken settings token .access request.now with
    | .error refused => .error (.http refused)
    | .ok claims => claims.actor
  | none => match request.sessionCookie with
    | none => .error authenticationRequired
    | some sessionToken => match decodeToken settings sessionToken .access request.now with
      | .error refused => .error (.http refused)
      | .ok claims =>
        if request.Safe then claims.actor
        else match verifyCsrfToken settings.sha settings.secret request.csrfCookie request.csrfHeader claims.jti with
          | none => .error .unhandled
          | some false => .error csrfCheckFailed
          | some true => claims.actor

end

/-- The claims are in force at a moment, with the leeway on both sides. -/
def JwtClaims.InForce (claims : JwtClaims) (now : Int) : Prop :=
  claims.iat * 1000000 ≤ now - epoch + tokenLeeway ∧ claims.nbf * 1000000 ≤ now - epoch + tokenLeeway ∧
    now - epoch - tokenLeeway < claims.exp * 1000000

instance instDecidableInForce (claims : JwtClaims) (now : Int) : Decidable (claims.InForce now) := by
  unfold JwtClaims.InForce
  infer_instance

/-- The library reads a token back that it has made with the secret, for its issuer and audience and in its time. -/
structure JwtLibrary.ReadsBack (jwt : JwtLibrary) (secret : String) (header : JwtHeader) (claims : JwtClaims) : Prop where
  headerRead : jwt.getUnverifiedHeader (jwt.encode header claims secret) = some header
  claimsRead : ∀ issuer audience now, jwt.decode (jwt.encode header claims secret) secret issuer audience now =
    if claims.iss = issuer ∧ claims.aud = audience ∧ claims.InForce now then some claims else none

section

variable {settings : TokenSettings} {subject : String} {kind : TokenKind} {expected : TokenType}
  {lifetime issuedAt now : Int} {tokenId tenantId : UUID}

/-- From its second of issue to its second of expiry, a token is decoded as what it is and as nothing else. -/
theorem decodeToken_createToken
    (reads : settings.jwt.ReadsBack settings.secret (tokenHeader kind.type)
      (tokenClaims settings subject kind lifetime tokenId issuedAt tenantId)) :
    decodeToken settings (createToken settings subject kind lifetime tokenId issuedAt tenantId) expected now =
      if expected = kind.type ∧ (tokenClaims settings subject kind lifetime tokenId issuedAt tenantId).InForce now then
        .ok (tokenClaims settings subject kind lifetime tokenId issuedAt tenantId)
      else .error invalidToken := by
  unfold decodeToken createToken
  simp only [reads.headerRead, reads.claimsRead]
  by_cases same : expected = kind.type
  · subst same
    rw [if_neg (by simp [tokenHeader])]
    by_cases force : (tokenClaims settings subject kind lifetime tokenId issuedAt tenantId).InForce now
    · rw [if_pos ⟨rfl, rfl, force⟩, if_pos ⟨rfl, force⟩]
      cases kind <;> simp [tokenClaims, TokenKind.type, TokenKind.family, UUID.parse_str]
    · rw [if_neg fun all => force all.2.2, if_neg fun both => force both.2]
  · have other : kind.type.typ ≠ expected.typ := by
      cases kind <;> cases expected <;> simp_all [TokenType.typ, TokenKind.type]
    rw [if_pos (by simp [tokenHeader, other]), if_neg fun both => same both.1]

end

end DeliveryService
