import DeliveryService.Tokens

namespace DeliveryService

/-- The libraries and settings of the endpoints that hand out and read tokens. -/
structure AuthServices where
  tokens : TokenSettings
  folding : PyText.CaseFolding
  hasher : PasswordHasher
  compressed : String → Option String

/-- The services of a login whose own token is decoded at the given reading of the clock. -/
def AuthServices.at (services : AuthServices) (clock : Int) : LoginServices where
  folding := services.folding
  hasher := services.hasher
  sha := services.tokens.sha
  jwtSecret := services.tokens.secret
  compressed := services.compressed
  encodePair pair accessJti :=
    (createToken services.tokens pair.subject .access accessLifetime accessJti pair.issuedAt pair.tenantId,
      createToken services.tokens pair.subject (.refresh pair.familyId) refreshLifetime pair.refreshJti pair.issuedAt
        pair.tenantId)
  encodeAccess subject tenantId jti issuedAt :=
    createToken services.tokens subject .access accessLifetime jti issuedAt tenantId
  decodeJti token := match decodeToken services.tokens token .access clock with
    | .error refused => .error refused
    | .ok claims => .ok claims.jti

/-- The form of a refresh with the address of the client and the request id, and the three readings of the clock. -/
structure RefreshRequest where
  refreshToken : String
  client : Option String
  correlationId : String
  decodedAt : Int
  issuedAt : Int
  now : Moment
  token_sized : 20 ≤ refreshToken.length ∧ refreshToken.length ≤ 4096

structure RefreshDraws where
  eventId : UUID
  occurredAt : Moment
  accessJti : UUID
  refreshJti : UUID

/-- What the audit trail and the handlers of the exceptions read of the request. -/
def RefreshRequest.context (request : RefreshRequest) : LoginRequest :=
  ⟨"", "", request.client, request.correlationId, request.now⟩

section

variable (services : AuthServices) (draws : RefreshDraws) (s : LoginState) (request : RefreshRequest)

/-- The event that a refresh leaves in the audit trail. -/
def refreshEvent (subject outcome reasonCode : String) : AuditEvent :=
  ⟨authEvent (services.at request.decodedAt) request.context (some subject) subject "auth.refresh" outcome reasonCode "",
    draws.eventId, draws.occurredAt⟩

/-- `rotate_refresh_token` over the sessions of the process. -/
def refreshTokens : Except LoginError LoginResponse × LoginState :=
  match decodeToken services.tokens request.refreshToken .refresh request.decodedAt with
  | .error refused => (.error (.http refused), s)
  | .ok claims =>
    match claims.family.bind fun family => UUID.parse family.toList, UUID.parse claims.jti.toList,
        UUID.parse claims.tenant.toList with
    | some familyId, some presentedJti, some tenantId =>
      let pair := issueTokenPair claims.sub familyId tenantId draws.refreshJti request.issuedAt
      let (accessToken, refreshToken) := (services.at request.decodedAt).encodePair pair draws.accessJti
      match s.refreshSessions.rotate presentedJti familyId claims.sub pair.session request.now.1 with
      | (.rotated, refreshSessions) =>
        (.ok ⟨200, .tokenPair accessToken refreshToken "bearer" 900,
            [("Cache-Control", "no-store"), ("Pragma", "no-cache"), ("X-Request-ID", request.correlationId)], []⟩,
          { s with
            refreshSessions := refreshSessions
            audit := s.audit ++ [refreshEvent services draws request claims.sub "rotated" "refresh_rotated"] })
      | (result, refreshSessions) =>
        (.error (.http ⟨401, "invalid refresh token", bearerChallenge⟩),
          { s with
            refreshSessions := refreshSessions
            audit := s.audit ++ [refreshEvent services draws request claims.sub
              (if result = .reused then "reuse_detected" else "denied")
              (if result = .reused then "refresh_reuse_detected" else "invalid_refresh_session")] })
    | _, _, _ => (.error .unhandled, s)

end

/-- A request to the endpoints that hand out and read tokens, with what the client gets. -/
inductive AuthEvent
  | register (registration : Registration)
  | login (endpoint : LoginEndpoint) (draws : LoginDraws) (decodedAt : Int) (request : LoginRequest)
      (response : LoginResponse)
  | refresh (draws : RefreshDraws) (request : RefreshRequest) (response : LoginResponse)
  | authorize (request : ActorRequest) (answer : Except LoginError Actor)

inductive Auth (services : AuthServices) : LoginState → AuthEvent → LoginState → Prop
  | register (s : LoginState) (registration : Registration) :
      Auth services s (.register registration)
        { s with identities := (registerIdentity services.folding services.hasher s.identities registration).2 }
  | login (s : LoginState) (endpoint : LoginEndpoint) (draws : LoginDraws) (decodedAt : Int) (request : LoginRequest) :
      Auth services s
        (.login endpoint draws decodedAt request (endpoint.login (services.at decodedAt) draws s request).1)
        (endpoint.login (services.at decodedAt) draws s request).2
  | refresh (s : LoginState) (draws : RefreshDraws) (request : RefreshRequest) :
      Auth services s
        (.refresh draws request (respond request.context (refreshTokens services draws s request).1))
        (refreshTokens services draws s request).2
  | authorize (s : LoginState) (request : ActorRequest) :
      Auth services s (.authorize request (request.currentActor services.tokens)) s

/-- The tokens that a client finds in a response. -/
def LoginResponse.tokens (response : LoginResponse) : List String :=
  (match response.body with
    | .tokenPair accessToken refreshToken _ _ => [accessToken, refreshToken]
    | _ => []) ++
  (response.cookies.filter fun cookie => cookie.name = "__Host-delivery-session").map SetCookie.value

namespace AuthEvent

def tokens : AuthEvent → List String
  | .login _ _ _ _ response => response.tokens
  | .refresh _ _ response => response.tokens
  | _ => []

/-- The tokens that a client sends. -/
def presented : AuthEvent → List String
  | .refresh _ request _ => [request.refreshToken]
  | .authorize request _ => request.bearer.toList ++ request.sessionCookie.toList
  | _ => []

end AuthEvent

abbrev AuthTrace := List (Transition LoginState AuthEvent)

/-- What a token of the service says. -/
structure TokenGrant where
  kind : TokenKind
  subject : String
  tenantId : UUID
  tokenId : UUID
  issuedAt : Int

namespace TokenGrant

def lifetime (grant : TokenGrant) : Int := match grant.kind with
  | .access => accessLifetime
  | .refresh _ => refreshLifetime

def claims (settings : TokenSettings) (grant : TokenGrant) : JwtClaims :=
  tokenClaims settings grant.subject grant.kind grant.lifetime grant.tokenId grant.issuedAt grant.tenantId

def token (settings : TokenSettings) (grant : TokenGrant) : String :=
  createToken settings grant.subject grant.kind grant.lifetime grant.tokenId grant.issuedAt grant.tenantId

end TokenGrant

section

variable (services : AuthServices)

/-- Somebody has logged in as the subject, with its password and in its tenant. -/
def LoggedIn (trace : AuthTrace) (subject : String) (tenantId : UUID) : Prop :=
  ∃ t ∈ trace, ∃ endpoint draws decodedAt request response expected,
    t.label = .login endpoint draws decodedAt request response ∧
    loginSubject (services.at decodedAt) request = subject ∧
    t.pre.identities.tenants.get? subject = some tenantId ∧
    t.pre.identities.passwords.get? subject = some expected ∧
    services.hasher.verify (orDummy services.hasher (some expected)) request.password = true

/-- The library reads back what the service has handed out. -/
def ReadsIssued (trace : AuthTrace) : Prop :=
  ∀ t ∈ trace, ∀ grant : TokenGrant, grant.token services.tokens ∈ t.label.tokens →
    services.tokens.jwt.ReadsBack services.tokens.secret (tokenHeader grant.kind.type) (grant.claims services.tokens)

/-- Nobody but the service makes tokens that verify. -/
def Unforged (trace : AuthTrace) : Prop :=
  ∀ earlier t later, trace = earlier ++ t :: later → ∀ token ∈ t.label.presented, ∀ now claims,
    services.tokens.jwt.decode token services.tokens.secret services.tokens.issuer services.tokens.audience now =
      some claims → ∃ t' ∈ earlier, token ∈ t'.label.tokens

/-- An identity of the start, or one that registered itself. -/
def Provisioned (start : LoginState) (subject : String) (tenantId : UUID) : Prop :=
  start.identities.tenants.get? subject = some tenantId ∨
    tenantId = defaultTenantId ∧ ∃ userId, parseSubject subject = .ok ("customer", userId)

end

section

variable {services : AuthServices} {s : LoginState} {draws : LoginDraws} {decodedAt : Int} {request : LoginRequest}
  {action : String} {limitKeys : List String → List String} {who : Authenticated}

/-- Who passes the password check is a stored identity with its password. -/
theorem authenticate_ok {s' : LoginState}
    (passed : authenticate (services.at decodedAt) draws s request action limitKeys = (.ok who, s')) :
    who.subject = loginSubject (services.at decodedAt) request ∧
      s.identities.passwords.get? who.subject = some who.passwordHash ∧
      services.hasher.verify (orDummy services.hasher (some who.passwordHash)) request.password = true ∧
      s'.identities = s.identities := by
  unfold authenticate loginContext at passed
  simp only at passed
  generalize loginSubject (services.at decodedAt) request = subject at passed ⊢
  generalize sent : (if request.password.length ≤ 1024 then request.password else "invalid-password") = bounded at passed
  generalize s.limiter.checkMany loginRate (limitKeys _) request.now = limited at passed
  split at passed
  next => cases passed
  next limit _ =>
    split at passed
    next => cases passed
    next =>
      split at passed
      next => cases passed
      next expected stored =>
        split at passed
        next => cases passed
        next verified =>
          obtain ⟨checked, short⟩ := not_or.mp verified
          cases passed
          refine ⟨rfl, stored, ?_, rfl⟩
          rw [if_pos (not_lt.mp short)] at sent
          rw [not_not, checkPassword_verified, stored, ← sent] at checked
          exact checked

theorem authenticate_identities {s' : LoginState} {outcome : Except LoginError Authenticated}
    (passed : authenticate (services.at decodedAt) draws s request action limitKeys = (outcome, s')) :
    s'.identities = s.identities := by
  have same : (authenticate (services.at decodedAt) draws s request action limitKeys).2.identities = s.identities := by
    unfold authenticate loginContext
    simp only
    generalize (if request.password.length ≤ 1024 then request.password else "invalid-password") = bounded
    split
    next => rfl
    next =>
      split
      next => rfl
      next =>
        split
        next => rfl
        next =>
          split
          next => rfl
          next => rfl
  rwa [passed] at same

theorem tokens_refused (refused : LoginError) : (refused.response request).tokens = [] := by
  cases refused <;> rfl

@[simp]
theorem tenants_replacePasswordHash (identities : InMemoryIdentityRepository) (subject expected replacement : String) :
    (identities.replacePasswordHash subject expected replacement).tenants = identities.tenants := by
  unfold InMemoryIdentityRepository.replacePasswordHash
  split <;> rfl

/-- A pair goes to a subject that names an actor and has a tenant. -/
theorem issuePair_ok {s : LoginState} {response : LoginResponse}
    (answered : (issuePair (services.at decodedAt) draws request s who).1 = .ok response) :
    ∃ named tenantId, parseSubject who.subject = .ok named ∧ s.identities.tenants.get? who.subject = some tenantId ∧
      response.cookies = [] ∧ response.body = .tokenPair
        ((⟨.access, who.subject, tenantId, draws.accessJti, draws.issuedAt⟩ : TokenGrant).token services.tokens)
        ((⟨.refresh draws.familyId, who.subject, tenantId, draws.refreshJti, draws.issuedAt⟩ : TokenGrant).token
          services.tokens) "bearer" 900 := by
  unfold issuePair at answered
  -- a replaced hash leaves the tenants alone
  cases rehash : who.check.replacementHash with
  | none | some =>
    simp only [rehash, tenants_replacePasswordHash] at answered
    split at answered
    next => cases answered
    next named parsed =>
      split at answered
      next => cases answered
      next tenantId owned =>
        split at answered
        next => cases answered
        next =>
          obtain rfl := Except.ok.inj answered
          exact ⟨named, tenantId, parsed, owned, rfl, rfl⟩

theorem tenants_issuePair (s : LoginState) (who : Authenticated) :
    (issuePair (services.at decodedAt) draws request s who).2.identities.tenants = s.identities.tenants := by
  unfold issuePair
  cases who.check.replacementHash with
  | none | some =>
    simp only
    split
    next => simp
    next =>
      split
      next => simp
      next =>
        split
        next => simp
        next => simp [LoginState.record]

theorem openSession_ok {s : LoginState} {response : LoginResponse}
    (answered : (openSession (services.at decodedAt) draws request s who).1 = .ok response) :
    ∃ named tenantId jti, parseSubject who.subject = .ok named ∧
      s.identities.tenants.get? who.subject = some tenantId ∧
      (services.at decodedAt).decodeJti ((⟨.access, who.subject, tenantId, draws.accessJti, draws.issuedAt⟩ :
        TokenGrant).token services.tokens) = .ok jti ∧ response.body = .empty ∧
      response.cookies = [⟨"__Host-delivery-session",
          (⟨.access, who.subject, tenantId, draws.accessJti, draws.issuedAt⟩ : TokenGrant).token services.tokens, 900, true,
          true, "lax", "/"⟩,
        ⟨"__Host-delivery-csrf", newCsrfToken services.tokens.sha services.tokens.secret jti draws.nonce, 900, true,
          false, "lax", "/"⟩] := by
  unfold openSession at answered
  split at answered
  next => cases answered
  next named parsed =>
    split at answered
    next => cases answered
    next tenantId owned =>
      simp only at answered
      split at answered
      next => cases answered
      next jti decoded =>
        obtain rfl := Except.ok.inj answered
        exact ⟨named, tenantId, jti, parsed, owned, decoded, rfl, rfl⟩

theorem tenants_openSession (s : LoginState) (who : Authenticated) :
    (openSession (services.at decodedAt) draws request s who).2.identities.tenants = s.identities.tenants := by
  unfold openSession
  split
  next => rfl
  next =>
    split
    next => rfl
    next =>
      simp only
      split
      next => rfl
      next => rfl

/-- What a login does for who passes the check carries over to the endpoint. -/
theorem loginWith_effect (action : String) (limitKeys : List String → List String)
    {proceed : LoginState → Authenticated → Except LoginError LoginResponse × LoginState}
    (keeps : ∀ s who, (proceed s who).2.identities.tenants = s.identities.tenants)
    (gives : ∀ s who response, (proceed s who).1 = .ok response → ∀ token ∈ response.tokens, ∃ grant : TokenGrant,
      token = grant.token services.tokens ∧ grant.subject = who.subject ∧
      s.identities.tenants.get? who.subject = some grant.tenantId) :
    (loginWith (services.at decodedAt) draws s request action limitKeys proceed).2.identities.tenants =
        s.identities.tenants ∧
    ∀ token ∈ (respond request (loginWith (services.at decodedAt) draws s request action limitKeys proceed).1).tokens,
      ∃ (grant : TokenGrant) (expected : String),
      token = grant.token services.tokens ∧ grant.subject = loginSubject (services.at decodedAt) request ∧
      s.identities.tenants.get? grant.subject = some grant.tenantId ∧
      s.identities.passwords.get? grant.subject = some expected ∧
      services.hasher.verify (orDummy services.hasher (some expected)) request.password = true := by
  unfold loginWith
  rcases passed : authenticate (services.at decodedAt) draws s request action limitKeys with ⟨refused | who, s'⟩
  · refine ⟨congrArg InMemoryIdentityRepository.tenants (authenticate_identities passed), fun token mem => ?_⟩
    simp only [respond, tokens_refused, List.not_mem_nil] at mem
  · obtain ⟨subject, stored, verified, same⟩ := authenticate_ok passed
    have issued := gives s' who
    rw [same] at issued
    refine ⟨(keeps s' who).trans (congrArg InMemoryIdentityRepository.tenants same), fun token mem => ?_⟩
    simp only at mem
    cases answered : (proceed s' who).1 with
    | error refused =>
      rw [answered, respond, tokens_refused] at mem
      cases mem
    | ok response =>
      rw [answered] at mem
      obtain ⟨grant, made, named, owned⟩ := issued response answered token mem
      rw [← named] at owned stored
      exact ⟨grant, who.passwordHash, made, named.trans subject, owned, stored, verified⟩

/-- A login hands tokens only to a stored identity with its password and its tenant. -/
theorem login_effect (services : AuthServices) (s : LoginState) (draws : LoginDraws) (decodedAt : Int)
    (request : LoginRequest) (endpoint : LoginEndpoint) :
    (endpoint.login (services.at decodedAt) draws s request).2.identities.tenants = s.identities.tenants ∧
    ∀ token ∈ (endpoint.login (services.at decodedAt) draws s request).1.tokens, ∃ (grant : TokenGrant) (expected : String),
      token = grant.token services.tokens ∧ grant.subject = loginSubject (services.at decodedAt) request ∧
      s.identities.tenants.get? grant.subject = some grant.tenantId ∧
      s.identities.passwords.get? grant.subject = some expected ∧
      services.hasher.verify (orDummy services.hasher (some expected)) request.password = true := by
  unfold LoginEndpoint.login LoginEndpoint.handle
  cases endpoint with
  | issueToken =>
    refine loginWith_effect "auth.login" id tenants_issuePair fun s who response answered token given => ?_
    obtain ⟨-, tenantId, -, owned, cookies, body⟩ := issuePair_ok answered
    simp only [LoginResponse.tokens, body, cookies, List.filter_nil, List.map_nil, List.append_nil, List.mem_cons,
      List.not_mem_nil, or_false] at given
    rcases given with rfl | rfl
    · exact ⟨_, rfl, rfl, owned⟩
    · exact ⟨_, rfl, rfl, owned⟩
  | createBrowserSession =>
    simp only [Login.createBrowserSession]
    refine loginWith_effect "auth.browser_login" browserLimitKeys tenants_openSession
      fun s who response answered token given => ?_
    obtain ⟨-, tenantId, jti, -, owned, -, body, cookies⟩ := openSession_ok answered
    obtain rfl : token = _ := by simpa [LoginResponse.tokens, body, cookies] using given
    exact ⟨_, rfl, rfl, owned⟩

/-- A registration stores the tenant of a customer, or nothing. -/
theorem register_effect (registration : Registration) {subject : String} {tenantId : UUID}
    (owned : (registerIdentity services.folding services.hasher s.identities registration).2.tenants.get? subject =
      some tenantId) :
    s.identities.tenants.get? subject = some tenantId ∨
      tenantId = defaultTenantId ∧ ∃ userId, parseSubject subject = .ok ("customer", userId) := by
  cases valid : registration.valid with
  | false =>
    left
    simpa [registerIdentity, valid] using owned
  | true =>
    obtain ⟨raw, shape, -⟩ := Registration.valid_subject valid
    have customer := parseSubject_customer (lowerSubject_toList shape)
    simp only [registerIdentity, valid, ↓reduceIte, normalizeLoginSubject_valid services.folding valid] at owned
    split at owned
    next => exact .inl owned
    next role parsed =>
      unfold InMemoryIdentityRepository.add at owned
      split at owned
      next => exact .inl owned
      next stored added =>
        split_ifs at added
        obtain rfl := Option.some.inj added
        simp only [Dict.get?_set] at owned
        split_ifs at owned with here
        · obtain rfl := here
          refine .inr ⟨(Option.some.inj owned).symm, ?_⟩
          rw [customer]
          rw [customer] at parsed
          split at parsed
          next userId _ => exact ⟨userId, rfl⟩
          next => cases parsed
        · exact .inl owned

/-- A refresh hands tokens only for the claims of a refresh token that verifies. -/
theorem refresh_effect (services : AuthServices) (s : LoginState) (draws : RefreshDraws) (request : RefreshRequest) :
    (refreshTokens services draws s request).2.identities = s.identities ∧
    ∀ token ∈ (respond request.context (refreshTokens services draws s request).1).tokens,
      ∃ (grant : TokenGrant) (claims : JwtClaims), token = grant.token services.tokens ∧
        decodeToken services.tokens request.refreshToken .refresh request.decodedAt = .ok claims ∧
        grant.subject = claims.sub ∧ UUID.parse claims.tenant.toList = some grant.tenantId := by
  unfold refreshTokens
  cases decoded : decodeToken services.tokens request.refreshToken .refresh request.decodedAt with
  | error refused => exact ⟨rfl, fun token mem => (by simp [respond, tokens_refused] at mem)⟩
  | ok claims =>
    simp only
    split
    next familyId presentedJti tenantId _ _ tenant =>
      split
      next =>
        refine ⟨rfl, fun token mem => ?_⟩
        simp only [respond, LoginResponse.tokens, List.filter_nil, List.map_nil, List.append_nil, List.mem_cons,
          List.not_mem_nil, or_false] at mem
        rcases mem with rfl | rfl
        · exact ⟨⟨.access, claims.sub, tenantId, draws.accessJti, request.issuedAt⟩, claims, rfl, rfl, rfl, tenant⟩
        · exact ⟨⟨.refresh familyId, claims.sub, tenantId, draws.refreshJti, request.issuedAt⟩, claims, rfl, rfl, rfl,
            tenant⟩
      next => exact ⟨rfl, fun token mem => (by simp [respond, tokens_refused] at mem)⟩
    next => exact ⟨rfl, fun token mem => (by simp [respond, tokens_refused] at mem)⟩

theorem decode_of_decodeToken {settings : TokenSettings} {token : String} {expected : TokenType} {now : Int}
    {claims : JwtClaims} (decoded : decodeToken settings token expected now = .ok claims) :
    settings.jwt.decode token settings.secret settings.issuer settings.audience now = some claims := by
  unfold decodeToken at decoded
  split at decoded
  next => cases decoded
  next =>
    split at decoded
    next => cases decoded
    next =>
      split at decoded
      next => cases decoded
      next payload read =>
        split_ifs at decoded
        obtain rfl := Except.ok.inj decoded
        exact read

theorem actor_of_claims {claims : JwtClaims} {actor : Actor} (acts : claims.actor = .ok actor) :
    parseSubject claims.sub = .ok (actor.role.value, actor.userId) ∧
      UUID.parse claims.tenant.toList = some actor.tenantId := by
  unfold JwtClaims.actor at acts
  split at acts
  next => cases acts
  next actor' made =>
    obtain rfl := Except.ok.inj acts
    simp only [actorFromClaims] at made
    cases parsed : parseSubject claims.sub with
    | error refused => simp [parsed, bind, Except.bind] at made
    | ok named =>
      simp only [parsed, bind, Except.bind] at made
      split at made
      next role tenantId known tenant =>
        obtain rfl := Except.ok.inj made
        have value : role.value = named.1 := by
          unfold Role.ofValue at known
          simpa using List.find?_some known
        exact ⟨by rw [value], tenant⟩
      next => simp [throw, throwThe, MonadExceptOf.throw] at made

/-- Which token an actor comes from, and what else the request had to show. -/
theorem currentActor_ok {settings : TokenSettings} {request : ActorRequest} {actor : Actor}
    (acts : request.currentActor settings = .ok actor) :
    ∃ token claims, token ∈ request.bearer.toList ++ request.sessionCookie.toList ∧
      decodeToken settings token .access request.now = .ok claims ∧ claims.actor = .ok actor ∧
      (request.bearer = none → ¬ request.Safe →
        SignedFor settings.sha settings.secret claims.jti request.csrfCookie request.csrfHeader) := by
  unfold ActorRequest.currentActor at acts
  cases bearer : request.bearer with
  | some token =>
    rw [bearer] at acts
    simp only at acts
    split at acts
    next => cases acts
    next claims decoded => exact ⟨token, claims, by simp, decoded, acts, fun none => (by cases none)⟩
  | none =>
    rw [bearer] at acts
    simp only at acts
    split at acts
    next => cases acts
    next token session =>
      split at acts
      next => cases acts
      next claims decoded =>
        split at acts
        next safe => exact ⟨token, claims, by simp [session], decoded, acts, fun _ other => absurd safe other⟩
        next =>
          split at acts
          next => cases acts
          next => cases acts
          next verified =>
            refine ⟨token, claims, by simp [session], decoded, acts, fun _ _ => ?_⟩
            have within : ¬ BeyondAscii request.csrfCookie request.csrfHeader := fun beyond => by
              rw [raises_beyond_ascii _ _ _ beyond] at verified
              cases verified
            obtain ⟨passed, answered, signed⟩ := verifyCsrfToken_exact settings.sha settings.secret claims.jti within
            rw [verified] at answered
            exact signed.mp (Option.some.inj answered).symm

end

section

variable {services : AuthServices} {start s s' : LoginState} {trace before : AuthTrace}
  {t : Transition LoginState AuthEvent}

/-- The token is one of the service, for somebody who has logged in. -/
def Backed (services : AuthServices) (start : LoginState) (trace : AuthTrace) (token : String) : Prop :=
  ∃ grant : TokenGrant, token = grant.token services.tokens ∧ LoggedIn services trace grant.subject grant.tenantId ∧
    Provisioned start grant.subject grant.tenantId

/-- What is known of the tokens and the identities after a run. -/
structure Rooted (services : AuthServices) (start : LoginState) (trace : AuthTrace) (s : LoginState) : Prop where
  provisioned : ∀ subject tenantId, s.identities.tenants.get? subject = some tenantId →
    Provisioned start subject tenantId
  issued : ∀ t ∈ trace, ∀ token ∈ t.label.tokens, Backed services start trace token

theorem LoggedIn.later {subject : String} {tenantId : UUID} (known : LoggedIn services before subject tenantId)
    (more : AuthTrace) : LoggedIn services (before ++ more) subject tenantId := by
  obtain ⟨t, mem, rest⟩ := known
  exact ⟨t, List.mem_append_left _ mem, rest⟩

theorem ReadsIssued.earlier {more : AuthTrace} (reads : ReadsIssued services (before ++ more)) :
    ReadsIssued services before := fun t mem => reads t (List.mem_append_left _ mem)

theorem Unforged.earlier {more : AuthTrace} (unforged : Unforged services (before ++ more)) :
    Unforged services before := by
  rintro earlier t later rfl
  exact unforged earlier t (later ++ more) (by simp)

/-- A token that verifies was made for somebody who has logged in. -/
theorem Rooted.grant_of_decoded {token : String} {expected : TokenType} {now : Int} {claims : JwtClaims}
    (rooted : Rooted services start before s) (reads : ReadsIssued services before)
    (unforged : Unforged services (before ++ [t])) (sent : token ∈ t.label.presented)
    (decoded : decodeToken services.tokens token expected now = .ok claims) :
    ∃ grant : TokenGrant, token = grant.token services.tokens ∧ claims = grant.claims services.tokens ∧
      grant.kind.type = expected ∧ (grant.claims services.tokens).InForce now ∧
      LoggedIn services before grant.subject grant.tenantId ∧ Provisioned start grant.subject grant.tenantId := by
  obtain ⟨t', mem, given⟩ := unforged before t [] rfl token sent now claims (decode_of_decodeToken decoded)
  obtain ⟨grant, rfl, known, provisioned⟩ := rooted.issued t' mem token given
  rw [TokenGrant.token, decodeToken_createToken (reads t' mem grant given)] at decoded
  split_ifs at decoded with valid
  exact ⟨grant, rfl, (Except.ok.inj decoded).symm, valid.1.symm, valid.2, known, provisioned⟩

/-- The tokens of one more answer join the others. -/
theorem Rooted.append {l : AuthEvent} (rooted : Rooted services start before s)
    (provisioned : ∀ subject tenantId, s'.identities.tenants.get? subject = some tenantId →
      Provisioned start subject tenantId)
    (new : ∀ token ∈ l.tokens, Backed services start (before ++ [⟨s, l, s'⟩]) token) :
    Rooted services start (before ++ [⟨s, l, s'⟩]) s' := by
  refine ⟨provisioned, fun t mem token given => ?_⟩
  rcases List.mem_append.mp mem with old | last
  · obtain ⟨grant, made, known, provisioned⟩ := rooted.issued t old token given
    exact ⟨grant, made, known.later _, provisioned⟩
  · obtain rfl := List.mem_singleton.mp last
    exact new token given

theorem Rooted.next {l : AuthEvent} (rooted : Rooted services start before s)
    (reads : ReadsIssued services before) (unforged : Unforged services (before ++ [⟨s, l, s'⟩]))
    (step : Auth services s l s') : Rooted services start (before ++ [⟨s, l, s'⟩]) s' := by
  cases step with
  | register registration =>
    refine rooted.append (fun subject tenantId owned => ?_) fun token mem => (by cases mem)
    rcases register_effect registration owned with kept | customer
    · exact rooted.provisioned subject tenantId kept
    · exact .inr customer
  | login endpoint draws decodedAt request =>
    obtain ⟨tenants, issued⟩ := login_effect services s draws decodedAt request endpoint
    refine rooted.append (fun subject tenantId owned => rooted.provisioned subject tenantId (tenants ▸ owned)) ?_
    intro token given
    obtain ⟨grant, expected, made, named, owned, stored, verified⟩ := issued token given
    exact ⟨grant, made, ⟨_, List.mem_append_right _ (List.mem_singleton.mpr rfl), endpoint, draws, decodedAt, request, _,
      expected, rfl, named.symm, owned, stored, verified⟩, rooted.provisioned _ _ owned⟩
  | refresh draws request =>
    obtain ⟨identities, issued⟩ := refresh_effect services s draws request
    refine rooted.append (fun subject tenantId owned => rooted.provisioned subject tenantId (identities ▸ owned)) ?_
    intro token given
    obtain ⟨grant, claims, made, decoded, subject, tenant⟩ := issued token given
    obtain ⟨grant', -, rfl, -, -, known, provisioned⟩ :=
      rooted.grant_of_decoded reads unforged (List.mem_singleton.mpr rfl) decoded
    have sameTenant : grant'.tenantId = grant.tenantId := Option.some.inj ((UUID.parse_str _).symm.trans tenant)
    have sameSubject : grant'.subject = grant.subject := subject.symm
    rw [sameSubject, sameTenant] at known provisioned
    exact ⟨grant, made, known.later _, provisioned⟩
  | authorize request => exact rooted.append rooted.provisioned fun token mem => (by cases mem)

theorem rooted_run (run : Exec (Auth services) start trace s) (reads : ReadsIssued services trace)
    (unforged : Unforged services trace) : Rooted services start trace s := by
  induction run with
  | start => exact ⟨fun subject tenantId owned => .inl owned, fun t mem => (by cases mem)⟩
  | next previous taken ih => exact (ih reads.earlier unforged.earlier).next reads.earlier unforged taken

/-- A grant is in force from about its issue to half a minute after its end. -/
theorem TokenGrant.within_of_inForce {settings : TokenSettings} {grant : TokenGrant} {now : Int}
    (force : (grant.claims settings).InForce now) :
    grant.issuedAt - 31 * 1000000 < now ∧ now < grant.issuedAt + grant.lifetime + 30 * 1000000 := by
  obtain ⟨issued, -, ends⟩ := force
  simp only [TokenGrant.claims, tokenClaims, unixSeconds, tokenLeeway] at issued ends
  omega

/-- Who acts has logged in: an access token of the service stands behind every request that is authorized, younger
than fifteen and a half minutes and in the name and the tenant of a login with the right password, and a
cookie alone authorizes no unsafe request. Nobody registers as anything but a customer of the first tenant. -/
theorem actors_have_logged_in (run : Exec (Auth services) start trace s) (reads : ReadsIssued services trace)
    (unforged : Unforged services trace) {earlier later : AuthTrace} {request : ActorRequest} {actor : Actor}
    (split : trace = earlier ++ t :: later) (acts : t.label = .authorize request (.ok actor)) :
    ∃ grant : TokenGrant, grant.kind = .access ∧
      grant.token services.tokens ∈ request.bearer.toList ++ request.sessionCookie.toList ∧
      request.now < grant.issuedAt + 930 * 1000000 ∧ grant.issuedAt < request.now + 31 * 1000000 ∧
      parseSubject grant.subject = .ok (actor.role.value, actor.userId) ∧
      LoggedIn services earlier grant.subject actor.tenantId ∧
      Provisioned start grant.subject actor.tenantId ∧
      (request.bearer = none → ¬ request.Safe → SignedFor services.tokens.sha services.tokens.secret grant.tokenId.str
        request.csrfCookie request.csrfHeader) := by
  subst split
  obtain ⟨previous, taken, -⟩ := run.split
  have known := rooted_run previous reads.earlier unforged.earlier
  have upTo : Unforged services (earlier ++ [t]) := by
    have whole := unforged
    rw [List.append_cons] at whole
    exact whole.earlier
  have answered : request.currentActor services.tokens = .ok actor := by
    rw [acts] at taken
    generalize (Except.ok actor : Except LoginError Actor) = outcome, t.pre = pre, t.post = post at taken ⊢
    cases taken
    rfl
  obtain ⟨token, claims, sent, decoded, made, signed⟩ := currentActor_ok answered
  have presented : token ∈ t.label.presented := by
    rw [acts]
    exact sent
  obtain ⟨grant, rfl, rfl, kind, force, logged, provisioned⟩ :=
    known.grant_of_decoded reads.earlier upTo presented decoded
  obtain ⟨parsed, tenant⟩ := actor_of_claims made
  have sameTenant : grant.tenantId = actor.tenantId := Option.some.inj ((UUID.parse_str _).symm.trans tenant)
  have access : grant.kind = .access := by
    cases same : grant.kind with
    | access => rfl
    | refresh familyId =>
      rw [same] at kind
      cases kind
  have time := TokenGrant.within_of_inForce force
  have lifetime : grant.lifetime = 900 * 1000000 := by
    rw [TokenGrant.lifetime, access]
    rfl
  rw [sameTenant] at logged provisioned
  exact ⟨grant, access, sent, by omega, by omega, parsed, logged, provisioned, signed⟩

end

/-- The tokens of the login below under the default settings. -/
def accessText : String :=
  "eyJhbGciOiJIUzI1NiIsInR5cCI6ImF0K2p3dCJ9.eyJzdWIiOiJjdXN0b21lcjowMDAwMDAwMC0wMDAwLTAwMDAtMDAwMC0" ++
    "wMDAwMDAwMDAwMGEiLCJ0eXBlIjoiYWNjZXNzIiwiaXNzIjoiZGVsaXZlcnktc2VydmljZSIsImF1ZCI6ImRlbGl2ZXJ5LWF" ++
    "waSIsImlhdCI6MTc2NzIyNTYwMCwibmJmIjoxNzY3MjI1NjAwLCJleHAiOjE3NjcyMjY1MDAsImp0aSI6IjAwMDAwMDAwLTA" ++
    "wMDAtMDAwMC0wMDAwLTAwMDAwMDAwMDAwMSIsInRlbmFudCI6IjAwMDAwMDAwLTAwMDAtMDAwMC0wMDAwLTAwMDAwMDAwMDA" ++
    "wMSJ9.4zVR9MXmahTmHOVZjHPyTDCjSGmuJQv52A_HM3eEyko"

def refreshText : String :=
  "eyJhbGciOiJIUzI1NiIsInR5cCI6InJ0K2p3dCJ9.eyJzdWIiOiJjdXN0b21lcjowMDAwMDAwMC0wMDAwLTAwMDAtMDAwMC0" ++
    "wMDAwMDAwMDAwMGEiLCJ0eXBlIjoicmVmcmVzaCIsImlzcyI6ImRlbGl2ZXJ5LXNlcnZpY2UiLCJhdWQiOiJkZWxpdmVyeS1" ++
    "hcGkiLCJpYXQiOjE3NjcyMjU2MDAsIm5iZiI6MTc2NzIyNTYwMCwiZXhwIjoxNzY3ODMwNDAwLCJqdGkiOiIwMDAwMDAwMC0" ++
    "wMDAwLTAwMDAtMDAwMC0wMDAwMDAwMDAwMDIiLCJ0ZW5hbnQiOiIwMDAwMDAwMC0wMDAwLTAwMDAtMDAwMC0wMDAwMDAwMDA" ++
    "wMDEiLCJmYW1pbHkiOiIwMDAwMDAwMC0wMDAwLTAwMDAtMDAwMC0wMDAwMDAwMDAwMDMifQ.K7x490VFISxTKDK3wnnW0gz0" ++
    "ZWL5ghBbaJwuULccvnk"

def sampleClaims (type jti : String) (exp : Int) (family : Option String) : JwtClaims where
  sub := "customer:00000000-0000-0000-0000-00000000000a"
  type := type
  iss := "delivery-service"
  aud := "delivery-api"
  iat := 1767225600
  nbf := 1767225600
  exp := exp
  jti := jti
  tenant := "00000000-0000-0000-0000-000000000001"
  family := family

def accessClaims : JwtClaims := sampleClaims "access" "00000000-0000-0000-0000-000000000001" 1767226500 none

def refreshClaims : JwtClaims :=
  sampleClaims "refresh" "00000000-0000-0000-0000-000000000002" 1767830400
    (some "00000000-0000-0000-0000-000000000003")

def sampleSecret : String := "local-development-only-change-me"

/-- A library that knows these two tokens. -/
def sampleJwt : JwtLibrary where
  encode header claims secret :=
    if header = tokenHeader .access ∧ claims = accessClaims ∧ secret = sampleSecret then accessText
    else if header = tokenHeader .refresh ∧ claims = refreshClaims ∧ secret = sampleSecret then refreshText
    else ""
  getUnverifiedHeader token :=
    if token = accessText then some (tokenHeader .access)
    else if token = refreshText then some (tokenHeader .refresh)
    else none
  decode token secret issuer audience now :=
    if secret = sampleSecret ∧ issuer = "delivery-service" ∧ audience = "delivery-api" then
      if token = accessText ∧ accessClaims.InForce now then some accessClaims
      else if token = refreshText ∧ refreshClaims.InForce now then some refreshClaims
      else none
    else none

def sampleServices : AuthServices where
  tokens := ⟨sampleJwt, clearServices.sha, sampleSecret, "delivery-service", "delivery-api"⟩
  folding := PyText.asciiFolding
  hasher := clearServices.hasher
  compressed := some

def customerLogin : LoginRequest :=
  ⟨"customer:00000000-0000-0000-0000-00000000000A", "correct horse battery", some "203.0.113.9", "request-1", newYear⟩

def customerDraws : LoginDraws := { clearDraws 7 newYear with issuedAt := newYear.1 }

def customerStart : LoginState :=
  { emptyLogin with identities := customerWith (clearServices.hasher.hash "correct horse battery" "2") }

def customerRead : ActorRequest := ⟨"GET", some accessText, none, none, none, newYear.1 + 900000000⟩

def loginEvent : AuthEvent :=
  .login .issueToken customerDraws newYear.1 customerLogin
    (LoginEndpoint.issueToken.login (sampleServices.at newYear.1) customerDraws customerStart customerLogin).1

theorem texts_apart : accessText ≠ refreshText ∧ accessText ≠ "" ∧ refreshText ≠ "" := by decide +kernel

theorem loginEvent_tokens : loginEvent.tokens = [accessText, refreshText] := by decide +kernel

theorem customerRead_acts : customerRead.currentActor sampleServices.tokens = .ok ⟨10, .customer, 1⟩ := by
  decide +kernel

theorem readsBack_access : sampleJwt.ReadsBack sampleSecret (tokenHeader .access) accessClaims := by
  have made : sampleJwt.encode (tokenHeader .access) accessClaims sampleSecret = accessText := by
    simp [sampleJwt]
  refine ⟨by rw [made]; simp [sampleJwt], fun issuer audience now => ?_⟩
  have names : accessClaims.iss = "delivery-service" ∧ accessClaims.aud = "delivery-api" := ⟨rfl, rfl⟩
  rw [made, names.1, names.2]
  by_cases force : accessClaims.InForce now <;> simp [sampleJwt, texts_apart.1, force, eq_comm]

theorem readsBack_refresh : sampleJwt.ReadsBack sampleSecret (tokenHeader .refresh) refreshClaims := by
  have other : tokenHeader .refresh ≠ tokenHeader .access := by decide
  have made : sampleJwt.encode (tokenHeader .refresh) refreshClaims sampleSecret = refreshText := by
    simp [sampleJwt, other]
  refine ⟨by rw [made]; simp [sampleJwt, texts_apart.1.symm], fun issuer audience now => ?_⟩
  have names : refreshClaims.iss = "delivery-service" ∧ refreshClaims.aud = "delivery-api" := ⟨rfl, rfl⟩
  rw [made, names.1, names.2]
  by_cases force : refreshClaims.InForce now <;> simp [sampleJwt, texts_apart.1.symm, force, eq_comm]

theorem readsBack_sample {grant : TokenGrant} (known : grant.token sampleServices.tokens ∈ [accessText, refreshText]) :
    sampleJwt.ReadsBack sampleSecret (tokenHeader grant.kind.type) (grant.claims sampleServices.tokens) := by
  simp only [List.mem_cons, List.not_mem_nil, or_false] at known
  change sampleJwt.encode (tokenHeader grant.kind.type) (grant.claims sampleServices.tokens) sampleSecret = accessText ∨
    sampleJwt.encode (tokenHeader grant.kind.type) (grant.claims sampleServices.tokens) sampleSecret = refreshText at known
  simp only [sampleJwt] at known
  split_ifs at known with access refresh
  · rw [access.1, access.2.1]
    exact readsBack_access
  · rw [refresh.1, refresh.2.1]
    exact readsBack_refresh
  · rcases known with empty | empty
    · exact absurd empty.symm texts_apart.2.1
    · exact absurd empty.symm texts_apart.2.2

def afterLogin : LoginState :=
  (LoginEndpoint.issueToken.login (sampleServices.at newYear.1) customerDraws customerStart customerLogin).2

def loginStep : Transition LoginState AuthEvent := ⟨customerStart, loginEvent, afterLogin⟩

/-- Fifteen minutes after the login its token still works, by the leeway. -/
def readStep : Transition LoginState AuthEvent :=
  ⟨afterLogin, .authorize customerRead (.ok ⟨10, .customer, 1⟩), afterLogin⟩

theorem sample_run : Exec (Auth sampleServices) customerStart [loginStep, readStep] afterLogin := by
  have first : Auth sampleServices customerStart loginEvent afterLogin := .login ..
  have second : Auth sampleServices afterLogin (.authorize customerRead (.ok ⟨10, .customer, 1⟩)) afterLogin := by
    rw [← customerRead_acts]
    exact .authorize afterLogin customerRead
  exact (Exec.start.next first).next second

theorem customer_acts_after_login : ∃ subject, LoggedIn sampleServices [loginStep] subject 1 ∧
    parseSubject subject = .ok ("customer", 10) := by
  have reads : ReadsIssued sampleServices [loginStep, readStep] := by
    intro t mem grant issued
    simp only [List.mem_cons, List.not_mem_nil, or_false] at mem
    rcases mem with rfl | rfl
    · rw [loginStep, loginEvent_tokens] at issued
      exact readsBack_sample issued
    · cases issued
  have unforged : Unforged sampleServices [loginStep, readStep] := by
    intro earlier t later split token sent now claims _
    match earlier, split with
    | [], split =>
      obtain ⟨rfl, -⟩ := List.cons.inj split
      cases sent
    | [_], split =>
      simp only [List.cons_append, List.nil_append, List.cons.injEq] at split
      obtain ⟨rfl, rfl, -⟩ := split
      obtain rfl : token = accessText := by simpa [readStep, AuthEvent.presented, customerRead] using sent
      refine ⟨_, List.mem_singleton.mpr rfl, ?_⟩
      rw [loginStep, loginEvent_tokens]
      exact List.mem_cons_self ..
    | _ :: _ :: _, split => simp at split
  obtain ⟨grant, -, -, -, -, parsed, logged, -⟩ :=
    actors_have_logged_in sample_run reads unforged (show _ = [loginStep] ++ readStep :: [] from rfl) rfl
  exact ⟨grant.subject, logged, parsed⟩

section

variable {services : AuthServices} {s : LoginState} {draws : LoginDraws} {decodedAt : Int} {request : LoginRequest}

/-- From half a minute before the second of issue to fifteen and a half minutes after it. -/
def AccessWindow (issuedAt now : Int) : Prop :=
  unixSeconds issuedAt * 1000000 - 30 * 1000000 ≤ now - epoch ∧
    now - epoch < unixSeconds issuedAt * 1000000 + 930 * 1000000

instance instDecidableAccessWindow (issuedAt now : Int) : Decidable (AccessWindow issuedAt now) := by
  unfold AccessWindow
  infer_instance

theorem inForce_access_iff {settings : TokenSettings} {subject : String} {tokenId tenantId : UUID} {issuedAt now : Int} :
    (tokenClaims settings subject .access accessLifetime tokenId issuedAt tenantId).InForce now ↔
      AccessWindow issuedAt now := by
  simp only [JwtClaims.InForce, AccessWindow, tokenClaims, unixSeconds, tokenLeeway, accessLifetime]
  omega

/-- The claims of a token for a subject in a tenant make its actor. -/
theorem actor_tokenClaims {settings : TokenSettings} {subject : String} {kind : TokenKind} {lifetime issuedAt : Int}
    {tokenId tenantId userId : UUID} {role : Role} (parsed : parseSubject subject = .ok (role.value, userId)) :
    (tokenClaims settings subject kind lifetime tokenId issuedAt tenantId).actor = .ok ⟨userId, role, tenantId⟩ := by
  have known : Role.ofValue role.value = some role := by cases role <;> decide
  simp [JwtClaims.actor, actorFromClaims, tokenClaims, parsed, known, UUID.parse_str, bind, Except.bind, pure,
    Except.pure]

theorem role_of_parseSubject {subject role : String} {userId : UUID} (parsed : parseSubject subject = .ok (role, userId)) :
    ∃ known : Role, known.value = role := by
  unfold parseSubject at parsed
  simp only at parsed
  split at parsed
  next => cases parsed
  next =>
    split at parsed
    next listed =>
      split at parsed
      next =>
        cases parsed
        simp only [List.mem_cons, List.not_mem_nil, or_false] at listed
        rcases listed with same | same | same
        · exact ⟨.customer, same.symm⟩
        · exact ⟨.courier, same.symm⟩
        · exact ⟨.dispatcher, same.symm⟩
      next => cases parsed
    next => cases parsed

/-- The access token authorizes its actor in its time and nobody at any other time; the refresh token nobody. -/
def BearerOpens (settings : TokenSettings) (issuedAt : Int) (response : LoginResponse) (actor : Actor) : Prop :=
  ∃ accessToken refreshToken, response.body = .tokenPair accessToken refreshToken "bearer" 900 ∧
    (∀ call : ActorRequest, call.bearer = some accessToken →
      call.currentActor settings = if AccessWindow issuedAt call.now then .ok actor else .error (.http invalidToken)) ∧
    ∀ call : ActorRequest, call.bearer = some refreshToken → call.currentActor settings = .error (.http invalidToken)

/-- The session cookie authorizes its actor in its time: a safe request on its own, any other with the token that came
with it, and otherwise not. An unsafe request fails the CSRF check, or in it where a value has a character outside
ASCII. -/
def CookieOpens (settings : TokenSettings) (issuedAt : Int) (jti : String) (response : LoginResponse) (actor : Actor) :
    Prop :=
  ∃ session csrf, response.cookies.map (fun cookie => (cookie.name, cookie.value)) =
      [("__Host-delivery-session", session), ("__Host-delivery-csrf", csrf)] ∧
    ∀ call : ActorRequest, call.bearer = none → call.sessionCookie = some session →
      (¬ AccessWindow issuedAt call.now → call.currentActor settings = .error (.http invalidToken)) ∧
      (AccessWindow issuedAt call.now → call.Safe → call.currentActor settings = .ok actor) ∧
      (AccessWindow issuedAt call.now → call.csrfCookie = some csrf → call.csrfHeader = some csrf →
        call.currentActor settings = .ok actor) ∧
      (AccessWindow issuedAt call.now → ¬ call.Safe → ¬ BeyondAscii call.csrfCookie call.csrfHeader →
        ¬ SignedFor settings.sha settings.secret jti call.csrfCookie call.csrfHeader →
        call.currentActor settings = .error csrfCheckFailed) ∧
      (AccessWindow issuedAt call.now → ¬ call.Safe → BeyondAscii call.csrfCookie call.csrfHeader →
        call.currentActor settings = .error .unhandled)

def LoginEndpoint.Opens (settings : TokenSettings) (draws : LoginDraws) (response : LoginResponse) (actor : Actor) :
    LoginEndpoint → Prop
  | .issueToken => BearerOpens settings draws.issuedAt response actor
  | .createBrowserSession => CookieOpens settings draws.issuedAt draws.accessJti.str response actor

/-- The library reads back what the response holds. -/
def ReadsResponse (settings : TokenSettings) (response : LoginResponse) : Prop :=
  ∀ grant : TokenGrant, grant.token settings ∈ response.tokens →
    settings.jwt.ReadsBack settings.secret (tokenHeader grant.kind.type) (grant.claims settings)

theorem verifyCsrfToken_new (sha : Sha256) (jwtSecret sessionJti : String) (nonce : UrlSafeToken) :
    verifyCsrfToken sha jwtSecret (some (newCsrfToken sha jwtSecret sessionJti nonce))
      (some (newCsrfToken sha jwtSecret sessionJti nonce)) sessionJti = some true := by
  have within := not_beyondAscii (newCsrfToken_ascii sha jwtSecret sessionJti nonce)
  obtain ⟨passed, verified, signed⟩ := verifyCsrfToken_exact sha jwtSecret sessionJti within
  obtain rfl : passed = true := signed.mpr ⟨nonce.text, nonce.nonempty, rfl, rfl⟩
  exact verified

/-- A token of the service is read in its time as what it is. -/
theorem decodeToken_grant {settings : TokenSettings} {grant : TokenGrant} {expected : TokenType} {now : Int}
    (reads : settings.jwt.ReadsBack settings.secret (tokenHeader grant.kind.type) (grant.claims settings)) :
    decodeToken settings (grant.token settings) expected now =
      if expected = grant.kind.type ∧ (grant.claims settings).InForce now then .ok (grant.claims settings)
      else .error invalidToken := decodeToken_createToken reads

theorem bearerOpens_of_issued {settings : TokenSettings} {subject : String} {role : Role}
    {userId tenantId accessJti refreshJti familyId : UUID} {issuedAt : Int} {response : LoginResponse}
    (reads : ReadsResponse settings response) (parsed : parseSubject subject = .ok (role.value, userId))
    (body : response.body = .tokenPair
      ((⟨.access, subject, tenantId, accessJti, issuedAt⟩ : TokenGrant).token settings)
      ((⟨.refresh familyId, subject, tenantId, refreshJti, issuedAt⟩ : TokenGrant).token settings) "bearer" 900) :
    BearerOpens settings issuedAt response ⟨userId, role, tenantId⟩ := by
  refine ⟨_, _, body, fun call bearer => ?_, fun call bearer => ?_⟩
  · have read := reads ⟨.access, subject, tenantId, accessJti, issuedAt⟩ (by simp [LoginResponse.tokens, body])
    simp only [ActorRequest.currentActor, bearer, decodeToken_grant read, TokenKind.type, true_and]
    have window : ((⟨.access, subject, tenantId, accessJti, issuedAt⟩ : TokenGrant).claims settings).InForce call.now ↔
        AccessWindow issuedAt call.now := inForce_access_iff
    simp only [window]
    split_ifs
    · exact actor_tokenClaims parsed
    · rfl
  · have read := reads ⟨.refresh familyId, subject, tenantId, refreshJti, issuedAt⟩
      (by simp [LoginResponse.tokens, body])
    simp only [ActorRequest.currentActor, bearer, decodeToken_grant read, TokenKind.type, reduceCtorEq, false_and, if_false]

theorem cookieOpens_of_issued {settings : TokenSettings} {subject : String} {role : Role}
    {userId tenantId accessJti : UUID} {issuedAt : Int} {response : LoginResponse} {nonce : UrlSafeToken}
    (reads : ReadsResponse settings response) (parsed : parseSubject subject = .ok (role.value, userId))
    (cookies : response.cookies = [⟨"__Host-delivery-session",
        (⟨.access, subject, tenantId, accessJti, issuedAt⟩ : TokenGrant).token settings, 900, true, true, "lax", "/"⟩,
      ⟨"__Host-delivery-csrf", newCsrfToken settings.sha settings.secret accessJti.str nonce, 900, true, false, "lax",
        "/"⟩]) :
    CookieOpens settings issuedAt accessJti.str response ⟨userId, role, tenantId⟩ := by
  have read := reads ⟨.access, subject, tenantId, accessJti, issuedAt⟩ (by simp [LoginResponse.tokens, cookies])
  have window : ∀ now, ((⟨.access, subject, tenantId, accessJti, issuedAt⟩ : TokenGrant).claims settings).InForce now ↔
      AccessWindow issuedAt now := fun now => inForce_access_iff
  have acts : ((⟨.access, subject, tenantId, accessJti, issuedAt⟩ : TokenGrant).claims settings).actor =
      .ok ⟨userId, role, tenantId⟩ := actor_tokenClaims parsed
  have jti : ((⟨.access, subject, tenantId, accessJti, issuedAt⟩ : TokenGrant).claims settings).jti = accessJti.str := rfl
  refine ⟨_, _, by rw [cookies]; rfl, fun call bearer session => ?_⟩
  simp only [ActorRequest.currentActor, bearer, session, decodeToken_grant read, TokenKind.type, true_and, window]
  refine ⟨fun outside => ?_, fun inside safe => ?_, fun inside cookie header => ?_,
    fun inside other within unsigned => ?_, fun inside other beyond => ?_⟩
  · simp only [outside, if_false]
  · simp only [inside, if_true, safe, acts]
  · by_cases safe : call.Safe
    · simp only [inside, if_true, safe, acts]
    · simp only [inside, if_true, safe, if_false, cookie, header, jti, verifyCsrfToken_new, acts]
  · obtain ⟨passed, verified, signed⟩ := verifyCsrfToken_exact settings.sha settings.secret accessJti.str within
    obtain rfl : passed = false := eq_false_of_ne_true (mt signed.mp unsigned)
    simp only [inside, if_true, other, if_false, jti, verified]
  · have raised := raises_beyond_ascii settings.sha settings.secret accessJti.str beyond
    simp only [inside, if_true, other, if_false, jti, raised]

/-- A response with tokens comes from the part behind the password check. -/
theorem response_of_tokens {action : String} {limitKeys : List String → List String}
    {proceed : LoginState → Authenticated → Except LoginError LoginResponse × LoginState}
    (given : (respond request (loginWith (services.at decodedAt) draws s request action limitKeys proceed).1).tokens ≠
      []) :
    ∃ who s' response, authenticate (services.at decodedAt) draws s request action limitKeys = (.ok who, s') ∧
      (proceed s' who).1 = .ok response ∧
      respond request (loginWith (services.at decodedAt) draws s request action limitKeys proceed).1 = response := by
  unfold loginWith at given ⊢
  rcases passed : authenticate (services.at decodedAt) draws s request action limitKeys with ⟨refused | who, s'⟩
  · rw [passed] at given
    exact absurd (tokens_refused refused) given
  · rw [passed] at given
    simp only at given ⊢
    cases answered : (proceed s' who).1 with
    | error refused =>
      rw [answered] at given
      exact absurd (tokens_refused refused) given
    | ok response => exact ⟨who, s', response, rfl, answered, rfl⟩

/-- A login that hands out tokens opens the actor of its subject: the bearer token and the session cookie
authorize it from the second of issue on for fifteen minutes, give or take the leeway, and in no other way. -/
theorem logins_open_their_actor (services : AuthServices) (s : LoginState) (draws : LoginDraws) (decodedAt : Int)
    (request : LoginRequest) (endpoint : LoginEndpoint)
    (given : (endpoint.login (services.at decodedAt) draws s request).1.tokens ≠ [])
    (reads : ReadsResponse services.tokens (endpoint.login (services.at decodedAt) draws s request).1) :
    ∃ actor : Actor,
      parseSubject (loginSubject (services.at decodedAt) request) = .ok (actor.role.value, actor.userId) ∧
      s.identities.tenants.get? (loginSubject (services.at decodedAt) request) = some actor.tenantId ∧
      endpoint.Opens services.tokens draws (endpoint.login (services.at decodedAt) draws s request).1 actor := by
  unfold LoginEndpoint.login LoginEndpoint.handle at *
  cases endpoint with
  | issueToken =>
    simp only [Login.issueToken] at given reads ⊢
    obtain ⟨who, s', response, passed, proceeded, answer⟩ := response_of_tokens given
    rw [answer] at reads ⊢
    obtain ⟨subject, -, -, same⟩ := authenticate_ok passed
    obtain ⟨⟨role, userId⟩, tenantId, parsed, owned, -, body⟩ := issuePair_ok proceeded
    obtain ⟨role, rfl⟩ := role_of_parseSubject parsed
    rw [same] at owned
    rw [← subject]
    exact ⟨⟨userId, role, tenantId⟩, parsed, owned, bearerOpens_of_issued reads parsed body⟩
  | createBrowserSession =>
    simp only [Login.createBrowserSession] at given reads ⊢
    obtain ⟨who, s', response, passed, proceeded, answer⟩ := response_of_tokens given
    rw [answer] at reads ⊢
    obtain ⟨subject, -, -, same⟩ := authenticate_ok passed
    obtain ⟨⟨role, userId⟩, tenantId, jti, parsed, owned, decoded, -, cookies⟩ := openSession_ok proceeded
    obtain ⟨role, rfl⟩ := role_of_parseSubject parsed
    rw [same] at owned
    rw [← subject]
    have read := reads ⟨.access, who.subject, tenantId, draws.accessJti, draws.issuedAt⟩
      (by simp [LoginResponse.tokens, cookies])
    obtain rfl : jti = draws.accessJti.str := by
      simp only [AuthServices.at, decodeToken_grant read] at decoded
      split_ifs at decoded
      exact (Except.ok.inj decoded).symm
    exact ⟨⟨userId, role, tenantId⟩, parsed, owned, cookieOpens_of_issued reads parsed cookies⟩

end

theorem customer_login_opens_actor :
    ∃ actor : Actor, parseSubject (loginSubject (sampleServices.at newYear.1) customerLogin) =
        .ok (actor.role.value, actor.userId) ∧
      LoginEndpoint.issueToken.Opens sampleServices.tokens customerDraws
        (LoginEndpoint.issueToken.login (sampleServices.at newYear.1) customerDraws customerStart customerLogin).1
        actor := by
  have tokens : (LoginEndpoint.issueToken.login (sampleServices.at newYear.1) customerDraws customerStart
      customerLogin).1.tokens = [accessText, refreshText] := loginEvent_tokens
  have reads : ReadsResponse sampleServices.tokens (LoginEndpoint.issueToken.login (sampleServices.at newYear.1)
      customerDraws customerStart customerLogin).1 := by
    intro grant issued
    rw [tokens] at issued
    exact readsBack_sample issued
  obtain ⟨actor, parsed, -, opens⟩ := logins_open_their_actor sampleServices customerStart customerDraws newYear.1
    customerLogin .issueToken (by rw [tokens]; simp) reads
  exact ⟨actor, parsed, opens⟩

end DeliveryService
