import DeliveryService.Csrf
import DeliveryService.ErrorContract
import DeliveryService.Identity
import DeliveryService.RateLimit
import DeliveryService.SqlRefreshSessions

namespace DeliveryService

/-- An audit event without its identifier and time. -/
structure AuditContents where
  actorId : Option String
  subjectFingerprint : String
  action : String
  resourceId : Option String
  outcome : String
  reasonCode : String
  clientNetworkKey : String
  correlationId : String
deriving DecidableEq

structure AuditEvent extends AuditContents where
  eventId : UUID
  occurredAt : Moment
deriving DecidableEq

/-- The settings and libraries that a login uses. -/
structure LoginServices where
  folding : PyText.CaseFolding
  hasher : PasswordHasher
  sha : Sha256
  jwtSecret : String
  /-- `ipaddress.ip_address(host).compressed`; `none` is its `ValueError`. -/
  compressed : String → Option String
  /-- The access and the refresh token of a pair, from `jwt.encode`. -/
  encodePair : IssuedTokenPair → (accessJti : UUID) → String × String
  /-- The access token of a browser session, from `jwt.encode`. -/
  encodeAccess : (subject : String) → (tenantId jti : UUID) → (issuedAt : Int) → String
  /-- `decode_token(token)["jti"]` -/
  decodeJti : String → Except HTTPException String

/-- What one request draws from the clock and the random sources. -/
structure LoginDraws where
  eventId : UUID
  occurredAt : Moment
  salt : String
  issuedAt : Int
  accessJti : UUID
  refreshJti : UUID
  familyId : UUID
  nonce : UrlSafeToken

/-- The form of a login with the address of the client, the request id and the time. -/
structure LoginRequest where
  username : String
  password : String
  client : Option String
  correlationId : String
  now : Moment

structure LoginState where
  limiter : Requests
  audit : List AuditEvent
  identities : InMemoryIdentityRepository
  refreshSessions : InMemoryRefreshSessionRepository

/-- An exception of an endpoint; `unhandled` is one that only the handler for `Exception` takes. -/
inductive LoginError
  | http (answer : HTTPException)
  | unhandled
deriving DecidableEq

structure SetCookie where
  name : String
  value : String
  maxAge : Int
  secure : Bool
  httponly : Bool
  samesite : String
  path : String
deriving DecidableEq

inductive ResponseBody
  | error (errorCode message correlationId : String)
  | tokenPair (accessToken refreshToken tokenType : String) (expiresIn : Int)
  | empty
deriving DecidableEq

structure LoginResponse where
  statusCode : Nat
  body : ResponseBody
  headers : List (String × String)
  cookies : List SetCookie := []
deriving DecidableEq

/-- `login_rate_limiter`: five attempts a minute. -/
def loginRate : RateLimit := ⟨5, 60 * 1000000⟩

/-- `text.replace(old, new, 1)` -/
def replaceOnce (old new : List Char) : List Char → List Char
  | [] => []
  | c :: rest =>
    if old.isPrefixOf (c :: rest) then new ++ (c :: rest).drop old.length else c :: replaceOnce old new rest

/-- `error_response` -/
def errorResponse (request : LoginRequest) (spec : ErrorSpec) (headers : List (String × String)) : LoginResponse :=
  ⟨spec.statusCode, .error spec.errorCode spec.message request.correlationId,
    headers ++ [("X-Request-ID", request.correlationId)], []⟩

/-- The handlers of the exceptions. -/
def LoginError.response (request : LoginRequest) : LoginError → LoginResponse
  | .http answer => errorResponse request (httpErrorSpec answer.statusCode) answer.headers
  | .unhandled => errorResponse request .internalError []

def invalidCredentials : LoginError := .http ⟨401, "invalid credentials", []⟩

section

variable (services : LoginServices)

def subjectFingerprint (subject : String) : String := services.sha.hexdigest (encodeUtf8 subject)

def trustedClientNetworkKey (host : Option String) : String :=
  match host with
  | none => "unknown"
  | some host => if host = "" then "unknown" else (services.compressed host).getD "unknown"

def loginLimitKeys (clientNetworkKey subject : String) : List String :=
  ["login:network:" ++ clientNetworkKey, "login:subject:" ++ subjectFingerprint services subject]

def loginSubject (request : LoginRequest) : String :=
  (normalizeLoginSubject services.folding request.username).getD "invalid-subject"

/-- `_login_context` -/
def loginContext (request : LoginRequest) : String × String × List String :=
  let subject := loginSubject services request
  let networkKey := trustedClientNetworkKey services request.client
  (subject, networkKey, loginLimitKeys services networkKey subject)

/-- The event that `_record_auth_event` records. -/
def authEvent (request : LoginRequest) (actorId : Option String)
    (subject action outcome reasonCode networkKey : String) : AuditContents where
  actorId := actorId
  subjectFingerprint := subjectFingerprint services subject
  action := action
  resourceId := none
  outcome := outcome
  reasonCode := reasonCode
  clientNetworkKey := if networkKey = "" then trustedClientNetworkKey services request.client else networkKey
  correlationId := request.correlationId

end

def LoginDraws.stamp (draws : LoginDraws) (contents : AuditContents) : AuditEvent :=
  ⟨contents, draws.eventId, draws.occurredAt⟩

/-- `audit_trail.record` -/
def LoginState.record (s : LoginState) (draws : LoginDraws) (contents : AuditContents) : LoginState :=
  { s with audit := s.audit ++ [draws.stamp contents] }

/-- Who passed the password check, with the stored hash and the result of the check. -/
structure Authenticated where
  subject : String
  networkKey : String
  passwordHash : String
  check : PasswordCheck

section

variable (services : LoginServices) (draws : LoginDraws) (s : LoginState) (request : LoginRequest)

/-- The part that the two endpoints share: the limit, the password check and the refusals. -/
def authenticate (action : String) (limitKeys : List String → List String) :
    Except LoginError Authenticated × LoginState :=
  let (subject, networkKey, rawKeys) := loginContext services request
  let (limit, limiter) := s.limiter.checkMany loginRate (limitKeys rawKeys) request.now
  let s := { s with limiter := limiter }
  match limit with
  | .error _ => (.error .unhandled, s)
  | .ok limit =>
    if ¬ limit.allowed then
      (.error (.http ⟨429, "too many login attempts", [("Retry-After", toString limit.retryAfterSeconds)]⟩),
        s.record draws (authEvent services request none subject action "rate_limited" "attempt_budget_exhausted"
          networkKey))
    else
      let passwordHash := s.identities.passwords.get? subject
      let boundedPassword := if request.password.length ≤ 1024 then request.password else "invalid-password"
      let check := checkPassword services.hasher boundedPassword (orDummy services.hasher passwordHash) draws.salt
      let denied := s.record draws
        (authEvent services request none subject action "denied" "invalid_credentials" networkKey)
      match passwordHash with
      | none => (.error invalidCredentials, denied)
      | some expected =>
        if ¬ check.verified ∨ 1024 < request.password.length then (.error invalidCredentials, denied)
        else (.ok ⟨subject, networkKey, expected, check⟩, s)

/-- `issue_token` behind the password check. -/
def issuePair (s : LoginState) (who : Authenticated) : Except LoginError LoginResponse × LoginState :=
  let s := match who.check.replacementHash with
    | some replacement =>
      { s with identities := s.identities.replacePasswordHash who.subject who.passwordHash replacement }
    | none => s
  match parseSubject who.subject with
  | .error refused => (.error (.http refused), s)
  | .ok _ => match s.identities.tenants.get? who.subject with
    | none => (.error invalidCredentials, s)
    | some tenantId =>
      let pair := issueTokenPair who.subject draws.familyId tenantId draws.refreshJti draws.issuedAt
      let (accessToken, refreshToken) := services.encodePair pair draws.accessJti
      match s.refreshSessions.register pair.session with
      | (.error _, _) => (.error .unhandled, s)
      | (.ok _, refreshSessions) =>
        (.ok ⟨200, .tokenPair accessToken refreshToken "bearer" 900,
            [("Cache-Control", "no-store"), ("Pragma", "no-cache"), ("X-Request-ID", request.correlationId)], []⟩,
          { s with refreshSessions := refreshSessions }.record draws
            (authEvent services request (some who.subject) who.subject "auth.login" "allowed" "credentials_verified"
              who.networkKey))

/-- `create_browser_session` behind the password check; the hash of the password is not replaced here. -/
def openSession (s : LoginState) (who : Authenticated) : Except LoginError LoginResponse × LoginState :=
  match parseSubject who.subject with
  | .error refused => (.error (.http refused), s)
  | .ok _ => match s.identities.tenants.get? who.subject with
    | none => (.error invalidCredentials, s)
    | some tenantId =>
      let accessToken := services.encodeAccess who.subject tenantId draws.accessJti draws.issuedAt
      match services.decodeJti accessToken with
      | .error refused => (.error (.http refused), s)
      | .ok jti =>
        let csrfToken := newCsrfToken services.sha services.jwtSecret jti draws.nonce
        (.ok ⟨204, .empty,
            [("Cache-Control", "no-store"), ("Pragma", "no-cache"), ("X-Request-ID", request.correlationId)],
            [⟨"__Host-delivery-session", accessToken, 900, true, true, "lax", "/"⟩,
              ⟨"__Host-delivery-csrf", csrfToken, 900, true, false, "lax", "/"⟩]⟩,
          s.record draws (authEvent services request (some who.subject) who.subject "auth.browser_login" "allowed"
            "credentials_verified" who.networkKey))

/-- A login endpoint: the shared part, and what it does for who passes it. -/
def loginWith (action : String) (limitKeys : List String → List String)
    (proceed : LoginState → Authenticated → Except LoginError LoginResponse × LoginState) :
    Except LoginError LoginResponse × LoginState :=
  match authenticate services draws s request action limitKeys with
  | (.error refused, s) => (.error refused, s)
  | (.ok who, s) => proceed s who

def Login.issueToken : Except LoginError LoginResponse × LoginState :=
  loginWith services draws s request "auth.login" id (issuePair services draws request)

def browserLimitKeys (keys : List String) : List String :=
  keys.map fun key => String.ofList (replaceOnce "login:".toList "browser-login:".toList key.toList)

def Login.createBrowserSession : Except LoginError LoginResponse × LoginState :=
  loginWith services draws s request "auth.browser_login" browserLimitKeys (openSession services draws request)

/-- The two ways to log in. -/
inductive LoginEndpoint
  | issueToken
  | createBrowserSession
deriving DecidableEq

def LoginEndpoint.handle : LoginEndpoint → Except LoginError LoginResponse × LoginState
  | .issueToken => Login.issueToken services draws s request
  | .createBrowserSession => Login.createBrowserSession services draws s request

/-- What the client gets for the outcome of an endpoint. -/
def respond (outcome : Except LoginError LoginResponse) : LoginResponse :=
  match outcome with
  | .ok response => response
  | .error refused => refused.response request

/-- A login, with the response that the client gets and the state after it. -/
def LoginEndpoint.login (endpoint : LoginEndpoint) : LoginResponse × LoginState :=
  (respond request (endpoint.handle services draws s request).1, (endpoint.handle services draws s request).2)

end

section

variable (services : LoginServices)

/-- The credentials of a request are not those of a stored identity, whose hash the code replaces if it is empty. -/
def Fails (identities : InMemoryIdentityRepository) (request : LoginRequest) : Prop :=
  ∀ expected, identities.passwords.get? (loginSubject services request) = some expected →
    services.hasher.verify (orDummy services.hasher (some expected)) request.password = false ∨
      1024 < request.password.length

/-- What a failed login answers, leaves of the limiter and records, given only the limiter. -/
def refusal (action : String) (limitKeys : List String → List String) (limiter : Requests) (request : LoginRequest) :
    LoginError × Requests × List AuditContents :=
  let subject := loginSubject services request
  let networkKey := trustedClientNetworkKey services request.client
  let (limit, limiter) :=
    limiter.checkMany loginRate (limitKeys (loginLimitKeys services networkKey subject)) request.now
  match limit with
  | .error _ => (.unhandled, limiter, [])
  | .ok limit =>
    if ¬ limit.allowed then
      (.http ⟨429, "too many login attempts", [("Retry-After", toString limit.retryAfterSeconds)]⟩, limiter,
        [authEvent services request none subject action "rate_limited" "attempt_budget_exhausted" networkKey])
    else
      (invalidCredentials, limiter,
        [authEvent services request none subject action "denied" "invalid_credentials" networkKey])

end

section

variable {services : LoginServices} {draws : LoginDraws} {s : LoginState} {request : LoginRequest}

theorem checkPassword_verified (hasher : PasswordHasher) (password expected salt : String) :
    (checkPassword hasher password expected salt).verified = hasher.verify expected password := by
  unfold checkPassword
  cases hasher.verify expected password <;> rfl

/-- The stored hash is the one that is checked, and a long password is refused whatever the check says. -/
theorem not_verified (fails : Fails services s.identities request) {expected : String}
    (stored : s.identities.passwords.get? (loginSubject services request) = some expected) (salt : String) :
    ¬ (checkPassword services.hasher
        (if request.password.length ≤ 1024 then request.password else "invalid-password")
        (orDummy services.hasher (some expected)) salt).verified = true ∨ 1024 < request.password.length := by
  by_cases short : request.password.length ≤ 1024
  · left
    have wrong := (fails expected stored).resolve_right (by omega)
    rw [checkPassword_verified, if_pos short, wrong]
    simp
  · exact .inr (by omega)

theorem authenticate_fails (fails : Fails services s.identities request) (action : String)
    (limitKeys : List String → List String) :
    authenticate services draws s request action limitKeys =
      (.error (refusal services action limitKeys s.limiter request).1,
        { s with
          limiter := (refusal services action limitKeys s.limiter request).2.1
          audit := s.audit ++ (refusal services action limitKeys s.limiter request).2.2.map draws.stamp }) := by
  unfold authenticate refusal loginContext
  simp only
  cases limit : (s.limiter.checkMany loginRate (limitKeys (loginLimitKeys services
      (trustedClientNetworkKey services request.client) (loginSubject services request))) request.now).1 with
  | error e => simp
  | ok decision =>
    by_cases allowed : decision.allowed = true
    · simp only [allowed, not_true_eq_false, if_false]
      cases stored : s.identities.passwords.get? (loginSubject services request) with
      | none => rfl
      | some expected =>
        simp only
        rw [if_pos (not_verified fails stored draws.salt)]
        rfl
    · simp only [allowed]
      rfl

theorem loginWith_fails (fails : Fails services s.identities request) (action : String)
    (limitKeys : List String → List String)
    (proceed : LoginState → Authenticated → Except LoginError LoginResponse × LoginState) :
    loginWith services draws s request action limitKeys proceed =
      (.error (refusal services action limitKeys s.limiter request).1,
        { s with
          limiter := (refusal services action limitKeys s.limiter request).2.1
          audit := s.audit ++ (refusal services action limitKeys s.limiter request).2.2.map draws.stamp }) := by
  rw [loginWith, authenticate_fails fails]

/-- What a failed login at an endpoint does. -/
def LoginEndpoint.refusal (services : LoginServices) :
    LoginEndpoint → Requests → LoginRequest → LoginError × Requests × List AuditContents
  | .issueToken => DeliveryService.refusal services "auth.login" id
  | .createBrowserSession => DeliveryService.refusal services "auth.browser_login" browserLimitKeys

theorem login_fails (endpoint : LoginEndpoint) (fails : Fails services s.identities request) :
    endpoint.login services draws s request =
      ((endpoint.refusal services s.limiter request).1.response request,
        { s with
          limiter := (endpoint.refusal services s.limiter request).2.1
          audit := s.audit ++ (endpoint.refusal services s.limiter request).2.2.map draws.stamp }) := by
  unfold LoginEndpoint.login
  cases endpoint with
  | issueToken =>
    rw [LoginEndpoint.handle, Login.issueToken, loginWith_fails fails, respond, LoginEndpoint.refusal]
  | createBrowserSession =>
    rw [LoginEndpoint.handle, Login.createBrowserSession, loginWith_fails fails, respond, LoginEndpoint.refusal]

/-- Two states that differ at most in their identities, their refresh sessions and the identifiers and times of
their audit events. -/
structure SameOutside (s s' : LoginState) : Prop where
  limiter : s.limiter = s'.limiter
  audit : s.audit.map AuditEvent.toAuditContents = s'.audit.map AuditEvent.toAuditContents

theorem contents_stamp (events : List AuditContents) (draws : LoginDraws) :
    (events.map draws.stamp).map AuditEvent.toAuditContents = events := by
  rw [List.map_map]
  exact List.map_id events

/-- A login that fails in two such states gets one response and leaves two such states. -/
theorem SameOutside.login {s' : LoginState} (same : SameOutside s s') (endpoint : LoginEndpoint)
    (draws draws' : LoginDraws) (fails : Fails services s.identities request)
    (fails' : Fails services s'.identities request) :
    (endpoint.login services draws s request).1 = (endpoint.login services draws' s' request).1 ∧
      SameOutside (endpoint.login services draws s request).2 (endpoint.login services draws' s' request).2 ∧
      (endpoint.login services draws s request).2.identities = s.identities ∧
      (endpoint.login services draws' s' request).2.identities = s'.identities := by
  rw [login_fails endpoint fails, login_fails endpoint fails', same.limiter]
  refine ⟨rfl, ⟨rfl, ?_⟩, rfl, rfl⟩
  simp only [List.map_append, contents_stamp, same.audit]

theorem fails_of_absent {identities : InMemoryIdentityRepository}
    (absent : identities.passwords.get? (loginSubject services request) = none) :
    Fails services identities request := by
  intro expected stored
  rw [absent] at stored
  exact absurd stored nofun

/-- A stored hash that is not empty is the one that is checked. -/
theorem fails_of_wrong {identities : InMemoryIdentityRepository} {hash : String}
    (stored : identities.passwords.get? (loginSubject services request) = some hash)
    (wrong : services.hasher.verify hash request.password = false)
    (checked : hash ≠ "" ∨ services.hasher.verify services.hasher.dummyPasswordHash request.password = false ∨
      1024 < request.password.length) : Fails services identities request := by
  intro expected found
  rw [stored] at found
  obtain rfl := Option.some.inj found
  by_cases empty : hash = ""
  · rw [orDummy, if_pos empty]
    exact checked.resolve_left (not_not.mpr empty)
  · rw [orDummy, if_neg empty]
    exact .inl wrong

section

variable (services)

/-- A login is answered alike, leaves the limiter alike and is audited alike up to identifiers and times, whether the
identities are the ones or the others. -/
def Indistinguishable (endpoint : LoginEndpoint) (s : LoginState) (request : LoginRequest)
    (unregistered registered : InMemoryIdentityRepository) : Prop :=
  ∀ draws draws',
    let unknown := endpoint.login services draws { s with identities := unregistered } request
    let known := endpoint.login services draws' { s with identities := registered } request
    unknown.1 = known.1 ∧ unknown.2.limiter = known.2.limiter ∧
      unknown.2.audit.map AuditEvent.toAuditContents = known.2.audit.map AuditEvent.toAuditContents

end

/-- A failed login does not tell whether the identity exists. For both endpoints it makes no difference whether the
subject is not registered or has a hash, of whatever kind, that the password does not verify against; only where that
hash is empty must the password also be none that the hash checked in its place verifies. -/
theorem failed_login_hides_identity (endpoint : LoginEndpoint) (s : LoginState) (request : LoginRequest)
    {unregistered registered : InMemoryIdentityRepository} {hash : String}
    (absent : unregistered.passwords.get? (loginSubject services request) = none)
    (stored : registered.passwords.get? (loginSubject services request) = some hash)
    (wrong : services.hasher.verify hash request.password = false)
    (checked : hash ≠ "" ∨ services.hasher.verify services.hasher.dummyPasswordHash request.password = false ∨
      1024 < request.password.length) :
    Indistinguishable services endpoint s request unregistered registered := by
  intro draws draws'
  have same : SameOutside { s with identities := unregistered } { s with identities := registered } := ⟨rfl, rfl⟩
  have step := same.login endpoint draws draws' (fails_of_absent absent) (fails_of_wrong stored wrong checked)
  exact ⟨step.1, step.2.1.limiter, step.2.1.audit⟩

/-- An attempt to log in. -/
structure LoginAttempt where
  endpoint : LoginEndpoint
  request : LoginRequest

/-- Attempts one after the other, with what each of them draws. -/
def loginRun (services : LoginServices) : LoginState → List (LoginAttempt × LoginDraws) →
    List LoginResponse × LoginState
  | s, [] => ([], s)
  | s, (attempt, draws) :: rest =>
    let (response, s) := attempt.endpoint.login services draws s attempt.request
    let (responses, s) := loginRun services s rest
    (response :: responses, s)

/-- No number of failed logins tells more. -/
theorem failed_logins_hide_identities {s' : LoginState} (same : SameOutside s s')
    {attempts attempts' : List (LoginAttempt × LoginDraws)} (alike : attempts.map Prod.fst = attempts'.map Prod.fst)
    (fail : ∀ attempt ∈ attempts, Fails services s.identities attempt.1.request ∧
      Fails services s'.identities attempt.1.request) :
    (loginRun services s attempts).1 = (loginRun services s' attempts').1 ∧
      SameOutside (loginRun services s attempts).2 (loginRun services s' attempts').2 := by
  induction attempts generalizing attempts' s s' with
  | nil =>
    obtain rfl : attempts' = [] := by simpa using alike.symm
    exact ⟨rfl, same⟩
  | cons first rest ih =>
    obtain ⟨attempt, draws⟩ := first
    cases attempts' with
    | nil => simp at alike
    | cons first' rest' =>
      obtain ⟨attempt', draws'⟩ := first'
      obtain ⟨rfl, tails⟩ : attempt = attempt' ∧ rest.map Prod.fst = rest'.map Prod.fst := by simpa using alike
      obtain ⟨fails, fails'⟩ := fail (attempt, draws) (by simp)
      obtain ⟨response, after, kept, kept'⟩ := same.login attempt.endpoint draws draws' fails fails'
      have others := ih after tails fun later mem => by
        rw [kept, kept']
        exact fail later (by simp [mem])
      simp only [loginRun, response, others.1]
      exact ⟨trivial, others.2⟩

end

/-- The digest of the subject below. -/
def subjectDigest : Bytes :=
  [25, 113, 108, 144, 138, 55, 15, 253, 52, 99, 89, 31, 245, 209, 194, 63, 233, 108, 2, 177, 94, 95, 24,
    252, 248, 109, 210, 231, 140, 199, 138, 86]

theorem subjectDigest_size (_message : Bytes) : subjectDigest.length = 32 := rfl

theorem subjectMac_size (_key _message : Bytes) : subjectDigest.length = 32 := rfl

def dummyPassword : String := "dummy password used only for timing balance"

/-- Services with a hasher that keeps salt and password in clear. -/
def clearServices : LoginServices where
  folding := PyText.asciiFolding
  hasher := { clearHasher with dummyPasswordHash := clearHasher.hash dummyPassword "0" }
  sha := ⟨fun _ => subjectDigest, fun _ _ => subjectDigest, subjectDigest_size, subjectMac_size⟩
  jwtSecret := "secret"
  compressed := some
  encodePair := fun _ _ => ("access", "refresh")
  encodeAccess := fun _ _ _ _ => "access"
  decodeJti := .ok

theorem loginNonce_filled : "n" ≠ "" := by decide

theorem loginNonce_ascii : IsAscii "n" := by decide

def clearDraws (eventId : UUID) (occurredAt : Moment) : LoginDraws where
  eventId := eventId
  occurredAt := occurredAt
  salt := "1"
  issuedAt := 0
  accessJti := 1
  refreshJti := 2
  familyId := 3
  nonce := ⟨"n", loginNonce_filled, loginNonce_ascii⟩

/-- A login with the password behind the dummy hash. -/
def dummyLogin : LoginRequest :=
  ⟨"customer:00000000-0000-0000-0000-00000000000A", dummyPassword, some "203.0.113.9", "request-1", newYear⟩

def emptyLogin : LoginState := ⟨.empty, [], .empty, .empty⟩

/-- The customer with a hash. -/
def customerWith (hash : String) : InMemoryIdentityRepository :=
  ⟨Dict.empty.set "customer:00000000-0000-0000-0000-00000000000a" hash,
    Dict.empty.set "customer:00000000-0000-0000-0000-00000000000a" 1⟩

theorem loginSubject_dummyLogin :
    loginSubject clearServices dummyLogin = "customer:00000000-0000-0000-0000-00000000000a" := by
  decide +kernel

theorem stored_customerWith (hash : String) :
    (customerWith hash).passwords.get? (loginSubject clearServices dummyLogin) = some hash := by
  rw [loginSubject_dummyLogin]
  exact Dict.get?_set_self ..

/-- The password behind the dummy hash does not tell an unknown identity from one with a hash of another hasher. -/
theorem dummy_password_hides_identity :
    (LoginEndpoint.issueToken.login clearServices (clearDraws 1 newYear) emptyLogin dummyLogin).1.statusCode = 401 ∧
    (LoginEndpoint.issueToken.login clearServices (clearDraws 1 newYear) emptyLogin dummyLogin).1 =
      (LoginEndpoint.issueToken.login clearServices (clearDraws 2 newYearLater)
        { emptyLogin with identities := customerWith "obsolete:correct horse battery" } dummyLogin).1 := by
  have absent : emptyLogin.identities.passwords.get? (loginSubject clearServices dummyLogin) = none := rfl
  have wrong : clearServices.hasher.verify "obsolete:correct horse battery" dummyLogin.password = false := by
    decide +kernel
  refine ⟨by decide +kernel, ?_⟩
  exact (failed_login_hides_identity .issueToken emptyLogin dummyLogin absent (stored_customerWith _) wrong
    (.inl (by decide)) (clearDraws 1 newYear) (clearDraws 2 newYearLater)).1

/-- An empty hash opens with the password behind the dummy hash, which does not verify against it. -/
theorem empty_hash_tells_identity :
    ¬ ∀ services endpoint s request unregistered registered hash,
      unregistered.passwords.get? (loginSubject services request) = none →
      registered.passwords.get? (loginSubject services request) = some hash →
      services.hasher.verify hash request.password = false →
      Indistinguishable services endpoint s request unregistered registered := by
  intro all
  have wrong : clearServices.hasher.verify "" dummyLogin.password = false := by decide +kernel
  have same := (all clearServices .issueToken emptyLogin dummyLogin .empty (customerWith "") "" rfl
    (stored_customerWith "") wrong (clearDraws 1 newYear) (clearDraws 2 newYearLater)).1
  have codes : (LoginEndpoint.issueToken.login clearServices (clearDraws 1 newYear)
        { emptyLogin with identities := .empty } dummyLogin).1.statusCode = 401 ∧
      (LoginEndpoint.issueToken.login clearServices (clearDraws 2 newYearLater)
        { emptyLogin with identities := customerWith "" } dummyLogin).1.statusCode = 200 := by decide +kernel
  rw [same] at codes
  exact absurd (codes.1.symm.trans codes.2) (by decide)

end DeliveryService
