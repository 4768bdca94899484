import Mathlib.Data.Set.Subsingleton
import DeliveryService.AuthRuns
import DeliveryService.Site
import DeliveryService.SqlAlchemyRepository

namespace DeliveryService

structure IdentityRow where
  subject : String
  tenantId : UUID
  passwordHash : String
deriving DecidableEq

/-- The table `identity`. -/
abbrev IdentityTable := Table IdentityRow.subject

/-- What an endpoint asks of the parts that keep a state of their own: the rate limiter, the audit trail and the
refresh sessions, which are stored in another transaction. -/
inductive LoginCall
  | checkMany (keys : List String) (now : Moment)
  | record (event : AuditEvent)
  | register (session : RefreshSession)

inductive LoginAnswer
  | decided (limit : RateLimitDecision)
  | done
  | raised

abbrev IdentityStatement := Statement IdentityTable String LoginError

abbrev IdentityScript := Script IdentityTable String LoginCall LoginAnswer LoginError

namespace SqlAlchemyIdentityRepository

def passwordHash (subject : String) : IdentityStatement (Option String) :=
  fun _ snapshot _ => .ok { value := (snapshot.get? subject).map IdentityRow.passwordHash }

def tenantId (subject : String) : IdentityStatement (Option UUID) :=
  fun _ snapshot _ => .ok { value := (snapshot.get? subject).map IdentityRow.tenantId }

/-- `INSERT ... ON CONFLICT (subject) DO NOTHING RETURNING subject`: it waits for a transaction that holds the key
and adds nothing when the key is taken by then. -/
def add (row : IdentityRow) : IdentityStatement Bool :=
  fun _ _ current =>
    if fitsVarchar 100 row.subject = false ∨ fitsVarchar 300 row.passwordHash = false then .error .unhandled
    else if (current.get? row.subject).isSome then .ok { value := false }
    else .ok { value := true, locks := [row.subject], write := fun table => table.insert row }

/-- `UPDATE ... WHERE subject = :subject AND password_hash = :expected`: the row that the snapshot selects, if it
still qualifies once it is locked. -/
def replacePasswordHash (subject expected replacement : String) : IdentityStatement Bool :=
  fun _ snapshot current =>
    let qualifies (row : IdentityRow) : Bool := row.passwordHash = expected
    if fitsVarchar 300 replacement = false then .error .unhandled
    else match (snapshot.get? subject).filter qualifies with
      | none => .ok { value := false }
      | some _ => match (current.get? subject).filter qualifies with
        | none => .ok { value := false, locks := [subject] }
        | some row => .ok {
            value := true
            locks := [subject]
            write := fun table => table.put { row with passwordHash := replacement } }

end SqlAlchemyIdentityRepository

/-- The body of a successful answer: a registered subject, or what a login responds. -/
inductive IdentityReply
  | registered (subject : String)
  | loggedIn (response : LoginResponse)
deriving DecidableEq

/-- A request to the endpoints that use the identities. -/
inductive IdentityJob
  | register (registration : Registration)
  | login (endpoint : LoginEndpoint) (draws : LoginDraws) (decodedAt : Int) (request : LoginRequest)

def identityExists : LoginError := .http ⟨409, "identity already exists", []⟩

namespace SqlIdentities

open Script SqlAlchemyIdentityRepository

variable (services : LoginServices) (draws : LoginDraws) (request : LoginRequest)

/-- `audit_trail.record` -/
def record (contents : AuditContents) : IdentityScript Unit := do
  match ← Script.request (.record (draws.stamp contents)) with
  | .done => pure ()
  | _ => raise .unhandled

/-- `refresh_sessions.register` -/
def registerSession (session : RefreshSession) : IdentityScript Unit := do
  match ← Script.request (.register session) with
  | .done => pure ()
  | _ => raise .unhandled

/-- `login_rate_limiter.check_many`, and the refusal of an exhausted budget. -/
def checkLimit (subject networkKey action : String) (keys : List String) : IdentityScript Unit := do
  match ← Script.request (.checkMany keys request.now) with
  | .decided limit =>
    if ¬ limit.allowed then
      record draws (authEvent services request none subject action "rate_limited" "attempt_budget_exhausted" networkKey)
      raise (.http ⟨429, "too many login attempts", [("Retry-After", toString limit.retryAfterSeconds)]⟩)
    else pure ()
  | _ => raise .unhandled

/-- The password check and its refusal. -/
def checkCredentials (subject networkKey action : String) : IdentityScript Authenticated := do
  let passwordHash ← perform (passwordHash subject)
  let boundedPassword := if request.password.length ≤ 1024 then request.password else "invalid-password"
  let check := checkPassword services.hasher boundedPassword (orDummy services.hasher passwordHash) draws.salt
  let denied : IdentityScript Authenticated := do
    record draws (authEvent services request none subject action "denied" "invalid_credentials" networkKey)
    raise invalidCredentials
  match passwordHash with
  | none => denied
  | some expected =>
    if ¬ check.verified ∨ 1024 < request.password.length then denied
    else pure ⟨subject, networkKey, expected, check⟩

def authenticate (action : String) (limitKeys : List String → List String) : IdentityScript Authenticated := do
  let (subject, networkKey, rawKeys) := loginContext services request
  checkLimit services draws request subject networkKey action (limitKeys rawKeys)
  checkCredentials services draws request subject networkKey action

/-- A better hash for a password that was just verified. -/
def rehash (who : Authenticated) : IdentityScript Unit :=
  match who.check.replacementHash with
  | some replacement => do
    let _ ← perform (replacePasswordHash who.subject who.passwordHash replacement)
    pure ()
  | none => pure ()

def tenantOf (subject : String) : IdentityScript UUID :=
  match parseSubject subject with
  | .error refused => raise (.http refused)
  | .ok _ => do
    match ← perform (tenantId subject) with
    | none => raise invalidCredentials
    | some tenantId => pure tenantId

/-- The response of `issue_token`. -/
def pairResponse (pair : IssuedTokenPair) : LoginResponse :=
  let (accessToken, refreshToken) := services.encodePair pair draws.accessJti
  ⟨200, .tokenPair accessToken refreshToken "bearer" 900,
    [("Cache-Control", "no-store"), ("Pragma", "no-cache"), ("X-Request-ID", request.correlationId)], []⟩

/-- `issue_token` behind the password check. -/
def issuePair (who : Authenticated) : IdentityScript LoginResponse := do
  rehash who
  let tenantId ← tenantOf who.subject
  let pair := issueTokenPair who.subject draws.familyId tenantId draws.refreshJti draws.issuedAt
  registerSession pair.session
  record draws (authEvent services request (some who.subject) who.subject "auth.login" "allowed" "credentials_verified"
    who.networkKey)
  pure (pairResponse services draws request pair)

/-- The response of `create_browser_session`. -/
def sessionResponse (subject : String) (tenantId : UUID) : Except LoginError LoginResponse :=
  let accessToken := services.encodeAccess subject tenantId draws.accessJti draws.issuedAt
  match services.decodeJti accessToken with
  | .error refused => .error (.http refused)
  | .ok jti =>
    let csrfToken := newCsrfToken services.sha services.jwtSecret jti draws.nonce
    .ok ⟨204, .empty,
      [("Cache-Control", "no-store"), ("Pragma", "no-cache"), ("X-Request-ID", request.correlationId)],
      [⟨"__Host-delivery-session", accessToken, 900, true, true, "lax", "/"⟩,
        ⟨"__Host-delivery-csrf", csrfToken, 900, true, false, "lax", "/"⟩]⟩

/-- `create_browser_session` behind the password check; the hash of the password is not replaced here. -/
def openSession (who : Authenticated) : IdentityScript LoginResponse := do
  let tenantId ← tenantOf who.subject
  let response ← ofResult (sessionResponse services draws request who.subject tenantId)
  record draws (authEvent services request (some who.subject) who.subject "auth.browser_login" "allowed"
    "credentials_verified" who.networkKey)
  pure response

def login : LoginEndpoint → IdentityScript LoginResponse
  | .issueToken => do
    let who ← authenticate services draws request "auth.login" id
    issuePair services draws request who
  | .createBrowserSession => do
    let who ← authenticate services draws request "auth.browser_login" browserLimitKeys
    openSession services draws request who

def registerIdentity (folding : PyText.CaseFolding) (hasher : PasswordHasher) (registration : Registration) :
    IdentityScript String :=
  if registration.valid then
    match normalizeLoginSubject folding registration.subject with
    | none => raise .unhandled
    | some subject =>
      match parseSubject subject with
      | .error refused => raise (.http refused)
      | .ok _ => do
        if ¬ (← perform (add ⟨subject, defaultTenantId, hasher.hash registration.password registration.salt⟩)) then
          raise identityExists
        else pure subject
  else raise (.http ⟨422, "request_invalid", []⟩)

/-- A whole request, in one transaction on the identities. -/
def handle (services : AuthServices) : IdentityJob → IdentityScript IdentityReply
  | .register registration => do
    let subject ← registerIdentity services.folding services.hasher registration
    pure (.registered subject)
  | .login endpoint draws decodedAt request => do
    let response ← login (services.at decodedAt) draws request endpoint
    pure (.loggedIn response)

end SqlIdentities

/-- What the endpoints rely on of Argon2, for the passwords that occur: a hash verifies the password it was made
of and no other one, and it fits its column. -/
structure PasswordHasher.Separates (hasher : PasswordHasher) (passwords : Set String) : Prop where
  verify_hash : ∀ p ∈ passwords, ∀ q ∈ passwords, ∀ salt, hasher.verify (hasher.hash p salt) q = true ↔ q = p
  fits : ∀ p ∈ passwords, ∀ salt, fitsVarchar 300 (hasher.hash p salt) = true
  filled : ∀ p ∈ passwords, ∀ salt, hasher.hash p salt ≠ ""

section

variable (hasher : PasswordHasher) (passwords : Set String)

/-- The passwords that open an identity. -/
def IdentityRow.opened (row : IdentityRow) : Set String :=
  { p | p ∈ passwords ∧ p.length ≤ 1024 ∧ hasher.verify (orDummy hasher (some row.passwordHash)) p = true }

/-- What an identity is to its users: a tenant and the passwords that open it. -/
def accountsOf (db : IdentityTable) (subject : String) : Option (UUID × Set String) :=
  (db.get? subject).map fun row => (row.tenantId, row.opened hasher passwords)

/-- No identity opens with two passwords. -/
def IdentityTable.Unambiguous (db : IdentityTable) : Prop :=
  ∀ subject account, accountsOf hasher passwords db subject = some account → account.2.Subsingleton

/-- No commit takes an account back or changes what opens it. -/
def IdentityTable.Keeps (db db' : IdentityTable) : Prop :=
  ∀ subject account, accountsOf hasher passwords db subject = some account →
    accountsOf hasher passwords db' subject = some account

def identityIsolation : Isolation IdentityTable String where
  step := IdentityTable.Keeps hasher passwords
  agree subject a b := a.get? subject = b.get? subject
  step_refl _ _ _ found := found
  step_trans h h' subject account found := h' subject account (h subject account found)
  agree_refl _ _ := rfl
  agree_trans h h' := h.trans h'
  valid := IdentityTable.Unambiguous hasher passwords

end

section

variable {hasher : PasswordHasher} {passwords : Set String}

theorem opened_hash (separates : hasher.Separates passwords) {p : String} (known : p ∈ passwords)
    (short : p.length ≤ 1024) (subject salt : String) (tenantId : UUID) :
    (⟨subject, tenantId, hasher.hash p salt⟩ : IdentityRow).opened hasher passwords = {p} := by
  ext q
  simp only [IdentityRow.opened, orDummy, if_neg (separates.filled p known salt), Set.mem_ofPred_eq,
    Set.mem_singleton_iff]
  constructor
  · rintro ⟨sent, _, verified⟩
    exact (separates.verify_hash p known q sent salt).mp verified
  · rintro rfl
    exact ⟨known, short, (separates.verify_hash q known q known salt).mpr rfl⟩

theorem opened_rehash (separates : hasher.Separates passwords) {row : IdentityRow} {p : String}
    (opens : p ∈ row.opened hasher passwords) (single : (row.opened hasher passwords).Subsingleton) (salt : String) :
    ({ row with passwordHash := hasher.hash p salt } : IdentityRow).opened hasher passwords =
      row.opened hasher passwords := by
  rw [single.eq_singleton_of_mem opens]
  exact opened_hash separates opens.1 opens.2.1 row.subject salt row.tenantId

theorem accountsOf_eq_some {db : IdentityTable} {subject : String} {account : UUID × Set String} :
    accountsOf hasher passwords db subject = some account ↔
      ∃ row, db.get? subject = some row ∧ (row.tenantId, row.opened hasher passwords) = account :=
  Option.map_eq_some_iff

theorem accountsOf_eq_none {db : IdentityTable} {subject : String} :
    accountsOf hasher passwords db subject = none ↔ db.get? subject = none :=
  Option.map_eq_none_iff

/-- A new hash of the password that opens an identity changes no account. -/
theorem accountsOf_rehash (separates : hasher.Separates passwords) {db : IdentityTable} {row : IdentityRow} {p : String}
    (found : db.get? row.subject = some row) (opens : p ∈ row.opened hasher passwords)
    (single : (row.opened hasher passwords).Subsingleton) (salt : String) :
    accountsOf hasher passwords (db.put { row with passwordHash := hasher.hash p salt }) =
      accountsOf hasher passwords db := by
  funext subject
  unfold accountsOf
  rw [Table.get?_put]
  split
  next here =>
    obtain rfl : subject = row.subject := here
    rw [found, Option.map_some, Option.map_some, opened_rehash separates opens single]
  next => rfl

theorem accountsOf_insert {db : IdentityTable} {row : IdentityRow} (absent : db.get? row.subject = none) :
    accountsOf hasher passwords (db.insert row) =
      Function.update (accountsOf hasher passwords db) row.subject (some (row.tenantId, row.opened hasher passwords)) := by
  funext subject
  unfold accountsOf
  rw [Table.insert_of_absent absent, Table.get?_put, Function.update_apply]
  split
  next => rfl
  next => rfl

theorem accountsOf_of_get? (hasher : PasswordHasher) (passwords : Set String) {db : IdentityTable} {subject : String}
    {row : IdentityRow} (found : db.get? subject = some row) :
    accountsOf hasher passwords db subject = some (row.tenantId, row.opened hasher passwords) :=
  accountsOf_eq_some.mpr ⟨row, found, rfl⟩

end

namespace SqlIdentities

section

variable {hasher : PasswordHasher} {passwords : Set String} {α β : Type}
  {S : Script.Spec (identityIsolation hasher passwords) LoginCall LoginAnswer LoginError α}
  {p p' : Progress IdentityTable String LoginCall LoginAnswer} {db db' : IdentityTable}

/-- A specification that only says when credentials are refused. -/
structure Tolerant (S : Script.Spec (identityIsolation hasher passwords) LoginCall LoginAnswer LoginError α) : Prop where
  always : ∀ p db, S.always p db
  refuses : ∀ e, e ≠ invalidCredentials → ∀ p db, S.ending (.error e) p db

theorem Tolerant.before {S : Script.Spec (identityIsolation hasher passwords) LoginCall LoginAnswer LoginError β}
    (tolerant : Tolerant S) (next : α → IdentityScript β) : Tolerant (S.before next) :=
  ⟨tolerant.always, tolerant.refuses⟩

theorem Tolerant.wp_raise (tolerant : Tolerant S) {e : LoginError} (other : e ≠ invalidCredentials) :
    Script.wp S (Script.raise e) p db :=
  Script.wp_raise (tolerant.always p db) fun db' _ => tolerant.refuses e other p db'

/-- The calls of a transaction change neither its locks nor its data. -/
structure SameWork (p p' : Progress IdentityTable String LoginCall LoginAnswer) : Prop where
  held : p'.held = p.held
  write : p'.write = p.write
  seen : p'.seen = p.seen

theorem sameWork_answer (p : Progress IdentityTable String LoginCall LoginAnswer) (call : LoginCall)
    (answer : LoginAnswer) : SameWork p (p.answer call answer) := ⟨rfl, rfl, rfl⟩

/-- A call that ends well or raises. -/
theorem wp_attempt {S : Script.Spec (identityIsolation hasher passwords) LoginCall LoginAnswer LoginError Unit}
    (tolerant : Tolerant S) (call : LoginCall) (valid : db.Unambiguous hasher passwords)
    (h : ∀ p' later, SameWork p p' → (identityIsolation hasher passwords).Later p.held db later →
      S.ending (.ok ()) p' later) :
    Script.wp S (do
      match ← Script.request call with
      | .done => pure ()
      | _ => Script.raise .unhandled) p db := by
  refine Script.wp_bind valid (Script.wp_request (tolerant.always _ _) fun answer now before =>
    ⟨tolerant.always _ _, fun later after => ?_⟩)
  cases answer with
  | done =>
    refine Script.wp_pure (tolerant.always _ _) fun db' last => ?_
    exact h _ db' (sameWork_answer p call .done) ((before.trans after).trans last)
  | decided | raised => exact tolerant.wp_raise (by decide)

theorem wp_record {S : Script.Spec (identityIsolation hasher passwords) LoginCall LoginAnswer LoginError Unit}
    (tolerant : Tolerant S) (draws : LoginDraws) (contents : AuditContents) (valid : db.Unambiguous hasher passwords)
    (h : ∀ p' later, SameWork p p' → (identityIsolation hasher passwords).Later p.held db later →
      S.ending (.ok ()) p' later) : Script.wp S (record draws contents) p db :=
  wp_attempt tolerant _ valid h

theorem wp_registerSession {S : Script.Spec (identityIsolation hasher passwords) LoginCall LoginAnswer LoginError Unit}
    (tolerant : Tolerant S) (session : RefreshSession) (valid : db.Unambiguous hasher passwords)
    (h : ∀ p' later, SameWork p p' → (identityIsolation hasher passwords).Later p.held db later →
      S.ending (.ok ()) p' later) : Script.wp S (registerSession session) p db :=
  wp_attempt tolerant _ valid h

theorem wp_checkLimit {S : Script.Spec (identityIsolation hasher passwords) LoginCall LoginAnswer LoginError Unit}
    (tolerant : Tolerant S) (services : LoginServices) (draws : LoginDraws) (request : LoginRequest)
    (subject networkKey action : String) (keys : List String) (valid : db.Unambiguous hasher passwords)
    (h : ∀ p' later, SameWork p p' → (identityIsolation hasher passwords).Later p.held db later →
      S.ending (.ok ()) p' later) :
    Script.wp S (checkLimit services draws request subject networkKey action keys) p db := by
  refine Script.wp_bind valid (Script.wp_request (tolerant.always _ _) fun answer now before =>
    ⟨tolerant.always _ _, fun later after => ?_⟩)
  cases answer with
  | decided limit =>
    simp only [Script.Spec.before]
    split
    next =>
      refine Script.wp_bind after.2 (wp_record (tolerant.before _) _ _ after.2 fun _ _ _ _ => ?_)
      exact tolerant.wp_raise (by simp [invalidCredentials])
    next =>
      refine Script.wp_pure (tolerant.always _ _) fun db' last => ?_
      exact h _ db' (sameWork_answer p _ _) ((before.trans after).trans last)
  | done | raised => exact tolerant.wp_raise (by decide)

end

/-- What a login responds to a subject of a tenant. -/
def response (services : LoginServices) (draws : LoginDraws) (request : LoginRequest) (subject : String)
    (tenantId : UUID) : LoginEndpoint → Except LoginError LoginResponse
  | .issueToken => .ok (pairResponse services draws request
      (issueTokenPair subject draws.familyId tenantId draws.refreshJti draws.issuedAt))
  | .createBrowserSession => sessionResponse services draws request subject tenantId

section

variable {services : LoginServices} {draws : LoginDraws} {request : LoginRequest} {passwords : Set String}
  {p p' : Progress IdentityTable String LoginCall LoginAnswer} {db db' : IdentityTable} {who : Authenticated}

/-- The password of the request does not open its subject. -/
def Closed (services : LoginServices) (passwords : Set String) (request : LoginRequest) (db : IdentityTable) : Prop :=
  ∀ account, accountsOf services.hasher passwords db (loginSubject services request) = some account →
    request.password ∉ account.2

/-- Who has passed the password check: the account is there, and the pending write, if there is one, is a new hash
of its password. -/
structure Cleared (services : LoginServices) (passwords : Set String) (request : LoginRequest) (who : Authenticated)
    (p : Progress IdentityTable String LoginCall LoginAnswer) (db : IdentityTable) : Prop where
  subject : who.subject = loginSubject services request
  short : request.password.length ≤ 1024
  verified : services.hasher.verify (orDummy services.hasher (some who.passwordHash)) request.password = true
  account : ∃ account, accountsOf services.hasher passwords db who.subject = some account ∧
    request.password ∈ account.2
  replacement : ∀ hash, who.check.replacementHash = some hash →
    ∃ salt, hash = services.hasher.hash request.password salt
  pending : p.write = id ∨ ∃ row salt, who.subject ∈ p.held ∧ db.get? who.subject = some row ∧
    p.write = fun table => table.put { row with passwordHash := services.hasher.hash request.password salt }

theorem Cleared.later (cleared : Cleared services passwords request who p db)
    (later : (identityIsolation services.hasher passwords).Later p.held db db') :
    Cleared services passwords request who p db' where
  subject := cleared.subject
  short := cleared.short
  verified := cleared.verified
  account := by
    obtain ⟨account, found, opens⟩ := cleared.account
    exact ⟨account, later.1.1 _ _ found, opens⟩
  replacement := cleared.replacement
  pending := by
    refine cleared.pending.imp_right ?_
    rintro ⟨row, salt, hold, found, write⟩
    have same : db.get? who.subject = db'.get? who.subject := later.agree hold
    exact ⟨row, salt, hold, same ▸ found, write⟩

theorem Cleared.sameWork (cleared : Cleared services passwords request who p db) (same : SameWork p p') :
    Cleared services passwords request who p' db where
  subject := cleared.subject
  short := cleared.short
  verified := cleared.verified
  account := cleared.account
  replacement := cleared.replacement
  pending := by
    rw [same.write, same.held]
    exact cleared.pending

/-- The transaction itself sees the account as the others do. -/
theorem Cleared.tenant (cleared : Cleared services passwords request who p db) :
    ∃ account, accountsOf services.hasher passwords db who.subject = some account ∧ request.password ∈ account.2 ∧
      ((p.write db).get? who.subject).map IdentityRow.tenantId = some account.1 := by
  obtain ⟨account, found, opens⟩ := cleared.account
  refine ⟨account, found, opens, ?_⟩
  obtain ⟨row, stored, rfl⟩ := accountsOf_eq_some.mp found
  rcases cleared.pending with write | ⟨row', salt, _, stored', write⟩
  · rw [write, id, stored]
    rfl
  · obtain rfl : row = row' := Option.some.inj (stored.symm.trans stored')
    have own : row.subject = who.subject := Table.key_of_get? stored
    rw [write]
    simp only [Table.get?_put, own, ↓reduceIte]
    rfl

/-- How a login ends: with the response for the tenant of an account that its password opens; it refuses the
credentials only when its first statement saw no such account. -/
def loginSpec (services : LoginServices) (passwords : Set String) (draws : LoginDraws) (request : LoginRequest)
    (endpoint : LoginEndpoint) :
    Script.Spec (identityIsolation services.hasher passwords) LoginCall LoginAnswer LoginError LoginResponse where
  always _ _ := True
  ending r p db := match r with
    | .ok answer => ∃ who account, Cleared services passwords request who p db ∧
        accountsOf services.hasher passwords db who.subject = some account ∧ request.password ∈ account.2 ∧
        response services draws request who.subject account.1 endpoint = .ok answer
    | .error e => e = invalidCredentials →
        ∃ snapshot, p.seen.head? = some snapshot ∧ Closed services passwords request snapshot
  stable _ _ := trivial

theorem tolerant_loginSpec (services : LoginServices) (passwords : Set String) (draws : LoginDraws)
    (request : LoginRequest) (endpoint : LoginEndpoint) :
    Tolerant (loginSpec services passwords draws request endpoint) :=
  ⟨fun _ _ => trivial, fun _ other _ _ same => absurd same other⟩

theorem wp_checkCredentials
    {S : Script.Spec (identityIsolation services.hasher passwords) LoginCall LoginAnswer LoginError Authenticated}
    (tolerant : Tolerant S) {subject : String} (named : subject = loginSubject services request)
    (networkKey action : String) (valid : db.Unambiguous services.hasher passwords)
    (known : request.password ∈ passwords) (untouched : p.write = id) (unseen : p.seen = [])
    (denied : ∀ p' later snapshot, p'.seen.head? = some snapshot → Closed services passwords request snapshot →
      S.ending (.error invalidCredentials) p' later)
    (passed : ∀ who p' later, later.Unambiguous services.hasher passwords → p'.write = id →
      Cleared services passwords request who p' later → S.ending (.ok who) p' later) :
    Script.wp S (checkCredentials services draws request subject networkKey action) p db := by
  rcases p with ⟨held, write, seen, calls⟩
  obtain rfl : write = id := untouched
  obtain rfl : seen = [] := unseen
  refine Script.wp_bind valid (Script.wp_read
    (f := fun db => (db.get? subject).map IdentityRow.passwordHash) (tolerant.always _ _) (fun _ _ _ => rfl) fun start now before during => ⟨tolerant.always _ _, fun later after => ?_⟩)
  have refuse : Closed services passwords request start → ∀ contents, Script.wp S (do
      record draws contents
      Script.raise invalidCredentials) ⟨held, id, [start], calls⟩ later := by
    intro closed contents
    refine Script.wp_bind after.2 (wp_record (tolerant.before _) draws contents after.2 fun p' db' same _ => ?_)
    refine Script.wp_raise (tolerant.always _ _) fun db'' _ => denied p' db'' start ?_ closed
    rw [same.seen]
    rfl
  simp only [Script.Spec.before, id, List.nil_append]
  cases found : start.get? subject with
  | none =>
    refine refuse (fun account stored => ?_) _
    rw [← named, accountsOf_eq_none.mpr found] at stored
    cases stored
  | some row =>
    have account := accountsOf_of_get? services.hasher passwords found
    simp only [Option.map_some]
    generalize sent : (if request.password.length ≤ 1024 then request.password else "invalid-password") = bounded
    split
    next refused =>
      refine refuse (fun account' stored opens => ?_) _
      rw [← named, account] at stored
      cases stored
      rw [if_pos opens.2.1] at sent
      rw [checkPassword_verified, ← sent] at refused
      exact refused.elim (fun wrong => wrong opens.2.2) (by have := opens.2.1; omega)
    next accepted =>
      obtain ⟨verified, short⟩ := not_or.mp accepted
      rw [if_pos (by omega)] at sent
      subst sent
      rw [not_not, checkPassword_verified] at verified
      refine Script.wp_pure (tolerant.always _ _) fun db' last => passed _ _ db' last.2 rfl ?_
      have cleared : Cleared services passwords request
          ⟨subject, networkKey, row.passwordHash, checkPassword services.hasher request.password
            (orDummy services.hasher (some row.passwordHash)) draws.salt⟩ ⟨held, id, [start], calls⟩ start := by
        refine ⟨named, by omega, verified, ⟨_, account, known, by omega, verified⟩, fun hash offered => ?_, .inl rfl⟩
        simp only [checkPassword, verified, ↓reduceIte] at offered
        split at offered
        next => exact ⟨draws.salt, (Option.some.inj offered).symm⟩
        next => cases offered
      exact cleared.later ((during.trans after).trans last)

open SqlAlchemyIdentityRepository in
/-- The update changes nothing, or it locks the row and replaces the hash that it expects. -/
theorem replacePasswordHash_ok (subject expected : String) {replacement : String} (locked : String → Bool)
    (snapshot current : IdentityTable) (fits : fitsVarchar 300 replacement = true) :
    ∃ finished, replacePasswordHash subject expected replacement locked snapshot current = .ok finished ∧
      (finished.write = id ∨ subject ∈ finished.locks ∧ ∃ row, current.get? subject = some row ∧
        finished.write = fun table => table.put { row with passwordHash := replacement }) := by
  unfold replacePasswordHash
  simp only [fits, Bool.true_eq_false, ↓reduceIte]
  split
  next => exact ⟨_, rfl, .inl rfl⟩
  next =>
    split
    next => exact ⟨_, rfl, .inl rfl⟩
    next row found =>
      refine ⟨_, rfl, .inr ⟨List.mem_singleton.mpr rfl, row, ?_, rfl⟩⟩
      exact (Option.filter_eq_some_iff.mp found).1

theorem wp_rehash
    {S : Script.Spec (identityIsolation services.hasher passwords) LoginCall LoginAnswer LoginError Unit}
    (tolerant : Tolerant S) (separates : services.hasher.Separates passwords) (known : request.password ∈ passwords)
    (valid : db.Unambiguous services.hasher passwords) (cleared : Cleared services passwords request who p db)
    (untouched : p.write = id)
    (h : ∀ p' later, later.Unambiguous services.hasher passwords → Cleared services passwords request who p' later →
      S.ending (.ok ()) p' later) : Script.wp S (rehash who) p db := by
  unfold rehash
  split
  next hash offered =>
    obtain ⟨salt, rfl⟩ := cleared.replacement hash offered
    refine Script.wp_bind valid (Script.wp_perform (tolerant.always _ _) fun start now locked before during _ => ?_)
    obtain ⟨finished, ran, changed⟩ := replacePasswordHash_ok who.subject who.passwordHash locked (p.write start)
      (p.write now) (separates.fits _ known salt)
    rw [ran]
    have kept := cleared.later (before.trans during)
    have cleared' : Cleared services passwords request who (p.finish (p.write start) finished) now := by
      refine ⟨kept.subject, kept.short, kept.verified, kept.account, kept.replacement, ?_⟩
      rcases changed with write | ⟨hold, row, found, write⟩
      · exact .inl (by simp [Progress.finish, write, untouched])
      · rw [untouched] at found
        exact .inr ⟨row, salt, List.mem_append_left _ hold, found, by simp [Progress.finish, write, untouched]⟩
    refine ⟨?_, tolerant.always _ _, fun later after => ?_⟩
    · intro subject outside table
      rcases changed with write | ⟨hold, row, found, write⟩
      · rw [write]
        rfl
      · have other : subject ≠ row.subject := by
          rintro rfl
          rw [untouched] at found
          have own : row.subject = who.subject := Table.key_of_get? found
          exact outside (List.mem_append_left _ (own ▸ hold))
        rw [write]
        exact (Table.get?_put_of_ne table
          { row with passwordHash := services.hasher.hash request.password salt } other).symm
    · refine Script.wp_pure (tolerant.always _ _) fun db' last => h _ db' last.2 ?_
      exact cleared'.later (after.trans last)
  next => exact Script.wp_pure (tolerant.always _ _) fun db' last => h p db' last.2 (cleared.later last)

theorem parseSubject_error {subject : String} {refused : HTTPException} (h : parseSubject subject = .error refused) :
    refused = invalidSubject := by
  unfold parseSubject at h
  simp only at h
  split at h
  next => exact (Except.error.inj h).symm
  next =>
    split at h
    next =>
      split at h
      next => cases h
      next => exact (Except.error.inj h).symm
    next => exact (Except.error.inj h).symm

theorem wp_tenantOf
    {S : Script.Spec (identityIsolation services.hasher passwords) LoginCall LoginAnswer LoginError UUID}
    (tolerant : Tolerant S) (valid : db.Unambiguous services.hasher passwords)
    (cleared : Cleared services passwords request who p db)
    (h : ∀ account p' later, later.Unambiguous services.hasher passwords →
      Cleared services passwords request who p' later →
      accountsOf services.hasher passwords later who.subject = some account → request.password ∈ account.2 →
      S.ending (.ok account.1) p' later) : Script.wp S (tenantOf who.subject) p db := by
  unfold tenantOf
  split
  next refused failed =>
    rw [parseSubject_error failed]
    exact tolerant.wp_raise (by decide)
  next =>
    refine Script.wp_bind valid (Script.wp_read
      (f := fun db => (db.get? who.subject).map IdentityRow.tenantId) (tolerant.always _ _) (fun _ _ _ => rfl)
      fun start now before during => ⟨tolerant.always _ _, fun later after => ?_⟩)
    obtain ⟨account, stored, opens, tenant⟩ := (cleared.later before).tenant
    simp only [Script.Spec.before, tenant]
    refine Script.wp_pure (tolerant.always _ _) fun db' last => ?_
    have since := (during.trans after).trans last
    have kept := (cleared.later before).later since
    refine h account _ db' last.2 ?_ (since.1.1 _ _ stored) opens
    exact ⟨kept.subject, kept.short, kept.verified, kept.account, kept.replacement, kept.pending⟩

theorem wp_issuePair (separates : services.hasher.Separates passwords) (known : request.password ∈ passwords)
    (valid : db.Unambiguous services.hasher passwords) (cleared : Cleared services passwords request who p db)
    (untouched : p.write = id) :
    Script.wp (loginSpec services passwords draws request .issueToken) (issuePair services draws request who) p db := by
  have tolerant := tolerant_loginSpec services passwords draws request .issueToken
  refine Script.wp_bind valid (wp_rehash (tolerant.before _) separates known valid cleared untouched
    fun p₁ db₁ valid₁ cleared₁ => ?_)
  refine Script.wp_bind valid₁ (wp_tenantOf (tolerant.before _) valid₁ cleared₁
    fun account p₂ db₂ valid₂ cleared₂ stored opens => ?_)
  refine Script.wp_bind valid₂ (wp_registerSession (tolerant.before _) _ valid₂ fun p₃ db₃ same₃ later₃ => ?_)
  refine Script.wp_bind later₃.2 (wp_record (tolerant.before _) _ _ later₃.2 fun p₄ db₄ same₄ later₄ => ?_)
  refine Script.wp_pure trivial fun db₅ later₅ => ?_
  rw [same₃.held] at later₄
  rw [same₄.held, same₃.held] at later₅
  have since := (later₃.trans later₄).trans later₅
  exact ⟨who, account, ((cleared₂.later since).sameWork same₃).sameWork same₄, since.1.1 _ _ stored, opens, rfl⟩

theorem wp_openSession
    (readable : ∀ token refused, services.decodeJti token = .error refused → .http refused ≠ invalidCredentials)
    (valid : db.Unambiguous services.hasher passwords) (cleared : Cleared services passwords request who p db) :
    Script.wp (loginSpec services passwords draws request .createBrowserSession)
      (openSession services draws request who) p db := by
  have tolerant := tolerant_loginSpec services passwords draws request .createBrowserSession
  refine Script.wp_bind valid (wp_tenantOf (tolerant.before _) valid cleared
    fun account p₁ db₁ valid₁ cleared₁ stored opens => ?_)
  cases answered : sessionResponse services draws request who.subject account.1 with
  | error e =>
    have other : e ≠ invalidCredentials := by
      unfold sessionResponse at answered
      simp only at answered
      split at answered
      next refused failed => exact Except.error.inj answered ▸ readable _ _ failed
      next => cases answered
    refine Script.wp_bind valid₁ ?_
    rw [answered]
    exact (tolerant.before _).wp_raise other
  | ok response =>
    refine Script.wp_bind valid₁ ?_
    rw [answered]
    refine Script.wp_pure trivial fun db₂ later₂ => ?_
    refine Script.wp_bind later₂.2 (wp_record (tolerant.before _) _ _ later₂.2 fun p₃ db₃ same₃ later₃ => ?_)
    refine Script.wp_pure trivial fun db₄ later₄ => ?_
    rw [same₃.held] at later₄
    have since := (later₂.trans later₃).trans later₄
    exact ⟨who, account, (cleared₁.later since).sameWork same₃, since.1.1 _ _ stored, opens, answered⟩

theorem wp_authenticate
    {S : Script.Spec (identityIsolation services.hasher passwords) LoginCall LoginAnswer LoginError Authenticated}
    (tolerant : Tolerant S) (action : String) (limitKeys : List String → List String)
    (valid : db.Unambiguous services.hasher passwords) (known : request.password ∈ passwords)
    (denied : ∀ p' later snapshot, p'.seen.head? = some snapshot → Closed services passwords request snapshot →
      S.ending (.error invalidCredentials) p' later)
    (passed : ∀ who p' later, later.Unambiguous services.hasher passwords → p'.write = id →
      Cleared services passwords request who p' later → S.ending (.ok who) p' later) :
    Script.wp S (authenticate services draws request action limitKeys) {} db := by
  refine Script.wp_bind valid (wp_checkLimit (tolerant.before _) services draws request _ _ action _ valid
    fun p' later same after => ?_)
  exact wp_checkCredentials tolerant rfl _ action after.2 known same.write same.seen denied passed

theorem wp_login (separates : services.hasher.Separates passwords) (known : request.password ∈ passwords)
    (readable : ∀ token refused, services.decodeJti token = .error refused → .http refused ≠ invalidCredentials)
    (valid : db.Unambiguous services.hasher passwords) (endpoint : LoginEndpoint) :
    Script.wp (loginSpec services passwords draws request endpoint) (login services draws request endpoint) {} db := by
  have tolerant := tolerant_loginSpec services passwords draws request endpoint
  cases endpoint with
  | issueToken =>
    refine Script.wp_bind valid (wp_authenticate (tolerant.before _) _ _ valid known ?_ ?_)
    · exact fun _ _ snapshot first closed _ => ⟨snapshot, first, closed⟩
    · exact fun _ _ _ valid' untouched cleared => wp_issuePair separates known valid' cleared untouched
  | createBrowserSession =>
    refine Script.wp_bind valid (wp_authenticate (tolerant.before _) _ _ valid known ?_ ?_)
    · exact fun _ _ snapshot first closed _ => ⟨snapshot, first, closed⟩
    · exact fun _ _ _ valid' _ cleared => wp_openSession readable valid' cleared

end

section

variable {folding : PyText.CaseFolding} {hasher : PasswordHasher} {passwords : Set String} {db : IdentityTable}
  {registration : Registration}

/-- The row that a registration adds. -/
def registeredRow (hasher : PasswordHasher) (registration : Registration) : IdentityRow :=
  ⟨registration.lowerSubject, defaultTenantId, hasher.hash registration.password registration.salt⟩

def registerSpec (hasher : PasswordHasher) (passwords : Set String) (registration : Registration) :
    Script.Spec (identityIsolation hasher passwords) LoginCall LoginAnswer LoginError String where
  always _ _ := True
  ending r p db := match r with
    | .ok subject => subject = registration.lowerSubject ∧ registration.valid = true ∧ db.get? subject = none ∧
        p.write = fun table => table.insert (registeredRow hasher registration)
    | .error e => e = identityExists → db.get? registration.lowerSubject ≠ none
  stable _ _ := trivial

theorem fits_lowerSubject (valid : registration.valid = true) :
    fitsVarchar 100 registration.lowerSubject = true := by
  obtain ⟨raw, shape, size, plain⟩ := Registration.valid_subject valid
  have lower := lowerSubject_toList shape
  simp only [fitsVarchar, lower, List.length_append, List.length_map, size, Bool.and_eq_true, decide_eq_true_eq,
    List.mem_append, not_or, List.mem_map, not_exists, not_and]
  refine ⟨by decide, by decide, fun c mem same => ?_⟩
  have printable := (plain_toLower (plain c mem)).2.2.2.1
  rw [same] at printable
  exact absurd printable (by decide)

open SqlAlchemyIdentityRepository in
theorem wp_add {S : Script.Spec (identityIsolation hasher passwords) LoginCall LoginAnswer LoginError Bool}
    {row : IdentityRow} (free : ∀ p db, S.always p db) (fits : fitsVarchar 100 row.subject = true)
    (fits' : fitsVarchar 300 row.passwordHash = true)
    (taken : ∀ p later, later.get? row.subject ≠ none → S.ending (.ok false) p later)
    (added : ∀ p later, row.subject ∈ p.held → later.get? row.subject = none →
      p.write = (fun table => table.insert row) → S.ending (.ok true) p later) :
    Script.wp S (Script.perform (add row)) {} db := by
  refine Script.wp_perform (free _ _) fun start now locked before during _ => ?_
  unfold add
  simp only [fits, fits', Bool.true_eq_false, or_self, ↓reduceIte, id]
  by_cases found : (now.get? row.subject).isSome = true
  · rw [if_pos found]
    refine ⟨fun _ _ _ => rfl, free _ _, fun later after => taken _ later ?_⟩
    obtain ⟨stored, here⟩ := Option.isSome_iff_exists.mp found
    have kept := after.1.1 _ _ (accountsOf_of_get? _ _ here)
    intro gone
    rw [accountsOf_eq_none.mpr gone] at kept
    cases kept
  · rw [if_neg found]
    have absent : now.get? row.subject = none := by simpa using found
    refine ⟨fun subject outside table => ?_, free _ _, fun later after => added _ later ?_ ?_ rfl⟩
    · refine (Table.get?_insert_of_ne table row ?_).symm
      rintro rfl
      exact outside (List.mem_append_left _ (List.mem_singleton.mpr rfl))
    · exact List.mem_append_left _ (List.mem_singleton.mpr rfl)
    · have same : now.get? row.subject = later.get? row.subject :=
        after.agree (List.mem_append_left _ (List.mem_singleton.mpr rfl))
      exact same ▸ absent

theorem wp_registerIdentity (separates : hasher.Separates passwords) (known : registration.password ∈ passwords)
    (valid : db.Unambiguous hasher passwords) :
    Script.wp (registerSpec hasher passwords registration) (registerIdentity folding hasher registration) {} db := by
  have refuse : ∀ {e : LoginError}, e ≠ identityExists →
      Script.wp (registerSpec hasher passwords registration) (Script.raise e) {} db :=
    fun other => Script.wp_raise trivial fun _ _ same => absurd same other
  unfold registerIdentity
  split
  next proper =>
    rw [normalizeLoginSubject_valid folding proper]
    simp only
    split
    next refused failed =>
      rw [parseSubject_error failed]
      exact refuse (by decide)
    next =>
      refine Script.wp_bind valid (wp_add (fun _ _ => trivial) (fits_lowerSubject proper)
        (separates.fits _ known registration.salt) ?_ ?_)
      · intro p later stored
        refine Script.wp_raise trivial fun db' after _ gone => ?_
        obtain ⟨row, found⟩ := Option.ne_none_iff_exists'.mp stored
        have kept := after.1.1 _ _ (accountsOf_of_get? _ _ found)
        rw [accountsOf_eq_none.mpr gone] at kept
        cases kept
      · intro p later hold absent write
        refine Script.wp_pure trivial fun db' after => ⟨rfl, proper, ?_, write⟩
        have same : later.get? registration.lowerSubject = db'.get? registration.lowerSubject := after.agree hold
        exact same ▸ absent
  next => exact refuse (by decide)

end

end SqlIdentities

/-- The password that a request brings. -/
def IdentityJob.password : IdentityJob → String
  | .register registration => registration.password
  | .login _ _ _ request => request.password

/-- Requests that bring one of these passwords. -/
abbrev OwnIdentityJob (passwords : Set String) := { job : IdentityJob // job.password ∈ passwords }

open SqlIdentities

/-- How a request ends. -/
def identitySpec (services : AuthServices) (passwords : Set String) :
    IdentityJob → Script.Spec (identityIsolation services.hasher passwords) LoginCall LoginAnswer LoginError IdentityReply
  | .register registration => (registerSpec services.hasher passwords registration).map .registered
  | .login endpoint draws decodedAt request =>
    (loginSpec (services.at decodedAt) passwords draws request endpoint).map .loggedIn

section

variable {services : AuthServices} {passwords : Set String} {db : IdentityTable}
  {p : Progress IdentityTable String LoginCall LoginAnswer}

theorem decodeToken_error {settings : TokenSettings} {token : String} {expected : TokenType} {now : Int}
    {refused : HTTPException} (h : decodeToken settings token expected now = .error refused) :
    refused = invalidToken := by
  unfold decodeToken at h
  repeat' split at h
  all_goals first | exact (Except.error.inj h).symm | cases h

theorem identity_verified (separates : services.hasher.Separates passwords) (job : OwnIdentityJob passwords)
    (valid : db.Unambiguous services.hasher passwords) :
    Script.wp (identitySpec services passwords job.1) (handle services job.1) {} db := by
  obtain ⟨job, known⟩ := job
  cases job with
  | register registration => exact Script.wp_map (wp_registerIdentity separates known valid) _
  | login endpoint draws decodedAt request =>
    have readable : ∀ token refused, (services.at decodedAt).decodeJti token = .error refused →
        .http refused ≠ invalidCredentials := by
      intro token refused failed
      simp only [AuthServices.at] at failed
      split at failed
      next refused' decoded =>
        rw [← Except.error.inj failed, decodeToken_error decoded]
        decide
      next => cases failed
    exact Script.wp_map (wp_login separates known readable valid endpoint) _

/-- A login changes no account. -/
theorem accountsOf_login (separates : services.hasher.Separates passwords) {endpoint : LoginEndpoint}
    {draws : LoginDraws} {decodedAt : Int} {request : LoginRequest} {response : LoginResponse}
    (valid : db.Unambiguous services.hasher passwords)
    (ended : (loginSpec (services.at decodedAt) passwords draws request endpoint).ending (.ok response) p db) :
    accountsOf services.hasher passwords (p.write db) = accountsOf services.hasher passwords db := by
  obtain ⟨who, account, cleared, stored, opens, _⟩ := ended
  rcases cleared.pending with write | ⟨row, salt, _, found, write⟩
  · rw [write]
    rfl
  · have own : row.subject = who.subject := Table.key_of_get? found
    have known := accountsOf_of_get? services.hasher passwords found
    have same : account = (row.tenantId, row.opened services.hasher passwords) :=
      Option.some.inj (stored.symm.trans known)
    rw [same] at opens
    rw [write]
    exact accountsOf_rehash separates (own ▸ found) opens (valid _ _ known) salt

/-- A registration adds one account, which its password opens. -/
theorem accountsOf_register (separates : services.hasher.Separates passwords) {registration : Registration}
    {subject : String} (known : registration.password ∈ passwords)
    (ended : (registerSpec services.hasher passwords registration).ending (.ok subject) p db) :
    subject = registration.lowerSubject ∧ accountsOf services.hasher passwords db subject = none ∧
      accountsOf services.hasher passwords (p.write db) = Function.update (accountsOf services.hasher passwords db)
        subject (some (defaultTenantId, {registration.password})) := by
  obtain ⟨rfl, proper, absent, write⟩ := ended
  refine ⟨rfl, accountsOf_eq_none.mpr absent, ?_⟩
  have short : registration.password.length ≤ 1024 := by
    simp only [Registration.valid, Bool.and_eq_true, decide_eq_true_eq] at proper
    omega
  have free : db.get? (registeredRow services.hasher registration).subject = none := absent
  rw [write, accountsOf_insert free]
  simp only [registeredRow, opened_hash separates known short]

theorem identity_promise (separates : services.hasher.Separates passwords) (job : OwnIdentityJob passwords)
    {reply : IdentityReply} (valid : db.Unambiguous services.hasher passwords)
    (ended : (identitySpec services passwords job.1).ending (.ok reply) p db) :
    db.Keeps services.hasher passwords (p.write db) ∧ IdentityTable.Unambiguous services.hasher passwords (p.write db) := by
  obtain ⟨job, known⟩ := job
  cases job with
  | login endpoint draws decodedAt request =>
    obtain ⟨response, _, ended⟩ := ended
    have same := accountsOf_login separates valid ended
    refine ⟨fun subject account found => same ▸ found, fun subject account found => ?_⟩
    exact valid subject account (same ▸ found)
  | register registration =>
    obtain ⟨subject, _, ended⟩ := ended
    obtain ⟨_, absent, added⟩ := accountsOf_register separates known ended
    constructor
    · intro other account found
      rw [added, Function.update_of_ne, found]
      rintro rfl
      rw [absent] at found
      cases found
    · intro other account found
      rw [added, Function.update_apply] at found
      split at found
      next =>
        cases found
        exact Set.subsingleton_singleton
      next => exact valid other account found

variable {κ W : Type} [DecidableEq κ]

abbrev IdentitySite (passwords : Set String) (κ W : Type) :=
  Site IdentityTable W String LoginCall LoginAnswer LoginError IdentityReply (OwnIdentityJob passwords) κ

abbrev IdentityEvent (passwords : Set String) (κ : Type) :=
  SiteEvent IdentityTable String LoginCall LoginAnswer LoginError IdentityReply (OwnIdentityJob passwords) κ

def identityBody (services : AuthServices) (job : OwnIdentityJob passwords) : IdentityScript IdentityReply :=
  handle services job.1

/-- What an event does to the accounts: only the commit of a registration adds one. -/
def accountStep (event : IdentityEvent passwords κ) (accounts : String → Option (UUID × Set String)) :
    String → Option (UUID × Set String) :=
  match event with
  | .commit _ session (.registered subject) =>
    Function.update accounts subject (some (defaultTenantId, {session.job.1.password}))
  | _ => accounts

/-- The subject that a commit registers. -/
def registered? : IdentityEvent passwords κ → Option String
  | .commit _ _ (.registered subject) => some subject
  | _ => none

section

variable {service : Service W LoginCall LoginAnswer} {σ σ' : IdentitySite passwords κ W}
  {event : IdentityEvent passwords κ} {trace : List (Transition (IdentitySite passwords κ W) (IdentityEvent passwords κ))}
  {t : Transition (IdentitySite passwords κ W) (IdentityEvent passwords κ)} {db₀ db' : IdentityTable} {world₀ : W}

omit [DecidableEq κ] in
theorem accountsOf_event (separates : services.hasher.Separates passwords)
    (valid : db.Unambiguous services.hasher passwords)
    (meets : event.Meets (fun job => identitySpec services passwords job.1) db db') :
    accountsOf services.hasher passwords db' = accountStep event (accountsOf services.hasher passwords db) ∧
      ∀ subject, registered? event = some subject → accountsOf services.hasher passwords db subject = none := by
  cases event with
  | begin | start | finish | call | crash =>
    obtain rfl : db' = db := meets
    exact ⟨rfl, fun _ silent => by cases silent⟩
  | rollback =>
    obtain rfl : db' = db := meets.2
    exact ⟨rfl, fun _ silent => by cases silent⟩
  | commit k session reply =>
    obtain ⟨ended, rfl⟩ := meets
    rcases session with ⟨⟨job, known⟩, script, progress, snapshot⟩
    cases job with
    | login endpoint draws decodedAt request =>
      obtain ⟨response, rfl, ended⟩ := ended
      exact ⟨accountsOf_login separates valid ended, fun _ silent => by cases silent⟩
    | register registration =>
      obtain ⟨subject, rfl, ended⟩ := ended
      obtain ⟨_, absent, added⟩ := accountsOf_register separates known ended
      exact ⟨added, fun _ same => Option.some.inj same ▸ absent⟩

theorem identity_sound (separates : services.hasher.Separates passwords)
    (sound : Site.Sound (identityIsolation services.hasher passwords) (fun job => identitySpec services passwords job.1) σ)
    (run : Exec (Site.Step (identityBody services) service) σ trace σ') :
    Site.Sound (identityIsolation services.hasher passwords) (fun job => identitySpec services passwords job.1) σ' ∧
      ∀ t ∈ trace, t.pre.db.Unambiguous services.hasher passwords ∧
        Site.Step (identityBody services) service t.pre t.label t.post ∧
        t.label.Meets (fun job => identitySpec services passwords job.1) t.pre.db t.post.db := by
  have step : ∀ (σ : IdentitySite passwords κ W) event σ', Site.Sound (identityIsolation services.hasher passwords)
      (fun job => identitySpec services passwords job.1) σ →
      Site.Step (identityBody services) service σ event σ' →
      Site.Sound (identityIsolation services.hasher passwords) (fun job => identitySpec services passwords job.1) σ' :=
    fun _ _ _ => Site.Sound.step (fun job _ => identity_verified separates job)
      fun job _ _ _ => identity_promise separates job
  refine ⟨run.invariant sound step, fun t ht => ?_⟩
  obtain ⟨before, taken, _⟩ := run.invariant_transition sound step ht
  exact ⟨before.valid, taken, before.meets taken⟩

/-- No subject is registered twice. -/
theorem registrations_nodup (separates : services.hasher.Separates passwords)
    (start : db₀.Unambiguous services.hasher passwords)
    (run : Exec (Site.Step (identityBody services) service) (Site.quiet db₀ world₀) trace σ) :
    (trace.filterMap fun t => registered? t.label).Nodup ∧
      ∀ subject ∈ trace.filterMap fun t => registered? t.label,
        accountsOf services.hasher passwords σ.db subject ≠ none := by
  induction run with
  | start => simp
  | @next trace σ event σ' previous taken ih =>
    obtain ⟨once, stored⟩ := ih
    obtain ⟨sound, _⟩ := identity_sound separates (Site.sound_quiet start world₀) previous
    have effect := accountsOf_event separates sound.valid (sound.meets taken)
    have kept := Site.step_of_meets (fun job _ _ _ => identity_promise separates job) sound.valid (sound.meets taken)
    have stays : ∀ subject, accountsOf services.hasher passwords σ.db subject ≠ none →
        accountsOf services.hasher passwords σ'.db subject ≠ none := by
      intro subject there
      obtain ⟨account, found⟩ := Option.ne_none_iff_exists'.mp there
      rw [kept subject account found]
      exact Option.some_ne_none account
    cases registers : registered? event with
    | none =>
      simp only [List.filterMap_append, List.filterMap_cons, registers, List.filterMap_nil, List.append_nil]
      exact ⟨once, fun subject mem => stays subject (stored subject mem)⟩
    | some subject =>
      simp only [List.filterMap_append, List.filterMap_cons, registers, List.filterMap_nil]
      have fresh := effect.2 subject registers
      refine ⟨?_, fun other mem => ?_⟩
      · refine List.Nodup.append once (List.nodup_singleton subject) ?_
        intro other mem same
        obtain rfl := List.mem_singleton.mp same
        exact stored other mem fresh
      · rcases List.mem_append.mp mem with old | new
        · exact stays other (stored other old)
        · obtain rfl := List.mem_singleton.mp new
          rw [effect.1]
          cases event with
          | begin | start | finish | call | crash | rollback => cases registers
          | commit k session reply =>
            cases reply with
            | loggedIn => cases registers
            | registered subject =>
              cases registers
              simp [accountStep]

omit [DecidableEq κ] in
theorem registered_of_ending {job : IdentityJob} {subject : String}
    (ended : (identitySpec services passwords job).ending (.ok (.registered subject)) p db) :
    ∃ registration, job = .register registration ∧
      (registerSpec services.hasher passwords registration).ending (.ok subject) p db := by
  cases job with
  | register registration =>
    obtain ⟨_, same, ended⟩ := ended
    cases same
    exact ⟨registration, rfl, ended⟩
  | login =>
    obtain ⟨_, different, _⟩ := ended
    cases different

omit [DecidableEq κ] in
theorem loggedIn_of_ending {job : IdentityJob} {answer : LoginResponse}
    (ended : (identitySpec services passwords job).ending (.ok (.loggedIn answer)) p db) :
    ∃ endpoint draws decodedAt request, job = .login endpoint draws decodedAt request ∧
      (loginSpec (services.at decodedAt) passwords draws request endpoint).ending (.ok answer) p db := by
  cases job with
  | register =>
    obtain ⟨_, different, _⟩ := ended
    cases different
  | login endpoint draws decodedAt request =>
    obtain ⟨_, same, ended⟩ := ended
    cases same
    exact ⟨endpoint, draws, decodedAt, request, rfl, ended⟩

/-- A login that begins while its password opens its account does not find it closed. -/
theorem open_login_not_refused (separates : services.hasher.Separates passwords)
    (sound : Site.Sound (identityIsolation services.hasher passwords) (fun job => identitySpec services passwords job.1) σ)
    (run : Exec (Site.Step (identityBody services) service) σ trace σ') (ht : t ∈ trace) {k : κ}
    {session : Session IdentityTable String LoginCall LoginAnswer LoginError IdentityReply (OwnIdentityJob passwords)}
    {endpoint : LoginEndpoint} {draws : LoginDraws} {decodedAt : Int} {request : LoginRequest}
    {account : UUID × Set String} (idle : σ.active k = none)
    (stored : accountsOf services.hasher passwords σ.db (loginSubject (services.at decodedAt) request) = some account)
    (opens : request.password ∈ account.2) (job : session.job.1 = .login endpoint draws decodedAt request) :
    t.label ≠ .rollback k session invalidCredentials := by
  intro label
  obtain ⟨_, taken, meets⟩ := (identity_sound separates sound run).2 t ht
  rw [label] at taken meets
  have active : t.pre.active k = some session := by
    generalize t.pre = pre, t.post = post at taken ⊢
    cases taken with
    | rollback found => exact found
  have ended : (identitySpec services passwords session.job.1).ending (.error invalidCredentials) session.progress
    t.pre.db := meets.1
  rw [job] at ended
  obtain ⟨snapshot, first, closed⟩ := ended rfl
  have recent := Site.recent_of_mem (fun job _ => identity_verified separates job)
    (fun job _ _ _ => identity_promise separates job) sound run idle ht active
  exact closed account (recent.first snapshot first _ _ stored) opens

/-- Whatever registrations and logins run side by side, are rolled back or lost: an account belongs to the one
registration that won its subject, its tenant and its password never change, and only that password logs in. -/
theorem accounts_open_as_registered (separates : services.hasher.Separates passwords)
    (start : db₀.Unambiguous services.hasher passwords)
    (run : Exec (Site.Step (identityBody services) service) (Site.quiet db₀ world₀) trace σ) :
    -- only a committed registration changes the accounts, and none is made twice
    (∀ t ∈ trace, accountsOf services.hasher passwords t.post.db =
      accountStep t.label (accountsOf services.hasher passwords t.pre.db)) ∧
    (trace.filterMap fun t => registered? t.label).Nodup ∧
    (∀ t ∈ trace, ∀ k session subject, t.label = .commit k session (.registered subject) →
      ∃ registration, session.job.1 = .register registration ∧ subject = registration.lowerSubject ∧
        accountsOf services.hasher passwords t.pre.db subject = none) ∧
    -- a registration is refused as a duplicate only when the account is there
    (∀ t ∈ trace, ∀ k session registration, t.label = .rollback k session identityExists →
      session.job.1 = .register registration →
      accountsOf services.hasher passwords t.pre.db registration.lowerSubject ≠ none) ∧
    -- who logs in has the password of the account, and gets the response for its tenant
    (∀ t ∈ trace, ∀ k session answer, t.label = .commit k session (.loggedIn answer) →
      ∃ endpoint draws decodedAt request account, session.job.1 = .login endpoint draws decodedAt request ∧
        accountsOf services.hasher passwords t.pre.db (loginSubject (services.at decodedAt) request) = some account ∧
        request.password ∈ account.2 ∧
        response (services.at decodedAt) draws request (loginSubject (services.at decodedAt) request) account.1 endpoint =
          .ok answer) ∧
    -- a login that begins while its password opens its account is never refused for its credentials
    ∀ further σ', Exec (Site.Step (identityBody services) service) σ further σ' →
      ∀ t ∈ further, ∀ k session endpoint draws decodedAt request account, σ.active k = none →
        accountsOf services.hasher passwords σ.db (loginSubject (services.at decodedAt) request) = some account →
        request.password ∈ account.2 → session.job.1 = .login endpoint draws decodedAt request →
        t.label ≠ .rollback k session invalidCredentials := by
  obtain ⟨sound, steps⟩ := identity_sound separates (Site.sound_quiet start world₀) run
  refine ⟨fun t ht => ?_, (registrations_nodup separates start run).1, fun t ht k session subject label => ?_,
    fun t ht k session registration label job => ?_, fun t ht k session answer label => ?_,
    fun further σ' rest t ht k session endpoint draws decodedAt request account idle stored opens job => ?_⟩
  · obtain ⟨valid, _, meets⟩ := steps t ht
    exact (accountsOf_event separates valid meets).1
  · obtain ⟨valid, _, meets⟩ := steps t ht
    rw [label] at meets
    obtain ⟨registration, job, ended⟩ := registered_of_ending meets.1
    exact ⟨registration, job, ended.1, accountsOf_eq_none.mpr ended.2.2.1⟩
  · obtain ⟨valid, _, meets⟩ := steps t ht
    rw [label] at meets
    have ended : (identitySpec services passwords session.job.1).ending (.error identityExists) session.progress
      t.pre.db := meets.1
    rw [job] at ended
    exact fun gone => ended rfl (accountsOf_eq_none.mp gone)
  · obtain ⟨valid, _, meets⟩ := steps t ht
    rw [label] at meets
    obtain ⟨endpoint, draws, decodedAt, request, job, who, account, cleared, stored, opens, answered⟩ :=
      loggedIn_of_ending meets.1
    rw [cleared.subject] at stored answered
    exact ⟨endpoint, draws, decodedAt, request, account, job, stored, opens, answered⟩
  · exact open_login_not_refused separates sound rest ht idle stored opens job

end

end

/-- A hasher that keeps the password in clear behind the name of the variant, of which `argon2i` is out of date. -/
def namedHasher : PasswordHasher where
  hash password _ := "$argon2id$" ++ password
  verify expected password := expected = "$argon2id$" ++ password || expected = "$argon2i$" ++ password
  checkNeedsRehash expected := expected.toList.take 9 = "$argon2i$".toList
  dummyPasswordHash := "$argon2id$dummy"

def memberPasswords : Set String := {"correct horse battery", "wrong horse battery"}

theorem namedHasher_separates : namedHasher.Separates memberPasswords := by
  refine ⟨?_, ?_, ?_⟩
  · rintro p (rfl | rfl) q (rfl | rfl) salt <;> simp [namedHasher]
  · rintro p (rfl | rfl) salt <;> simp only [namedHasher] <;> decide
  · rintro p (rfl | rfl) salt <;> simp only [namedHasher] <;> decide

def memberServices : AuthServices := { sampleServices with hasher := namedHasher }

/-- Outside the transaction everything goes well. -/
def memberAnswer : LoginCall → Unit → LoginAnswer × Unit
  | .checkMany _ _, _ => (.decided ⟨true, 0⟩, ())
  | _, _ => (.done, ())

def memberService : Service Unit LoginCall LoginAnswer :=
  ⟨fun world call answer => answer = (memberAnswer call world).1, fun world call _ => (memberAnswer call world).2⟩

/-- An identity from the time of the old parameters. -/
def memberRow : IdentityRow := ⟨"customer:00000000-0000-0000-0000-00000000000a", 1, "$argon2i$correct horse battery"⟩

def memberTable : IdentityTable := Table.empty.put memberRow

theorem memberRow_opened : memberRow.opened namedHasher memberPasswords = {"correct horse battery"} := by
  ext p
  constructor
  · rintro ⟨rfl | rfl, _, verified⟩
    · rfl
    · exact absurd verified (by decide)
  · rintro rfl
    exact ⟨.inl rfl, by decide, by decide⟩

theorem memberTable_unambiguous : memberTable.Unambiguous namedHasher memberPasswords := by
  intro subject account stored
  obtain ⟨row, found, rfl⟩ := accountsOf_eq_some.mp stored
  rw [memberTable, Table.get?_put] at found
  split at found
  next =>
    cases found
    rw [memberRow_opened]
    exact Set.subsingleton_singleton
  next => cases found

def memberLogin : IdentityJob := .login .issueToken customerDraws newYear.1 customerLogin

theorem memberLogin_known : memberLogin.password ∈ memberPasswords := .inl rfl

def memberResponse : LoginResponse :=
  pairResponse (memberServices.at newYear.1) customerDraws customerLogin
    (issueTokenPair memberRow.subject customerDraws.familyId 1 customerDraws.refreshJti customerDraws.issuedAt)

theorem memberLogin_alone :
    ((handle memberServices memberLogin).transact memberAnswer memberTable ()).1 = .ok (.loggedIn memberResponse) ∧
    (((handle memberServices memberLogin).transact memberAnswer memberTable ()).2.1.get? memberRow.subject) =
      some { memberRow with passwordHash := "$argon2id$correct horse battery" } :=
  ⟨rfl, rfl⟩

theorem member_logs_in_and_is_rehashed : ∃ trace σ t k session account,
    Exec (Site.Step (identityBody memberServices) memberService)
      (Site.quiet memberTable () : IdentitySite memberPasswords Bool Unit) trace σ ∧
    t ∈ trace ∧ t.label = .commit k session (.loggedIn memberResponse) ∧
    accountsOf namedHasher memberPasswords t.pre.db memberRow.subject = some account ∧
    "correct horse battery" ∈ account.2 ∧
    σ.db.get? memberRow.subject = some { memberRow with passwordHash := "$argon2id$correct horse battery" } := by
  have follows : memberService.Follows memberAnswer fun _ => True :=
    ⟨fun _ _ _ => rfl, fun _ _ _ => rfl, fun _ _ _ => trivial⟩
  obtain ⟨trace, run, commits⟩ := Site.exec_transact (identityBody memberServices) follows true
    (⟨memberLogin, memberLogin_known⟩ : OwnIdentityJob memberPasswords) memberTable
    (show (fun _ : Unit => True) () from trivial)
  obtain ⟨t, ht, session, job, label⟩ := commits _ memberLogin_alone.1
  have separates : memberServices.hasher.Separates memberPasswords := namedHasher_separates
  have accounts := accounts_open_as_registered separates memberTable_unambiguous run
  obtain ⟨endpoint, draws, decodedAt, request, account, own, stored, opens, _⟩ :=
    accounts.2.2.2.2.1 t ht true session memberResponse label
  rw [job] at own
  cases own
  exact ⟨trace, _, t, true, session, account, run, ht, label, stored, opens, memberLogin_alone.2⟩

end DeliveryService
