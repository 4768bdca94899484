import DeliveryService.SqlIdentity

namespace DeliveryService

open SqlIdentities

/-- The parts of the process that a login uses beside the identities. -/
structure LoginWorld where
  limiter : Requests
  audit : List AuditEvent
  refreshSessions : InMemoryRefreshSessionRepository

def LoginWorld.answer : LoginCall → LoginWorld → LoginAnswer × LoginWorld
  | .checkMany keys now, world =>
    match world.limiter.checkMany loginRate keys now with
    | (.ok limit, limiter) => (.decided limit, { world with limiter := limiter })
    | (.error _, limiter) => (.raised, { world with limiter := limiter })
  | .record event, world => (.done, { world with audit := world.audit ++ [event] })
  | .register session, world =>
    match world.refreshSessions.register session with
    | (.ok _, refreshSessions) => (.done, { world with refreshSessions := refreshSessions })
    | (.error _, _) => (.raised, world)

namespace LoginState

def world (s : LoginState) : LoginWorld := ⟨s.limiter, s.audit, s.refreshSessions⟩

/-- A whole request on the identities of the process. -/
def handle (services : AuthServices) (s : LoginState) : IdentityJob → Except LoginError IdentityReply × LoginState
  | .register registration =>
    let outcome := DeliveryService.registerIdentity services.folding services.hasher s.identities registration
    ((outcome.1.mapError LoginError.http).map .registered, { s with identities := outcome.2 })
  | .login endpoint draws decodedAt request =>
    let outcome := endpoint.handle (services.at decodedAt) draws s request
    (outcome.1.map .loggedIn, outcome.2)

end LoginState

section

variable (hasher : PasswordHasher) (passwords : Set String)

/-- What the identities of the process are to their users. -/
def memoryAccounts (identities : InMemoryIdentityRepository) (subject : String) : Option (Option UUID × Set String) :=
  (identities.passwords.get? subject).map fun hash =>
    (identities.tenants.get? subject, (⟨subject, defaultTenantId, hash⟩ : IdentityRow).opened hasher passwords)

/-- Both repositories hold the same accounts, not necessarily under the same hashes. -/
def HoldsAccounts (db : IdentityTable) (identities : InMemoryIdentityRepository) : Prop :=
  ∀ subject, memoryAccounts hasher passwords identities subject =
    (accountsOf hasher passwords db subject).map fun account => (some account.1, account.2)

end

section

variable {hasher : PasswordHasher} {passwords : Set String} {db : IdentityTable}
  {identities : InMemoryIdentityRepository} {subject : String}

theorem opened_congr {row row' : IdentityRow} (same : row.passwordHash = row'.passwordHash) :
    row.opened hasher passwords = row'.opened hasher passwords := by
  unfold IdentityRow.opened
  rw [same]

theorem HoldsAccounts.absent (holds : HoldsAccounts hasher passwords db identities)
    (none_stored : db.get? subject = none) : identities.passwords.get? subject = none := by
  have same := holds subject
  rw [accountsOf_eq_none.mpr none_stored, Option.map_none] at same
  exact Option.map_eq_none_iff.mp same

theorem HoldsAccounts.present (holds : HoldsAccounts hasher passwords db identities) {row : IdentityRow}
    (found : db.get? subject = some row) : ∃ hash, identities.passwords.get? subject = some hash ∧
      identities.tenants.get? subject = some row.tenantId ∧
      (⟨subject, defaultTenantId, hash⟩ : IdentityRow).opened hasher passwords = row.opened hasher passwords := by
  have same := holds subject
  rw [accountsOf_of_get? hasher passwords found, Option.map_some] at same
  obtain ⟨hash, stored, equal⟩ := Option.map_eq_some_iff.mp same
  exact ⟨hash, stored, (Prod.mk.inj equal).1, (Prod.mk.inj equal).2⟩

/-- A new hash of the password that opens an identity changes no account of the process either. -/
theorem memoryAccounts_rehash (separates : hasher.Separates passwords) {expected p : String}
    (opens : p ∈ (⟨subject, defaultTenantId, expected⟩ : IdentityRow).opened hasher passwords)
    (single : ((⟨subject, defaultTenantId, expected⟩ : IdentityRow).opened hasher passwords).Subsingleton)
    (salt : String) :
    memoryAccounts hasher passwords (identities.replacePasswordHash subject expected (hasher.hash p salt)) =
      memoryAccounts hasher passwords identities := by
  unfold InMemoryIdentityRepository.replacePasswordHash
  split
  next stored =>
    funext other
    unfold memoryAccounts
    simp only [Dict.get?_set]
    split
    next here =>
      subst here
      rw [stored, Option.map_some, Option.map_some]
      exact congrArg (fun opened => some (identities.tenants.get? other, opened)) (opened_rehash separates opens single salt)
    next => rfl
  next => rfl

end

section

variable {services : LoginServices} {draws : LoginDraws} {request : LoginRequest} {passwords : Set String}
  {db view : IdentityTable} {world : LoginWorld} {s : LoginState}

@[simp]
theorem runAlone_record (contents : AuditContents) :
    (record draws contents).runAlone LoginWorld.answer view world =
      (.ok (), view, { world with audit := world.audit ++ [draws.stamp contents] }) := rfl

theorem runAlone_registerSession_ok {session : RefreshSession} {stored : InMemoryRefreshSessionRepository}
    (ran : world.refreshSessions.register session = (.ok (), stored)) :
    (registerSession session).runAlone LoginWorld.answer view world =
      (.ok (), view, { world with refreshSessions := stored }) := by
  rw [registerSession, Script.runAlone_bind, Script.runAlone_request, LoginWorld.answer, ran]
  rfl

theorem runAlone_registerSession_error {session : RefreshSession} {e : Error} {stored : InMemoryRefreshSessionRepository}
    (ran : world.refreshSessions.register session = (.error e, stored)) :
    (registerSession session).runAlone LoginWorld.answer view world = (.error .unhandled, view, world) := by
  rw [registerSession, Script.runAlone_bind, Script.runAlone_request, LoginWorld.answer, ran]
  rfl

/-- The two outcomes of the password check are for the same person. -/
structure SamePerson (services : LoginServices) (passwords : Set String) (request : LoginRequest) (db : IdentityTable)
    (identities : InMemoryIdentityRepository) (who who' : Authenticated) : Prop where
  subject : who'.subject = who.subject
  networkKey : who'.networkKey = who.networkKey
  stored : ∃ account, accountsOf services.hasher passwords db who.subject = some account ∧
    identities.tenants.get? who.subject = some account.1 ∧ request.password ∈ account.2
  opens : request.password ∈
    (⟨who.subject, defaultTenantId, who.passwordHash⟩ : IdentityRow).opened services.hasher passwords
  single : ((⟨who.subject, defaultTenantId, who.passwordHash⟩ : IdentityRow).opened services.hasher passwords).Subsingleton
  replacement : ∀ hash, who.check.replacementHash = some hash →
    ∃ salt, hash = services.hasher.hash request.password salt
  replacement' : ∀ hash, who'.check.replacementHash = some hash →
    ∃ salt, hash = services.hasher.hash request.password salt

theorem runAlone_checkLimit_error {subject networkKey action : String} {keys : List String} {e : RateLimitError}
    {limiter : Requests} (limited : world.limiter.checkMany loginRate keys request.now = (.error e, limiter)) :
    (checkLimit services draws request subject networkKey action keys).runAlone LoginWorld.answer view world =
      (.error .unhandled, view, { world with limiter := limiter }) := by
  rw [checkLimit, Script.runAlone_bind, Script.runAlone_request, LoginWorld.answer, limited]
  rfl

theorem runAlone_checkLimit_refused {subject networkKey action : String} {keys : List String}
    {limit : RateLimitDecision} {limiter : Requests}
    (limited : world.limiter.checkMany loginRate keys request.now = (.ok limit, limiter))
    (exhausted : ¬ limit.allowed = true) :
    (checkLimit services draws request subject networkKey action keys).runAlone LoginWorld.answer view world =
      (.error (.http ⟨429, "too many login attempts", [("Retry-After", toString limit.retryAfterSeconds)]⟩), view,
        ⟨limiter, world.audit ++ [draws.stamp (authEvent services request none subject action "rate_limited"
          "attempt_budget_exhausted" networkKey)], world.refreshSessions⟩) := by
  rw [checkLimit, Script.runAlone_bind, Script.runAlone_request, LoginWorld.answer, limited]
  simp only
  rw [if_pos exhausted, Script.runAlone_bind, runAlone_record]
  rfl

theorem runAlone_checkLimit_passed {subject networkKey action : String} {keys : List String}
    {limit : RateLimitDecision} {limiter : Requests}
    (limited : world.limiter.checkMany loginRate keys request.now = (.ok limit, limiter))
    (allowed : limit.allowed = true) :
    (checkLimit services draws request subject networkKey action keys).runAlone LoginWorld.answer view world =
      (.ok (), view, { world with limiter := limiter }) := by
  rw [checkLimit, Script.runAlone_bind, Script.runAlone_request, LoginWorld.answer, limited]
  simp only [allowed, not_true_eq_false, if_false, Script.runAlone_pure]

/-- The result of the check of a stored hash. -/
def checkedHash (services : LoginServices) (draws : LoginDraws) (request : LoginRequest) (hash : String) : PasswordCheck :=
  checkPassword services.hasher (if request.password.length ≤ 1024 then request.password else "invalid-password")
    (orDummy services.hasher (some hash)) draws.salt

theorem runAlone_checkCredentials_absent {subject networkKey action : String} (absent : view.get? subject = none) :
    (checkCredentials services draws request subject networkKey action).runAlone LoginWorld.answer view world =
      (.error invalidCredentials, view, { world with audit := world.audit ++ [draws.stamp
        (authEvent services request none subject action "denied" "invalid_credentials" networkKey)] }) := by
  rw [checkCredentials, Script.runAlone_bind, Script.runAlone_perform]
  simp only [SqlAlchemyIdentityRepository.passwordHash, absent, Option.map_none, id]
  rw [Script.runAlone_bind, runAlone_record]
  rfl

theorem runAlone_checkCredentials_refused {subject networkKey action : String} {row : IdentityRow}
    (found : view.get? subject = some row)
    (refused : ¬ (checkedHash services draws request row.passwordHash).verified = true ∨ 1024 < request.password.length) :
    (checkCredentials services draws request subject networkKey action).runAlone LoginWorld.answer view world =
      (.error invalidCredentials, view, { world with audit := world.audit ++ [draws.stamp
        (authEvent services request none subject action "denied" "invalid_credentials" networkKey)] }) := by
  unfold checkedHash at refused
  rw [checkCredentials, Script.runAlone_bind, Script.runAlone_perform]
  simp only [SqlAlchemyIdentityRepository.passwordHash, found, Option.map_some, id]
  rw [if_pos refused, Script.runAlone_bind, runAlone_record]
  rfl

theorem runAlone_checkCredentials_passed {subject networkKey action : String} {row : IdentityRow}
    (found : view.get? subject = some row)
    (passed : ¬ (¬ (checkedHash services draws request row.passwordHash).verified = true ∨
      1024 < request.password.length)) :
    (checkCredentials services draws request subject networkKey action).runAlone LoginWorld.answer view world =
      (.ok ⟨subject, networkKey, row.passwordHash, checkedHash services draws request row.passwordHash⟩, view, world) := by
  unfold checkedHash at passed ⊢
  rw [checkCredentials, Script.runAlone_bind, Script.runAlone_perform]
  simp only [SqlAlchemyIdentityRepository.passwordHash, found, Option.map_some, id]
  rw [if_neg passed, Script.runAlone_pure]

theorem runAlone_authenticate (action : String) (limitKeys : List String → List String) :
    (SqlIdentities.authenticate services draws request action limitKeys).runAlone LoginWorld.answer view world =
      ((checkLimit services draws request (loginSubject services request)
        (trustedClientNetworkKey services request.client) action (limitKeys (loginLimitKeys services
          (trustedClientNetworkKey services request.client) (loginSubject services request))) >>= fun _ =>
        checkCredentials services draws request (loginSubject services request)
          (trustedClientNetworkKey services request.client) action).runAlone LoginWorld.answer view world) := rfl

theorem replacement_of_checked {hash replacement : String} (short : request.password.length ≤ 1024)
    (offered : (checkedHash services draws request hash).replacementHash = some replacement) :
    ∃ salt, replacement = services.hasher.hash request.password salt := by
  simp only [checkedHash, checkPassword, if_pos short] at offered
  split at offered
  next =>
    split at offered
    next => exact ⟨draws.salt, (Option.some.inj offered).symm⟩
    next => cases offered
  next => cases offered

/-- Hashes that the same passwords open are checked alike. -/
theorem refused_congr (draws : LoginDraws) {row : IdentityRow} {subject hash : String}
    (known : request.password ∈ passwords) (same : (⟨subject, defaultTenantId, hash⟩ : IdentityRow).opened services.hasher passwords =
      row.opened services.hasher passwords) :
    (¬ (checkedHash services draws request row.passwordHash).verified = true ∨ 1024 < request.password.length) ↔
      (¬ (checkedHash services draws request hash).verified = true ∨ 1024 < request.password.length) := by
  by_cases short : request.password.length ≤ 1024
  · have member := Set.ext_iff.mp same request.password
    simp only [IdentityRow.opened, Set.mem_ofPred_eq, known, short, true_and] at member
    simp only [checkedHash, checkPassword_verified, if_pos short, member]
  · exact iff_of_true (.inr (by omega)) (.inr (by omega))

/-- The password check goes the same way on both repositories. -/
theorem authenticate_agrees (draws : LoginDraws) (action : String) (limitKeys : List String → List String)
    (valid : db.Unambiguous services.hasher passwords) (known : request.password ∈ passwords)
    (holds : HoldsAccounts services.hasher passwords db s.identities) :
    ∃ s' : LoginState, s'.identities = s.identities ∧
      ((∃ e, DeliveryService.authenticate services draws s request action limitKeys = (.error e, s') ∧
        (SqlIdentities.authenticate services draws request action limitKeys).runAlone LoginWorld.answer db s.world =
          (.error e, db, s'.world)) ∨
      ∃ who who', DeliveryService.authenticate services draws s request action limitKeys = (.ok who, s') ∧
        (SqlIdentities.authenticate services draws request action limitKeys).runAlone LoginWorld.answer db s.world =
          (.ok who', db, s'.world) ∧ SamePerson services passwords request db s.identities who who') := by
  rw [runAlone_authenticate, Script.runAlone_bind]
  unfold DeliveryService.authenticate loginContext
  simp only
  generalize loginSubject services request = subject, trustedClientNetworkKey services request.client = networkKey
  generalize limitKeys (loginLimitKeys services networkKey subject) = keys
  rcases limited : s.limiter.checkMany loginRate keys request.now with ⟨e | limit, limiter⟩
  · have limited' : s.world.limiter.checkMany loginRate keys request.now = (.error e, limiter) := limited
    exact ⟨{ s with limiter := limiter }, rfl, .inl ⟨.unhandled, rfl, by rw [runAlone_checkLimit_error limited']; rfl⟩⟩
  have limited' : s.world.limiter.checkMany loginRate keys request.now = (.ok limit, limiter) := limited
  by_cases allowed : limit.allowed = true
  · rw [runAlone_checkLimit_passed limited' allowed]
    simp only [allowed, not_true_eq_false, if_false]
    have denied : ∀ contents, ∃ s' : LoginState, s'.identities = s.identities ∧
        { s with limiter := limiter }.record draws contents = s' ∧
        s'.world = ⟨limiter, s.audit ++ [draws.stamp contents], s.refreshSessions⟩ :=
      fun contents => ⟨{ s with limiter := limiter }.record draws contents, rfl, rfl, rfl⟩
    cases found : db.get? subject with
    | none =>
      rw [runAlone_checkCredentials_absent found, holds.absent found]
      obtain ⟨s', kept, memory, world⟩ := denied _
      exact ⟨s', kept, .inl ⟨invalidCredentials, by rw [memory], by rw [world]; rfl⟩⟩
    | some row =>
      obtain ⟨hash, stored, tenant, same⟩ := holds.present found
      have alike := refused_congr draws known same
      have folded : checkPassword services.hasher
          (if request.password.length ≤ 1024 then request.password else "invalid-password")
          (orDummy services.hasher (some hash)) draws.salt = checkedHash services draws request hash := rfl
      rw [stored]
      simp only [folded]
      by_cases refused : ¬ (checkedHash services draws request hash).verified = true ∨ 1024 < request.password.length
      · rw [runAlone_checkCredentials_refused found (alike.mpr refused)]
        rw [if_pos refused]
        obtain ⟨s', kept, memory, world⟩ := denied _
        exact ⟨s', kept, .inl ⟨invalidCredentials, by rw [memory], by rw [world]; rfl⟩⟩
      · rw [runAlone_checkCredentials_passed found (fun refused' => refused (alike.mp refused'))]
        rw [if_neg refused]
        obtain ⟨verified, short⟩ := not_or.mp refused
        have bounded : request.password.length ≤ 1024 := by omega
        rw [not_not, checkedHash, checkPassword_verified, if_pos bounded] at verified
        have account := accountsOf_of_get? services.hasher passwords found
        have opens : request.password ∈
            (⟨subject, defaultTenantId, hash⟩ : IdentityRow).opened services.hasher passwords :=
          ⟨known, bounded, verified⟩
        refine ⟨{ s with limiter := limiter }, rfl, .inr ⟨_, _, rfl, rfl, ⟨rfl, rfl, ⟨_, account, tenant, same ▸ opens⟩, opens, ?_, ?_, ?_⟩⟩⟩
        · exact same ▸ valid _ _ account
        · exact fun _ offered => replacement_of_checked bounded offered
        · exact fun _ offered => replacement_of_checked bounded offered
  · rw [runAlone_checkLimit_refused limited' allowed]
    simp only
    rw [if_pos allowed]
    exact ⟨{ s with limiter := limiter }.record draws _, rfl, .inl ⟨_, rfl, rfl⟩⟩

variable {who who' : Authenticated}

theorem runAlone_rehash (world : LoginWorld) (separates : services.hasher.Separates passwords)
    (valid : db.Unambiguous services.hasher passwords)
    (same : SamePerson services passwords request db s.identities who who') :
    ∃ db', (rehash who').runAlone LoginWorld.answer db world = (.ok (), db', world) ∧
      accountsOf services.hasher passwords db' = accountsOf services.hasher passwords db := by
  unfold rehash
  split
  next hash offered =>
    obtain ⟨salt, rfl⟩ := same.replacement' hash offered
    obtain ⟨finished, ran, changed⟩ := replacePasswordHash_ok who'.subject who'.passwordHash (fun _ => false) db db
      (separates.fits _ same.opens.1 salt)
    refine ⟨finished.write db, by rw [Script.runAlone_bind, Script.runAlone_perform, ran]; rfl, ?_⟩
    rcases changed with write | ⟨_, row, found, write⟩
    · rw [write]
      rfl
    · obtain ⟨account, stored, _, opens⟩ := same.stored
      have own : row.subject = who'.subject := Table.key_of_get? found
      have known := accountsOf_of_get? services.hasher passwords found
      rw [same.subject, stored] at known
      obtain rfl := Option.some.inj known
      rw [write]
      exact accountsOf_rehash separates (own ▸ found) opens (valid _ _ stored) salt
  next => exact ⟨db, rfl, rfl⟩

theorem runAlone_tenantOf_error {subject : String} {refused : HTTPException}
    (parsed : parseSubject subject = .error refused) :
    (tenantOf subject).runAlone LoginWorld.answer view world = (.error (.http refused), view, world) := by
  unfold tenantOf
  rw [parsed]
  rfl

theorem runAlone_tenantOf {subject : String} {named : String × UUID} {account : UUID × Set String}
    (parsed : parseSubject subject = .ok named)
    (stored : accountsOf services.hasher passwords view subject = some account) :
    (tenantOf subject).runAlone LoginWorld.answer view world = (.ok account.1, view, world) := by
  obtain ⟨row, found, rfl⟩ := accountsOf_eq_some.mp stored
  unfold tenantOf
  rw [parsed]
  simp only
  rw [Script.runAlone_bind, Script.runAlone_perform]
  simp only [SqlAlchemyIdentityRepository.tenantId, found, Option.map_some, id]
  rfl

/-- The identities of the process after the rehash of a login. -/
def rehashed (identities : InMemoryIdentityRepository) (who : Authenticated) : InMemoryIdentityRepository :=
  match who.check.replacementHash with
  | some replacement => identities.replacePasswordHash who.subject who.passwordHash replacement
  | none => identities

theorem issuePair_eq (s : LoginState) (who : Authenticated) :
    DeliveryService.issuePair services draws request s who = DeliveryService.issuePair services draws request
      { s with identities := rehashed s.identities who } { who with check := ⟨who.check.verified, none⟩ } := by
  unfold DeliveryService.issuePair rehashed
  cases who.check.replacementHash <;> rfl

theorem memoryAccounts_rehashed (separates : services.hasher.Separates passwords)
    (same : SamePerson services passwords request db s.identities who who') :
    memoryAccounts services.hasher passwords (rehashed s.identities who) =
      memoryAccounts services.hasher passwords s.identities := by
  unfold rehashed
  split
  next replacement offered =>
    obtain ⟨salt, rfl⟩ := same.replacement replacement offered
    exact memoryAccounts_rehash separates same.opens same.single salt
  next => rfl

theorem tenants_rehashed (identities : InMemoryIdentityRepository) (who : Authenticated) :
    (rehashed identities who).tenants = identities.tenants := by
  unfold rehashed
  split
  next => exact tenants_replacePasswordHash _ _ _ _
  next => rfl

/-- Behind the password check the two repositories give the same answer, and both keep their accounts. -/
structure AgreesBehindCheck (services : LoginServices) (passwords : Set String) (db : IdentityTable) (s : LoginState)
    (memory : Except LoginError LoginResponse × LoginState)
    (sql : Except LoginError LoginResponse × IdentityTable × LoginWorld) : Prop where
  answer : sql.1 = memory.1
  world : sql.2.2 = memory.2.world
  accounts : accountsOf services.hasher passwords sql.2.1 = accountsOf services.hasher passwords db
  identities : memoryAccounts services.hasher passwords memory.2.identities =
    memoryAccounts services.hasher passwords s.identities

theorem issuePair_agrees (draws : LoginDraws) (separates : services.hasher.Separates passwords)
    (valid : db.Unambiguous services.hasher passwords)
    (same : SamePerson services passwords request db s.identities who who') :
    AgreesBehindCheck services passwords db s (DeliveryService.issuePair services draws request s who)
      ((SqlIdentities.issuePair services draws request who').runAlone LoginWorld.answer db s.world) := by
  obtain ⟨db', rehashes, accounts⟩ := runAlone_rehash s.world separates valid same
  have identities := memoryAccounts_rehashed separates same
  obtain ⟨account, stored, tenant, _⟩ := same.stored
  rw [← accounts] at stored
  rw [← tenants_rehashed s.identities who] at tenant
  rw [issuePair_eq, SqlIdentities.issuePair, Script.runAlone_bind, rehashes]
  simp only [DeliveryService.issuePair, same.subject, same.networkKey]
  rw [Script.runAlone_bind]
  cases parsed : parseSubject who.subject with
  | error refused =>
    rw [runAlone_tenantOf_error parsed]
    exact ⟨rfl, rfl, accounts, identities⟩
  | ok named =>
    rw [runAlone_tenantOf parsed stored]
    simp only [tenant]
    rw [Script.runAlone_bind]
    rcases registered : s.refreshSessions.register (issueTokenPair who.subject draws.familyId account.1 draws.refreshJti
      draws.issuedAt).session with ⟨e | ok, sessions⟩
    · have registered' : s.world.refreshSessions.register (issueTokenPair who.subject draws.familyId account.1
        draws.refreshJti draws.issuedAt).session = (.error e, sessions) := registered
      rw [runAlone_registerSession_error registered']
      exact ⟨rfl, rfl, accounts, identities⟩
    · have registered' : s.world.refreshSessions.register (issueTokenPair who.subject draws.familyId account.1
        draws.refreshJti draws.issuedAt).session = (.ok (), sessions) := registered
      rw [runAlone_registerSession_ok registered']
      exact ⟨rfl, rfl, accounts, identities⟩

theorem openSession_agrees (draws : LoginDraws) (same : SamePerson services passwords request db s.identities who who') :
    AgreesBehindCheck services passwords db s (DeliveryService.openSession services draws request s who)
      ((SqlIdentities.openSession services draws request who').runAlone LoginWorld.answer db s.world) := by
  obtain ⟨account, stored, tenant, _⟩ := same.stored
  rw [SqlIdentities.openSession, same.subject, same.networkKey, Script.runAlone_bind]
  simp only [DeliveryService.openSession]
  cases parsed : parseSubject who.subject with
  | error refused =>
    rw [runAlone_tenantOf_error parsed]
    exact ⟨rfl, rfl, rfl, rfl⟩
  | ok named =>
    rw [runAlone_tenantOf parsed stored]
    simp only [tenant]
    rw [Script.runAlone_bind, Script.runAlone_ofResult]
    simp only [sessionResponse]
    cases decoded : services.decodeJti (services.encodeAccess who.subject account.1 draws.accessJti draws.issuedAt) with
    | error refused => exact ⟨rfl, rfl, rfl, rfl⟩
    | ok jti => exact ⟨rfl, rfl, rfl, rfl⟩

/-- A login agrees when what follows its password check does. -/
theorem loginWith_agrees (draws : LoginDraws) (action : String) (limitKeys : List String → List String)
    {proceed : LoginState → Authenticated → Except LoginError LoginResponse × LoginState}
    {next : Authenticated → IdentityScript LoginResponse} (valid : db.Unambiguous services.hasher passwords)
    (known : request.password ∈ passwords) (holds : HoldsAccounts services.hasher passwords db s.identities)
    (behind : ∀ s' who who', SamePerson services passwords request db s'.identities who who' →
      AgreesBehindCheck services passwords db s' (proceed s' who) ((next who').runAlone LoginWorld.answer db s'.world)) :
    AgreesBehindCheck services passwords db s (loginWith services draws s request action limitKeys proceed)
      ((SqlIdentities.authenticate services draws request action limitKeys >>= next).runAlone LoginWorld.answer db
        s.world) := by
  obtain ⟨s', kept, ⟨e, memory, sql⟩ | ⟨who, who', memory, sql, same⟩⟩ :=
    authenticate_agrees draws action limitKeys valid known holds
  · rw [Script.runAlone_bind, sql]
    simp only [loginWith, memory]
    exact ⟨rfl, rfl, rfl, by rw [kept]⟩
  · rw [← kept] at same
    have agrees := behind s' who who' same
    rw [Script.runAlone_bind, sql]
    simp only [loginWith, memory]
    exact ⟨agrees.answer, agrees.world, agrees.accounts, kept ▸ agrees.identities⟩

/-- A login on the table, alone, does what it does on the identities of the process. -/
theorem login_agrees (services : LoginServices) (draws : LoginDraws) (separates : services.hasher.Separates passwords)
    (valid : db.Unambiguous services.hasher passwords) (known : request.password ∈ passwords)
    (holds : HoldsAccounts services.hasher passwords db s.identities) (endpoint : LoginEndpoint) :
    AgreesBehindCheck services passwords db s (endpoint.handle services draws s request)
      ((login services draws request endpoint).runAlone LoginWorld.answer db s.world) := by
  cases endpoint with
  | issueToken =>
    simp only [LoginEndpoint.handle, Login.issueToken, login]
    exact loginWith_agrees draws "auth.login" id valid known holds
      fun _ _ _ same => issuePair_agrees draws separates valid same
  | createBrowserSession =>
    simp only [LoginEndpoint.handle, Login.createBrowserSession, login]
    exact loginWith_agrees draws "auth.browser_login" browserLimitKeys valid known holds
      fun _ _ _ same => openSession_agrees draws same

end

section

variable {hasher : PasswordHasher} {passwords : Set String} {db : IdentityTable} {world : LoginWorld}
  {identities : InMemoryIdentityRepository} {registration : Registration}

/-- An identity that is added to both repositories. -/
theorem HoldsAccounts.add (holds : HoldsAccounts hasher passwords db identities) {row : IdentityRow}
    (absent : db.get? row.subject = none) : HoldsAccounts hasher passwords (db.insert row)
      ⟨identities.passwords.set row.subject row.passwordHash, identities.tenants.set row.subject row.tenantId⟩ := by
  intro other
  rw [accountsOf_insert absent, Function.update_apply]
  unfold memoryAccounts
  simp only [Dict.get?_set]
  split
  next => exact congrArg (fun opened => some (some row.tenantId, opened)) (opened_congr rfl)
  next => exact holds other

open SqlAlchemyIdentityRepository in
theorem runAlone_add_taken {row stored : IdentityRow} (fits : fitsVarchar 100 row.subject = true)
    (fits' : fitsVarchar 300 row.passwordHash = true) (found : db.get? row.subject = some stored) :
    (Script.perform (add row) : IdentityScript Bool).runAlone LoginWorld.answer db world = (.ok false, db, world) := by
  rw [Script.runAlone_perform]
  simp [add, fits, fits', found]

open SqlAlchemyIdentityRepository in
theorem runAlone_add_free {row : IdentityRow} (fits : fitsVarchar 100 row.subject = true)
    (fits' : fitsVarchar 300 row.passwordHash = true) (absent : db.get? row.subject = none) :
    (Script.perform (add row) : IdentityScript Bool).runAlone LoginWorld.answer db world =
      (.ok true, db.insert row, world) := by
  rw [Script.runAlone_perform]
  simp [add, fits, fits', absent]

/-- A registration on the table, alone, does what it does on the identities of the process. -/
theorem register_agrees (world : LoginWorld) (folding : PyText.CaseFolding) (separates : hasher.Separates passwords)
    (known : registration.password ∈ passwords) (holds : HoldsAccounts hasher passwords db identities) :
    ∃ r db' identities', DeliveryService.registerIdentity folding hasher identities registration = (r, identities') ∧
      (SqlIdentities.registerIdentity folding hasher registration).runAlone LoginWorld.answer db world =
        (r.mapError LoginError.http, db', world) ∧
      HoldsAccounts hasher passwords (if (r.mapError LoginError.http).isOk then db' else db) identities' := by
  unfold DeliveryService.registerIdentity SqlIdentities.registerIdentity
  cases proper : registration.valid with
  | false => exact ⟨_, db, identities, rfl, rfl, holds⟩
  | true =>
    simp only [↓reduceIte, normalizeLoginSubject_valid folding proper]
    cases parsed : parseSubject registration.lowerSubject with
    | error refused => exact ⟨_, db, identities, rfl, rfl, holds⟩
    | ok named =>
      simp only
      rw [Script.runAlone_bind]
      have fits := fits_lowerSubject proper
      have fits' := separates.fits _ known registration.salt
      cases found : db.get? registration.lowerSubject with
      | some row =>
        obtain ⟨hash, stored, _, _⟩ := holds.present found
        have taken : (Script.perform (SqlAlchemyIdentityRepository.add (registeredRow hasher registration)) :
          IdentityScript Bool).runAlone LoginWorld.answer db world = (.ok false, db, world) :=
          runAlone_add_taken fits fits' found
        rw [registeredRow] at taken
        rw [taken]
        refine ⟨.error ⟨409, "identity already exists", []⟩, db, identities, ?_, rfl, holds⟩
        simp [InMemoryIdentityRepository.add, Dict.contains, stored]
      | none =>
        have free : (Script.perform (SqlAlchemyIdentityRepository.add (registeredRow hasher registration)) :
          IdentityScript Bool).runAlone LoginWorld.answer db world =
            (.ok true, db.insert (registeredRow hasher registration), world) :=
          runAlone_add_free fits fits' found
        rw [registeredRow] at free
        rw [free]
        have added := HoldsAccounts.add holds (show db.get? (registeredRow hasher registration).subject = none from found)
        refine ⟨.ok registration.lowerSubject, db.insert (registeredRow hasher registration), _, ?_, rfl,
          added⟩
        simp [InMemoryIdentityRepository.add, Dict.contains, holds.absent found, registeredRow]

end

section

variable {services : AuthServices} {passwords : Set String} {db : IdentityTable} {s : LoginState}

theorem HoldsAccounts.congr {hasher : PasswordHasher} {db db' : IdentityTable}
    {identities identities' : InMemoryIdentityRepository} (holds : HoldsAccounts hasher passwords db identities)
    (table : accountsOf hasher passwords db' = accountsOf hasher passwords db)
    (memory : memoryAccounts hasher passwords identities' = memoryAccounts hasher passwords identities) :
    HoldsAccounts hasher passwords db' identities' := by
  intro subject
  rw [table, memory]
  exact holds subject

theorem transact_unambiguous (separates : services.hasher.Separates passwords) (job : OwnIdentityJob passwords)
    (valid : db.Unambiguous services.hasher passwords) (world : LoginWorld) :
    IdentityTable.Unambiguous services.hasher passwords
      ((handle services job.1).transact LoginWorld.answer db world).2.1 := by
  obtain ⟨p, ended, view⟩ := Script.wp_transact LoginWorld.answer valid (identity_verified separates job valid) world
  rw [view]
  cases answered : ((handle services job.1).transact LoginWorld.answer db world).1 with
  | error e => exact valid
  | ok reply =>
    rw [answered] at ended
    exact (identity_promise separates job valid ended).2

/-- One request gets the same answer from both repositories. -/
theorem handle_agrees (separates : services.hasher.Separates passwords) (job : OwnIdentityJob passwords)
    (valid : db.Unambiguous services.hasher passwords)
    (holds : HoldsAccounts services.hasher passwords db s.identities) :
    ((handle services job.1).transact LoginWorld.answer db s.world).1 = (s.handle services job.1).1 ∧
      ((handle services job.1).transact LoginWorld.answer db s.world).2.2 = (s.handle services job.1).2.world ∧
      HoldsAccounts services.hasher passwords ((handle services job.1).transact LoginWorld.answer db s.world).2.1
        (s.handle services job.1).2.identities := by
  obtain ⟨job, known⟩ := job
  rw [Script.transact_eq]
  cases job with
  | register registration =>
    obtain ⟨r, db', identities', memory, sql, kept⟩ :=
      register_agrees s.world services.folding separates known holds
    simp only [handle, Script.runAlone_bind, sql, LoginState.handle, memory]
    cases r with
    | error refused => exact ⟨rfl, rfl, kept⟩
    | ok subject => exact ⟨rfl, rfl, kept⟩
  | login endpoint draws decodedAt request =>
    have agrees := login_agrees (services.at decodedAt) draws separates valid known holds endpoint
    simp only [handle, Script.runAlone_bind, LoginState.handle]
    rcases sql : (login (services.at decodedAt) draws request endpoint).runAlone LoginWorld.answer db s.world with
      ⟨r, db', world'⟩
    rw [sql] at agrees
    obtain ⟨answer, world, accounts, identities⟩ := agrees
    simp only at answer world accounts
    rw [← answer, ← world]
    cases r with
    | error refused => exact ⟨rfl, rfl, holds.congr rfl identities⟩
    | ok response => exact ⟨rfl, rfl, holds.congr accounts identities⟩

/-- Registrations and logins, one after the other, are answered alike by the table of identities and by the
repository of the process, whatever hashes the two hold: status, body, cookies and errors, and with them the budgets of
the rate limiter, the audit trail and the refresh sessions. -/
theorem identity_repositories_agree (separates : services.hasher.Separates passwords)
    (valid : db.Unambiguous services.hasher passwords)
    (holds : HoldsAccounts services.hasher passwords db s.identities) (jobs : List (OwnIdentityJob passwords)) :
    (sequential (fun (state : IdentityTable × LoginWorld) (job : OwnIdentityJob passwords) =>
        (handle services job.1).transact LoginWorld.answer state.1 state.2) (db, s.world) jobs).1 =
      (sequential (fun (s : LoginState) (job : OwnIdentityJob passwords) => s.handle services job.1) s jobs).1 ∧
    (sequential (fun (state : IdentityTable × LoginWorld) (job : OwnIdentityJob passwords) =>
        (handle services job.1).transact LoginWorld.answer state.1 state.2) (db, s.world) jobs).2.2 =
      (sequential (fun (s : LoginState) (job : OwnIdentityJob passwords) => s.handle services job.1) s jobs).2.world ∧
    HoldsAccounts services.hasher passwords
      (sequential (fun (state : IdentityTable × LoginWorld) (job : OwnIdentityJob passwords) =>
        (handle services job.1).transact LoginWorld.answer state.1 state.2) (db, s.world) jobs).2.1
      (sequential (fun (s : LoginState) (job : OwnIdentityJob passwords) => s.handle services job.1) s
        jobs).2.identities := by
  induction jobs generalizing db s with
  | nil => exact ⟨rfl, rfl, holds⟩
  | cons job rest ih =>
    obtain ⟨answer, world, kept⟩ := handle_agrees separates job valid holds
    have valid' := transact_unambiguous separates job valid s.world
    rcases sql : (handle services job.1).transact LoginWorld.answer db s.world with ⟨r, db', world'⟩
    rw [sql] at answer world kept valid'
    simp only at answer world kept valid'
    obtain ⟨answers, worlds, accounts⟩ := ih valid' kept
    simp only [sequential, sql]
    rw [world]
    exact ⟨by rw [answer, answers], worlds, accounts⟩

end

/-- The same identity in the process, with a hash of the new parameters. -/
def memberState : LoginState :=
  { emptyLogin with identities := ⟨Dict.empty.set memberRow.subject "$argon2id$correct horse battery",
      Dict.empty.set memberRow.subject 1⟩ }

theorem memberState_holds : HoldsAccounts namedHasher memberPasswords memberTable memberState.identities := by
  intro subject
  have renewed := opened_hash namedHasher_separates memberLogin_known (by decide) subject "" defaultTenantId
  unfold memoryAccounts accountsOf
  simp only [memberState, memberTable, Table.get?_put, Dict.get?_set]
  split
  next =>
    rw [Option.map_some, Option.map_some, Option.map_some, memberRow_opened]
    exact congrArg (fun opened => some (some (1 : UUID), opened)) renewed
  next => rfl

def strangerLogin : IdentityJob :=
  .login .createBrowserSession customerDraws newYear.1 { customerLogin with password := "wrong horse battery" }

theorem strangerLogin_known : strangerLogin.password ∈ memberPasswords := .inr rfl

theorem member_logins_agree :
    (sequential (fun (state : IdentityTable × LoginWorld) (job : OwnIdentityJob memberPasswords) =>
      (handle memberServices job.1).transact LoginWorld.answer state.1 state.2) (memberTable, memberState.world)
      [⟨memberLogin, memberLogin_known⟩, ⟨strangerLogin, strangerLogin_known⟩]).1 =
    [.ok (.loggedIn memberResponse), .error invalidCredentials] := by
  have separates : memberServices.hasher.Separates memberPasswords := namedHasher_separates
  have agree := identity_repositories_agree separates memberTable_unambiguous memberState_holds
    [⟨memberLogin, memberLogin_known⟩, ⟨strangerLogin, strangerLogin_known⟩]
  rw [agree.1]
  rfl

end DeliveryService
