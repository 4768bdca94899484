import DeliveryService.RefreshSessions
import DeliveryService.Table
import DeliveryService.Transaction

namespace DeliveryService

/-- The table `refresh_session`. -/
abbrev RefreshTable := Table RefreshSession.jti

inductive RefreshLock
  | session (jti : UUID)
deriving DecidableEq

abbrev RefreshSql := Prog RefreshTable RefreshLock Error

namespace SqlAlchemyRefreshSessionRepository

/-- `SELECT ... WHERE jti = :jti FOR UPDATE` -/
def selectForUpdate (jti : UUID) : Statement RefreshTable RefreshLock Error (Option RefreshSession) :=
  fun _ snapshot current => match snapshot.get? jti with
    | none => .ok { value := none }
    | some _ => .ok { value := current.get? jti, locks := [.session jti] }

/-- `UPDATE ... SET revoked_at = :now WHERE family_id = :family AND revoked_at IS NULL`: the rows that
the snapshot selects and that still qualify once they are locked. -/
def revokeFamily (familyId : UUID) (now : Int) : Statement RefreshTable RefreshLock Error Unit :=
  fun _ snapshot current =>
    let qualifies (row : RefreshSession) : Bool := row.familyId = familyId && row.revokedAt = none
    let selected := (snapshot.toList.filter qualifies).map RefreshSession.jti
    let updated := selected.filter fun jti => (current.get? jti).any qualifies
    .ok {
      value := ()
      locks := selected.map .session
      write := fun table => table.map (fun row => if row.jti ∈ updated then { row with revokedAt := some now } else row)
        (by intro row; split <;> rfl) }

/-- The flush of a changed row. -/
def flushRow (row : RefreshSession) : Statement RefreshTable RefreshLock Error Unit :=
  fun _ _ _ => .ok { value := (), locks := [.session row.jti], write := fun table => table.put row }

def insertRow (row : RefreshSession) : Statement RefreshTable RefreshLock Error Unit :=
  fun _ _ current => match current.get? row.jti with
    | some _ => .error (.integrityError "refresh_session_pkey")
    | none => .ok { value := (), locks := [.session row.jti], write := fun table => table.put row }

def register (session : RefreshSession) : RefreshSql Unit :=
  .perform (insertRow { jti := session.jti, familyId := session.familyId, subject := session.subject
                        expiresAt := session.expiresAt })

def rotate (presentedJti familyId : UUID) (subject : String) (replacement : RefreshSession) (now : Int) :
    RefreshSql RotationResult := do
  match ← Prog.perform (selectForUpdate presentedJti) with
  | none => pure .invalid
  | some current =>
    if current.familyId ≠ familyId ∨ current.subject ≠ subject then pure .invalid
    else if current.usedAt ≠ none ∨ current.revokedAt ≠ none then do
      Prog.perform (revokeFamily familyId now)
      pure .reused
    else if current.expiresAt ≤ now then do
      Prog.perform (flushRow { current with revokedAt := some now })
      pure .invalid
    else if replacement.familyId ≠ familyId ∨ replacement.subject ≠ subject then pure .invalid
    else do
      Prog.perform (flushRow { current with usedAt := some now, replacementJti := some replacement.jti })
      Prog.perform (insertRow { jti := replacement.jti, familyId := replacement.familyId
                                subject := replacement.subject, expiresAt := replacement.expiresAt })
      pure .rotated

end SqlAlchemyRefreshSessionRepository

structure IssuedTokenPair where
  subject : String
  tenantId : UUID
  familyId : UUID
  refreshJti : UUID
  issuedAt : Int
  refreshExpiresAt : Int
deriving DecidableEq

/-- Seven days in microseconds. -/
def refreshLifetime : Int := 7 * microsecondsPerDay

def issueTokenPair (subject : String) (familyId tenantId refreshJti : UUID) (issuedAt : Int) : IssuedTokenPair :=
  { subject, tenantId, familyId, refreshJti, issuedAt, refreshExpiresAt := issuedAt + refreshLifetime }

/-- The session that is stored for the refresh token of a pair. -/
def IssuedTokenPair.session (pair : IssuedTokenPair) : RefreshSession :=
  { jti := pair.refreshJti, familyId := pair.familyId, subject := pair.subject, expiresAt := pair.refreshExpiresAt }

/-- The claims of a refresh token that `decode_token` accepted. -/
structure RefreshClaims where
  subject : String
  familyId : UUID
  jti : UUID
  tenantId : UUID
deriving DecidableEq

/-- A request to the token endpoints: a login with the outcome of its credential checks, or a refresh
with the outcome of `decode_token`; with the ids and the clock readings its handler draws. -/
inductive AuthRequest
  | token (credentials : Except Error (String × UUID)) (familyId refreshJti : UUID) (issuedAt : Int)
  | refresh (claims : Option RefreshClaims) (refreshJti : UUID) (issuedAt now : Int)

def invalidRefreshToken : Error := .http ⟨401, "invalid refresh token", bearerChallenge⟩

def issueTokenFor (credentials : Except Error (String × UUID)) (familyId refreshJti : UUID) (issuedAt : Int) :
    RefreshSql IssuedTokenPair := do
  let (subject, tenantId) ← MonadExcept.ofExcept credentials
  let pair := issueTokenPair subject familyId tenantId refreshJti issuedAt
  SqlAlchemyRefreshSessionRepository.register pair.session
  pure pair

def rotateRefreshToken (claims : Option RefreshClaims) (refreshJti : UUID) (issuedAt now : Int) :
    RefreshSql IssuedTokenPair :=
  match claims with
  | none => throw (.http ⟨401, "invalid token", bearerChallenge⟩)
  | some claims => do
    let pair := issueTokenPair claims.subject claims.familyId claims.tenantId refreshJti issuedAt
    let result ← SqlAlchemyRefreshSessionRepository.rotate claims.jti claims.familyId claims.subject
      pair.session now
    if result ≠ .rotated then throw invalidRefreshToken else pure pair

end DeliveryService
