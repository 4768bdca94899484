import DeliveryService.Dict
import DeliveryService.Domain
import DeliveryService.Exec
import DeliveryService.SuccessorPath

namespace DeliveryService

inductive RotationResult
  | rotated
  | reused
  | invalid
deriving DecidableEq, Repr

/-- A refresh session; its times enter only by their instant, in microseconds. -/
structure RefreshSession where
  jti : UUID
  familyId : UUID
  subject : String
  expiresAt : Int
  usedAt : Option Int := none
  revokedAt : Option Int := none
  replacementJti : Option UUID := none
deriving DecidableEq

namespace RefreshSession

/-- A session as it is handed to a repository: never used, revoked or replaced. -/
def Unused (session : RefreshSession) : Prop :=
  session.usedAt = none ∧ session.revokedAt = none ∧ session.replacementJti = none

instance (session : RefreshSession) : Decidable session.Unused := by
  unfold Unused
  infer_instance

def Live (session : RefreshSession) : Prop := session.usedAt = none ∧ session.revokedAt = none

instance (session : RefreshSession) : Decidable session.Live := by
  unfold Live
  infer_instance

/-- Revoke a session of the family unless it is revoked already. -/
def revokeIn (familyId : UUID) (now : Int) (session : RefreshSession) : RefreshSession :=
  if session.familyId = familyId ∧ session.revokedAt = none then { session with revokedAt := some now }
  else session

end RefreshSession

/-- The in-memory store; every session is stored under its own jti. -/
structure InMemoryRefreshSessionRepository where
  sessions : Dict UUID RefreshSession
  keyed : ∀ jti session, sessions.get? jti = some session → session.jti = jti

namespace InMemoryRefreshSessionRepository

def empty : InMemoryRefreshSessionRepository := ⟨.empty, by simp⟩

/-- `self._sessions[session.jti] = session` -/
def put (s : InMemoryRefreshSessionRepository) (session : RefreshSession) : InMemoryRefreshSessionRepository where
  sessions := s.sessions.set session.jti session
  keyed := by
    intro jti stored h
    rw [Dict.get?_set] at h
    split at h
    next same => rw [← Option.some.inj h, same]
    next => exact s.keyed jti stored h

/-- Revoke every session of the family that is not revoked yet. -/
def revokeFamily (s : InMemoryRefreshSessionRepository) (familyId : UUID) (now : Int) :
    InMemoryRefreshSessionRepository where
  sessions := s.sessions.mapValues (RefreshSession.revokeIn familyId now)
  keyed := by
    intro jti stored h
    rw [Dict.get?_mapValues, Option.map_eq_some_iff] at h
    obtain ⟨session, found, rfl⟩ := h
    rw [← s.keyed jti session found]
    unfold RefreshSession.revokeIn
    split <;> rfl

def register (s : InMemoryRefreshSessionRepository) (session : RefreshSession) :
    Except Error Unit × InMemoryRefreshSessionRepository :=
  if s.sessions.contains session.jti then (.error (.valueError "refresh jti already exists"), s)
  else (.ok (), s.put session)

def rotate (s : InMemoryRefreshSessionRepository) (presentedJti familyId : UUID) (subject : String)
    (replacement : RefreshSession) (now : Int) : RotationResult × InMemoryRefreshSessionRepository :=
  match s.sessions.get? presentedJti with
  | none => (.invalid, s)
  | some current =>
    if current.familyId ≠ familyId ∨ current.subject ≠ subject then (.invalid, s)
    else if current.usedAt ≠ none ∨ current.revokedAt ≠ none then (.reused, s.revokeFamily familyId now)
    else if current.expiresAt ≤ now then (.invalid, s.put { current with revokedAt := some now })
    else if replacement.familyId ≠ familyId ∨ replacement.subject ≠ subject ∨
        s.sessions.contains replacement.jti then (.invalid, s)
    else (.rotated, (s.put { current with usedAt := some now, replacementJti := some replacement.jti }).put
      replacement)

/-- Some stored session belongs to the family. -/
def HasFamily (s : InMemoryRefreshSessionRepository) (familyId : UUID) : Prop :=
  ∃ jti session, s.sessions.get? jti = some session ∧ session.familyId = familyId

/-- The session that a session was rotated into. -/
def successor (s : InMemoryRefreshSessionRepository) (jti : UUID) : Option UUID :=
  (s.sessions.get? jti).bind RefreshSession.replacementJti

end InMemoryRefreshSessionRepository

open InMemoryRefreshSessionRepository

inductive RefreshCall
  | register (session : RefreshSession)
  | rotate (presentedJti familyId : UUID) (subject : String) (replacement : RefreshSession) (now : Int)
deriving DecidableEq

/-- Calls run under the store's lock; a registered session opens a new family under a new jti and
every session handed in is unused. -/
inductive RefreshStep : InMemoryRefreshSessionRepository → RefreshCall → InMemoryRefreshSessionRepository → Prop
  | register {s session} : s.sessions.get? session.jti = none → ¬ s.HasFamily session.familyId →
      session.Unused → RefreshStep s (.register session) (s.register session).2
  | rotate {s presentedJti familyId subject replacement now} : replacement.Unused →
      RefreshStep s (.rotate presentedJti familyId subject replacement now)
        (s.rotate presentedJti familyId subject replacement now).2

/-- Everything one rotation can do. -/
inductive RotateEffect (s : InMemoryRefreshSessionRepository) (presentedJti familyId : UUID)
    (replacement : RefreshSession) (now : Int) : RotationResult → InMemoryRefreshSessionRepository → Prop
  | refused : RotateEffect s presentedJti familyId replacement now .invalid s
  | reused {current} : s.sessions.get? presentedJti = some current → current.familyId = familyId →
      RotateEffect s presentedJti familyId replacement now .reused (s.revokeFamily familyId now)
  | expired {current} : s.sessions.get? presentedJti = some current → current.Live →
      RotateEffect s presentedJti familyId replacement now .invalid (s.put { current with revokedAt := some now })
  | rotated {current} : s.sessions.get? presentedJti = some current → current.familyId = familyId →
      current.Live → now < current.expiresAt → replacement.familyId = familyId →
      s.sessions.get? replacement.jti = none →
      RotateEffect s presentedJti familyId replacement now .rotated
        ((s.put { current with usedAt := some now, replacementJti := some replacement.jti }).put replacement)

section

variable {s s' : InMemoryRefreshSessionRepository}

theorem rotate_effect (s : InMemoryRefreshSessionRepository) (presentedJti familyId : UUID) (subject : String)
    (replacement : RefreshSession) (now : Int) : RotateEffect s presentedJti familyId replacement now
      (s.rotate presentedJti familyId subject replacement now).1
      (s.rotate presentedJti familyId subject replacement now).2 := by
  unfold InMemoryRefreshSessionRepository.rotate
  split
  next => exact .refused
  next current stored =>
    split_ifs with mismatch dead late foreign
    · exact .refused
    · exact .reused stored (not_not.mp fun h => mismatch (.inl h))
    · exact .expired stored (by simpa [RefreshSession.Live] using dead)
    · exact .refused
    · simp only [ne_eq, not_or, not_not, Dict.contains, Bool.not_eq_true, Option.isSome_eq_false_iff,
        Option.isNone_iff_eq_none] at mismatch dead foreign
      exact .rotated stored mismatch.1 dead (not_le.mp late) foreign.1 foreign.2.2

theorem get?_putSession (s : InMemoryRefreshSessionRepository) (session : RefreshSession) (jti : UUID) :
    (s.put session).sessions.get? jti = if jti = session.jti then some session else s.sessions.get? jti :=
  Dict.get?_set _ _ _ _

theorem get?_revokeFamily (s : InMemoryRefreshSessionRepository) (familyId : UUID) (now : Int) (jti : UUID) :
    (s.revokeFamily familyId now).sessions.get? jti =
      (s.sessions.get? jti).map (RefreshSession.revokeIn familyId now) :=
  Dict.get?_mapValues _ _ _

theorem revokeIn_familyId (familyId : UUID) (now : Int) (session : RefreshSession) :
    (session.revokeIn familyId now).familyId = session.familyId := by
  unfold RefreshSession.revokeIn
  split <;> rfl

theorem revokeIn_replacementJti (familyId : UUID) (now : Int) (session : RefreshSession) :
    (session.revokeIn familyId now).replacementJti = session.replacementJti := by
  unfold RefreshSession.revokeIn
  split <;> rfl

theorem live_of_revokeIn {familyId : UUID} {now : Int} {session : RefreshSession}
    (h : (session.revokeIn familyId now).Live) : session.Live := by
  unfold RefreshSession.revokeIn at h
  split at h
  next => simp [RefreshSession.Live] at h
  next => exact h

theorem revokeIn_revoked {familyId : UUID} {now : Int} {session : RefreshSession}
    (h : session.familyId = familyId) : (session.revokeIn familyId now).revokedAt ≠ none := by
  unfold RefreshSession.revokeIn
  split
  next => simp
  next kept =>
    intro unrevoked
    exact kept ⟨h, unrevoked⟩

end

end DeliveryService
