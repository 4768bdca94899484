import DeliveryService.SqlRefreshSessions

namespace DeliveryService

open SqlAlchemyRefreshSessionRepository

/-- The refresh sessions in PostgreSQL and the latest reading of the clock. -/
structure TokenService where
  sessions : RefreshTable
  clock : Int

namespace AuthRequest

/-- The transaction that the request's handler runs in. -/
def body : AuthRequest → RefreshSql IssuedTokenPair
  | .token credentials familyId refreshJti issuedAt => issueTokenFor credentials familyId refreshJti issuedAt
  | .refresh claims refreshJti issuedAt now => rotateRefreshToken claims refreshJti issuedAt now

/-- The answer; an exception rolls the transaction back. -/
def answer (request : AuthRequest) (sessions : RefreshTable) : Except Error IssuedTokenPair :=
  (request.body.transact sessions).1

def after (request : AuthRequest) (sessions : RefreshTable) : RefreshTable :=
  (request.body.transact sessions).2

/-- The clock does not run backwards and a login draws a family id that is not in use. -/
def Admissible (s : TokenService) : AuthRequest → Prop
  | .token _ familyId _ issuedAt => s.clock ≤ issuedAt ∧
      ∀ jti session, s.sessions.get? jti = some session → session.familyId ≠ familyId
  | .refresh _ _ issuedAt now => s.clock ≤ issuedAt ∧ issuedAt ≤ now

def readClock : AuthRequest → Int
  | .token _ _ _ issuedAt => issuedAt
  | .refresh _ _ _ now => now

/-- The request is a refresh with a token of the family. -/
def Presents (familyId : UUID) : AuthRequest → Prop
  | .refresh (some claims) _ _ _ => claims.familyId = familyId
  | _ => False

/-- `rotate` answers the request's token of the family with `REUSED`. -/
def DetectsReuse (familyId : UUID) (sessions : RefreshTable) : AuthRequest → Prop
  | .refresh (some claims) refreshJti issuedAt now => claims.familyId = familyId ∧
      ((rotate claims.jti claims.familyId claims.subject
        (issueTokenPair claims.subject claims.familyId claims.tenantId refreshJti issuedAt).session now).runAlone
          sessions).1 = .ok .reused
  | _ => False

end AuthRequest

/-- One request after the other, each in its own transaction. -/
def AuthStep (s : TokenService) (request : AuthRequest) (s' : TokenService) : Prop :=
  request.Admissible s ∧ s' = ⟨request.after s.sessions, request.readClock⟩

/-- No session of the family could still be rotated at the given time. -/
def NoLiveSession (familyId : UUID) (now : Int) (sessions : RefreshTable) : Prop :=
  ∀ jti session, sessions.get? jti = some session → session.familyId = familyId → session.Live →
    session.expiresAt ≤ now

def HasSession (familyId : UUID) (sessions : RefreshTable) : Prop :=
  ∃ jti session, sessions.get? jti = some session ∧ session.familyId = familyId

section

variable {sessions : RefreshTable} {familyId refreshJti presentedJti : UUID} {subject : String}
  {replacement : RefreshSession} {issuedAt now : Int} {claims : RefreshClaims}

theorem runAlone_selectForUpdate (jti : UUID) (sessions : RefreshTable) :
    (Prog.perform (selectForUpdate jti)).runAlone sessions = (.ok (sessions.get? jti), sessions) := by
  rw [Prog.runAlone_perform]
  simp only [selectForUpdate]
  cases sessions.get? jti <;> rfl

theorem runAlone_rotate : (rotate presentedJti familyId subject replacement now).runAlone sessions =
    match sessions.get? presentedJti with
    | none => (.ok .invalid, sessions)
    | some current =>
      if current.familyId ≠ familyId ∨ current.subject ≠ subject then (.ok .invalid, sessions)
      else if current.usedAt ≠ none ∨ current.revokedAt ≠ none then
        (.ok .reused, ((Prog.perform (revokeFamily familyId now)).runAlone sessions).2)
      else if current.expiresAt ≤ now then (.ok .invalid, sessions.put { current with revokedAt := some now })
      else if replacement.familyId ≠ familyId ∨ replacement.subject ≠ subject then (.ok .invalid, sessions)
      else
        match (sessions.put { current with usedAt := some now, replacementJti := some replacement.jti }).get?
            replacement.jti with
        | some _ => (.error (.integrityError "refresh_session_pkey"),
            sessions.put { current with usedAt := some now, replacementJti := some replacement.jti })
        | none => (.ok .rotated,
            (sessions.put { current with usedAt := some now, replacementJti := some replacement.jti }).put
              { jti := replacement.jti, familyId := replacement.familyId, subject := replacement.subject
                expiresAt := replacement.expiresAt }) := by
  simp only [rotate, Prog.runAlone_bind, runAlone_selectForUpdate]
  cases sessions.get? presentedJti with
  | none => rfl
  | some current =>
    simp only
    split_ifs with mismatch dead late foreign
    · rfl
    · rfl
    · rfl
    · rfl
    · simp only [Prog.runAlone_bind, Prog.runAlone_perform, flushRow, insertRow]
      cases (sessions.put { current with usedAt := some now, replacementJti := some replacement.jti }).get?
        replacement.jti <;> rfl

/-- The session that a refresh with the claims would rotate. -/
def rotatable (sessions : RefreshTable) (claims : RefreshClaims) (now : Int) : Option RefreshSession :=
  (sessions.get? claims.jti).filter fun current => current.familyId = claims.familyId &&
    current.subject = claims.subject && current.usedAt = none && current.revokedAt = none &&
    now < current.expiresAt

theorem rotatable_eq_some {current : RefreshSession} : rotatable sessions claims now = some current ↔
    sessions.get? claims.jti = some current ∧ current.familyId = claims.familyId ∧
      current.subject = claims.subject ∧ current.Live ∧ now < current.expiresAt := by
  simp [rotatable, Option.filter_eq_some_iff, RefreshSession.Live, and_assoc]

theorem rotate_refused (replacement : RefreshSession) (h : rotatable sessions claims now = none) : ∃ result view,
    (rotate claims.jti claims.familyId claims.subject replacement now).runAlone sessions = (.ok result, view) ∧
      result ≠ .rotated := by
  rw [runAlone_rotate]
  cases found : sessions.get? claims.jti with
  | none => exact ⟨_, _, rfl, by decide⟩
  | some current =>
    simp only
    split_ifs with mismatch dead late
    · exact ⟨_, _, rfl, by decide⟩
    · exact ⟨_, _, rfl, by decide⟩
    · exact ⟨_, _, rfl, by decide⟩
    all_goals
      simp only [ne_eq, not_or, not_not, not_le] at mismatch dead late
      simp [rotatable_eq_some.mpr ⟨found, mismatch.1, mismatch.2, dead, late⟩] at h

theorem rotate_accepted {current : RefreshSession} (h : rotatable sessions claims now = some current)
    (family : replacement.familyId = claims.familyId) (named : replacement.subject = claims.subject) :
    (rotate claims.jti claims.familyId claims.subject replacement now).runAlone sessions =
      if (sessions.get? replacement.jti).isSome then (.error (.integrityError "refresh_session_pkey"),
        sessions.put { current with usedAt := some now, replacementJti := some replacement.jti })
      else (.ok .rotated,
        (sessions.put { current with usedAt := some now, replacementJti := some replacement.jti }).put
          { jti := replacement.jti, familyId := replacement.familyId, subject := replacement.subject
            expiresAt := replacement.expiresAt }) := by
  obtain ⟨found, own, mine, live, early⟩ := rotatable_eq_some.mp h
  have key := Table.key_of_get? found
  have taken : (sessions.put { current with usedAt := some now, replacementJti := some replacement.jti }).get?
      replacement.jti = none ↔ ¬ (sessions.get? replacement.jti).isSome := by
    rw [Table.get?_put]
    split
    next same => simp [show replacement.jti = claims.jti from same.trans key, found]
    next => simp
  rw [runAlone_rotate, found]
  simp only
  rw [if_neg (by simp [own, mine]), if_neg (by simp [live.1, live.2]), if_neg (not_le.mpr early),
    if_neg (by simp [family, named])]
  split
  next occupied =>
    rw [if_pos]
    by_contra free
    simp [taken.mpr free] at occupied
  next free => rw [if_neg (taken.mp free)]

/-- A refresh commits only if it rotates; whatever else it wrote is rolled back with its exception. -/
theorem transact_refresh (claims : RefreshClaims) (refreshJti : UUID) (issuedAt now : Int)
    (sessions : RefreshTable) :
    (rotateRefreshToken (some claims) refreshJti issuedAt now).transact sessions =
      match rotatable sessions claims now with
      | none => (.error invalidRefreshToken, sessions)
      | some current =>
        if (sessions.get? refreshJti).isSome then (.error (.integrityError "refresh_session_pkey"), sessions)
        else (.ok (issueTokenPair claims.subject claims.familyId claims.tenantId refreshJti issuedAt),
          (sessions.put { current with usedAt := some now, replacementJti := some refreshJti }).put
            (issueTokenPair claims.subject claims.familyId claims.tenantId refreshJti issuedAt).session) := by
  simp only [rotateRefreshToken, Prog.transact, Prog.runAlone_bind]
  cases live : rotatable sessions claims now with
  | none =>
    obtain ⟨result, view, ran, refused⟩ := rotate_refused (issueTokenPair claims.subject claims.familyId
      claims.tenantId refreshJti issuedAt).session live
    simp [ran, refused]
  | some current =>
    rw [rotate_accepted live rfl rfl]
    by_cases occupied : (sessions.get? refreshJti).isSome
    · simp [IssuedTokenPair.session, issueTokenPair, occupied]
    · simp [IssuedTokenPair.session, issueTokenPair, occupied]


theorem transact_token (credentials : Except Error (String × UUID)) (familyId refreshJti : UUID) (issuedAt : Int)
    (sessions : RefreshTable) : (issueTokenFor credentials familyId refreshJti issuedAt).transact sessions =
      match credentials with
      | .error e => (.error e, sessions)
      | .ok (subject, tenantId) =>
        if (sessions.get? refreshJti).isSome then (.error (.integrityError "refresh_session_pkey"), sessions)
        else (.ok (issueTokenPair subject familyId tenantId refreshJti issuedAt),
          sessions.put (issueTokenPair subject familyId tenantId refreshJti issuedAt).session) := by
  cases credentials with
  | error e => rfl
  | ok identity =>
    obtain ⟨subject, tenantId⟩ := identity
    simp only [issueTokenFor, MonadExcept.ofExcept, Prog.transact, Prog.runAlone_bind, Prog.runAlone_pure,
      SqlAlchemyRefreshSessionRepository.register, Prog.runAlone_perform, insertRow, IssuedTokenPair.session,
      issueTokenPair]
    cases sessions.get? refreshJti <;> rfl

/-- A detected reuse is answered with an error and leaves no trace in the database. -/
theorem detectsReuse_rolled_back {request : AuthRequest} (h : request.DetectsReuse familyId sessions) :
    request.answer sessions = .error invalidRefreshToken ∧ request.after sessions = sessions ∧
      HasSession familyId sessions := by
  cases request with
  | token => exact h.elim
  | refresh presented refreshJti issuedAt now =>
    cases presented with
    | none => exact h.elim
    | some claims =>
      obtain ⟨rfl, reused⟩ := h
      have refused : rotatable sessions claims now = none := by
        by_contra live
        obtain ⟨current, accepted⟩ := Option.ne_none_iff_exists'.mp live
        rw [rotate_accepted accepted rfl rfl] at reused
        split at reused <;> simp at reused
      have rolled := transact_refresh claims refreshJti issuedAt now sessions
      rw [refused] at rolled
      refine ⟨congrArg Prod.fst rolled, congrArg Prod.snd rolled, ?_⟩
      rw [runAlone_rotate] at reused
      cases found : sessions.get? claims.jti with
      | none => simp [found] at reused
      | some current =>
        refine ⟨claims.jti, current, found, ?_⟩
        by_contra other
        simp [found, if_pos (Or.inl other)] at reused

/-- From here on the family is dead: it has sessions and none of them can be rotated any more. -/
structure FamilyDead (familyId : UUID) (now : Int) (s : TokenService) : Prop where
  late : now ≤ s.clock
  has : HasSession familyId s.sessions
  none_live : NoLiveSession familyId now s.sessions

theorem noLiveSession_put {session : RefreshSession} (h : NoLiveSession familyId now sessions)
    (new : session.familyId = familyId → session.Live → session.expiresAt ≤ now) :
    NoLiveSession familyId now (sessions.put session) := by
  intro jti stored found
  rw [Table.get?_put] at found
  split at found
  next =>
    obtain rfl := Option.some.inj found
    exact new
  next => exact h jti stored found

theorem hasSession_put {session : RefreshSession} (h : HasSession familyId sessions)
    (kept : ∀ old, sessions.get? session.jti = some old → old.familyId = session.familyId) :
    HasSession familyId (sessions.put session) := by
  obtain ⟨jti, stored, found, family⟩ := h
  by_cases here : jti = session.jti
  · exact ⟨jti, session, by simp [here], (kept stored (here ▸ found)).symm.trans family⟩
  · exact ⟨jti, stored, by rw [Table.get?_put_of_ne _ _ here, found], family⟩

theorem refresh_ok {pair : IssuedTokenPair}
    (ok : (AuthRequest.refresh (some claims) refreshJti issuedAt now).answer sessions = .ok pair) :
    ∃ current, rotatable sessions claims now = some current ∧ sessions.get? refreshJti = none ∧
      (AuthRequest.refresh (some claims) refreshJti issuedAt now).after sessions =
        (sessions.put { current with usedAt := some now, replacementJti := some refreshJti }).put
          (issueTokenPair claims.subject claims.familyId claims.tenantId refreshJti issuedAt).session := by
  simp only [AuthRequest.answer, AuthRequest.after, AuthRequest.body, transact_refresh] at ok ⊢
  cases live : rotatable sessions claims now with
  | none => simp [live] at ok
  | some current =>
    simp only [live] at ok ⊢
    split_ifs at ok ⊢ with occupied
    exact ⟨current, rfl, by simpa using occupied, rfl⟩

theorem FamilyDead.step {s s' : TokenService} {request : AuthRequest} (dead : FamilyDead familyId now s)
    (step : AuthStep s request s') : FamilyDead familyId now s' ∧
      (request.Presents familyId → ∀ pair, request.answer s.sessions ≠ .ok pair) := by
  obtain ⟨admissible, rfl⟩ := step
  obtain ⟨late, has, none_live⟩ := dead
  have unchanged : ∀ {e}, request.answer s.sessions = .error e → request.after s.sessions = s.sessions :=
    fun refused => Prog.transact_error refused
  cases request with
  | token credentials family refreshJti issuedAt =>
    refine ⟨?_, fun h => h.elim⟩
    have later : now ≤ issuedAt := late.trans admissible.1
    simp only [AuthRequest.after, AuthRequest.body, transact_token]
    cases credentials with
    | error e => exact ⟨later, has, none_live⟩
    | ok identity =>
      simp only
      split_ifs with occupied
      · exact ⟨later, has, none_live⟩
      · obtain ⟨jti, session, found, own⟩ := id has
        have other : family ≠ familyId := fun same => admissible.2 jti session found (own.trans same.symm)
        refine ⟨later, hasSession_put has fun old was => ?_, noLiveSession_put none_live fun same => ?_⟩
        · change s.sessions.get? refreshJti = some old at was
          simp [was] at occupied
        · exact absurd same other
  | refresh presented refreshJti issuedAt now' =>
    have later : now ≤ now' := late.trans (admissible.1.trans admissible.2)
    cases presented with
    | none => exact ⟨⟨later, has, none_live⟩, fun h => h.elim⟩
    | some claims =>
      cases answered : (AuthRequest.refresh (some claims) refreshJti issuedAt now').answer s.sessions with
      | error e =>
        rw [unchanged answered]
        exact ⟨⟨later, has, none_live⟩, fun _ _ => by simp⟩
      | ok pair =>
        obtain ⟨current, live, free, written⟩ := refresh_ok answered
        obtain ⟨found, own, _, alive, early⟩ := rotatable_eq_some.mp live
        have key := Table.key_of_get? found
        have other : claims.familyId ≠ familyId := fun same => by
          have := none_live claims.jti current found (own.trans same) alive
          omega
        rw [written]
        refine ⟨⟨later, hasSession_put (hasSession_put has fun old was => ?_) fun old was => ?_,
          noLiveSession_put (noLiveSession_put none_live fun same => absurd (own.symm.trans same) other)
            fun same => absurd same other⟩, fun same => absurd same other⟩
        · obtain rfl := Option.some.inj (found.symm.trans (key ▸ was))
          rfl
        · rw [Table.get?_put] at was
          split at was
          next =>
            rw [← Option.some.inj was]
            exact own
          next =>
            change s.sessions.get? refreshJti = some old at was
            simp [free] at was

theorem familyDead_of_reuse {s s' : TokenService} {request : AuthRequest} (step : AuthStep s request s')
    (reuse : request.DetectsReuse familyId s.sessions)
    (none_live : NoLiveSession familyId request.readClock s.sessions) :
    FamilyDead familyId request.readClock s' := by
  obtain ⟨_, rfl⟩ := step
  obtain ⟨_, kept, has⟩ := detectsReuse_rolled_back reuse
  refine ⟨le_refl _, ?_, ?_⟩
  · rw [kept]
    exact has
  · rw [kept]
    exact none_live

theorem FamilyDead.run {s s' : TokenService} {trace : List (Transition TokenService AuthRequest)}
    (dead : FamilyDead familyId now s) (run : Exec AuthStep s trace s') {t : Transition TokenService AuthRequest}
    (ht : t ∈ trace) : t.label.Presents familyId → ∀ pair, t.label.answer t.pre.sessions ≠ .ok pair := by
  obtain ⟨before, step, _⟩ := run.invariant_transition (I := FamilyDead familyId now) dead
    (fun _ _ _ dead step => (dead.step step).1) ht
  exact (before.step step).2

/-- While a session of the family is live, its token can still be exchanged after the reuse. -/
theorem live_session_rotates {s : TokenService} {jti free : UUID} {session : RefreshSession} (clock : Int)
    (found : s.sessions.get? jti = some session) (live : session.Live) (early : clock < session.expiresAt)
    (unused : s.sessions.get? free = none) : ∃ pair, (AuthRequest.refresh
      (some ⟨session.subject, session.familyId, jti, defaultTenantId⟩) free clock clock).answer s.sessions =
        .ok pair := by
  have accepted : rotatable s.sessions ⟨session.subject, session.familyId, jti, defaultTenantId⟩ clock =
      some session := rotatable_eq_some.mpr ⟨found, rfl, rfl, live, early⟩
  refine ⟨issueTokenPair session.subject session.familyId defaultTenantId free clock, ?_⟩
  simp only [AuthRequest.answer, AuthRequest.body, transact_refresh, accepted, unused]
  rfl

/-- A detected reuse is final as long as it finds no session of the family that could still be
rotated, and (while a new jti can be drawn at all) only then. -/
theorem reuse_final_iff_no_live_session {clock : Int} {s : TokenService}
    {trace : List (Transition TokenService AuthRequest)} (run : Exec AuthStep ⟨.empty, clock⟩ trace s) :
    ((∀ t ∈ trace, ∀ familyId, t.label.DetectsReuse familyId t.pre.sessions →
        NoLiveSession familyId t.label.readClock t.pre.sessions) →
      ∀ earlier later t familyId, trace = earlier ++ t :: later →
        t.label.DetectsReuse familyId t.pre.sessions →
        ∀ t' ∈ later, t'.label.Presents familyId → ∀ pair, t'.label.answer t'.pre.sessions ≠ .ok pair) ∧
    ∀ (request : AuthRequest) familyId, request.Admissible s → request.DetectsReuse familyId s.sessions →
      (∃ jti, s.sessions.get? jti = none) →
      ((∀ later s', Exec AuthStep ⟨request.after s.sessions, request.readClock⟩ later s' → ∀ t ∈ later,
          t.label.Presents familyId → ∀ pair, t.label.answer t.pre.sessions ≠ .ok pair) ↔
        NoLiveSession familyId request.readClock s.sessions) := by
  constructor
  · rintro safe earlier later t familyId rfl reuse t' ht'
    obtain ⟨_, step, rest⟩ := run.split
    exact (familyDead_of_reuse step reuse (safe t (by simp) familyId reuse)).run rest ht'
  · rintro request familyId admissible reuse ⟨free, unused⟩
    have kept := (detectsReuse_rolled_back reuse).2.1
    constructor
    · intro final jti session found family live
      by_contra early
      obtain ⟨pair, ok⟩ := live_session_rotates request.readClock found live (not_le.mp early) unused
      rw [kept] at final
      have step : AuthStep ⟨s.sessions, request.readClock⟩ (.refresh
          (some ⟨session.subject, session.familyId, jti, defaultTenantId⟩) free request.readClock
          request.readClock) _ := ⟨⟨le_refl _, le_refl _⟩, rfl⟩
      exact final _ _ (Exec.start.next step) _ (List.mem_singleton.mpr rfl) family pair ok
    · intro none_live later s' rest t ht
      exact (familyDead_of_reuse ⟨admissible, rfl⟩ reuse none_live).run rest ht

end

def subjectSeven : String := "customer:00000000-0000-0000-0000-000000000007"

def loginSeven : AuthRequest := .token (.ok (subjectSeven, defaultTenantId)) 10 1 100

/-- A refresh of the first family with the token of the given session. -/
def refreshSeven (jti refreshJti : UUID) (clock : Int) : AuthRequest :=
  .refresh (some ⟨subjectSeven, 10, jti, defaultTenantId⟩) refreshJti clock clock

/-- The states while a login, a refresh, a second use of the spent token and a refresh with the live
one are served. -/
def sessionsAfter (requests : List AuthRequest) : RefreshTable :=
  requests.foldl (fun sessions request => request.after sessions) .empty

theorem loginSeven_step : AuthStep ⟨.empty, 0⟩ loginSeven ⟨sessionsAfter [loginSeven], 100⟩ :=
  ⟨⟨by decide, fun _ _ found => by simp at found⟩, rfl⟩

theorem refreshSeven_step {sessions : RefreshTable} {clock : Int} {jti refreshJti : UUID} {now : Int}
    (h : clock ≤ now) : AuthStep ⟨sessions, clock⟩ (refreshSeven jti refreshJti now)
      ⟨(refreshSeven jti refreshJti now).after sessions, now⟩ :=
  ⟨⟨h, le_refl _⟩, rfl⟩

theorem reuse_final_after_expiry :
    (refreshSeven 1 3 604810000000).DetectsReuse 10 (sessionsAfter [loginSeven, refreshSeven 1 2 200]) ∧
    ∀ later s', Exec AuthStep ⟨(refreshSeven 1 3 604810000000).after
        (sessionsAfter [loginSeven, refreshSeven 1 2 200]), 604810000000⟩ later s' →
      ∀ t ∈ later, t.label.Presents 10 → ∀ pair, t.label.answer t.pre.sessions ≠ .ok pair := by
  have reuse : (refreshSeven 1 3 604810000000).DetectsReuse 10
      (sessionsAfter [loginSeven, refreshSeven 1 2 200]) := ⟨rfl, by decide +kernel⟩
  have run : Exec AuthStep ⟨.empty, 0⟩ _ ⟨sessionsAfter [loginSeven, refreshSeven 1 2 200], 200⟩ :=
    (Exec.start.next loginSeven_step).next (refreshSeven_step (by decide))
  have all_dead : ∀ session ∈ (sessionsAfter [loginSeven, refreshSeven 1 2 200]).toList, session.Live →
      session.expiresAt ≤ 604810000000 := by decide +kernel
  refine ⟨reuse, ((reuse_final_iff_no_live_session run).2 (refreshSeven 1 3 604810000000) 10
    ⟨by decide, le_refl _⟩ reuse ⟨5, by decide +kernel⟩).mpr ?_⟩
  intro jti session found _ live
  exact all_dead session (Table.mem_toList.mpr (Table.key_of_get? found ▸ found)) live

theorem live_token_survives_reuse :
    ¬ ∀ clock (trace : List (Transition TokenService AuthRequest)) s, Exec AuthStep ⟨.empty, clock⟩ trace s →
      ∀ earlier later t familyId, trace = earlier ++ t :: later → t.label.DetectsReuse familyId t.pre.sessions →
        ∀ t' ∈ later, t'.label.Presents familyId → ∀ pair, t'.label.answer t'.pre.sessions ≠ .ok pair := by
  intro all
  have second : AuthStep ⟨sessionsAfter [loginSeven], 100⟩ (refreshSeven 1 2 200)
      ⟨sessionsAfter [loginSeven, refreshSeven 1 2 200], 200⟩ := refreshSeven_step (by decide)
  have third : AuthStep ⟨_, 200⟩ (refreshSeven 1 3 300)
      ⟨sessionsAfter [loginSeven, refreshSeven 1 2 200, refreshSeven 1 3 300], 300⟩ :=
    refreshSeven_step (by decide)
  have fourth : AuthStep ⟨sessionsAfter [loginSeven, refreshSeven 1 2 200, refreshSeven 1 3 300], 300⟩
      (refreshSeven 2 4 400) _ := refreshSeven_step (by decide)
  refine all 0 _ _ ((((Exec.start.next loginSeven_step).next second).next third).next fourth) [_, _] [_] _ 10 rfl
    ⟨rfl, ?_⟩ _ (List.mem_singleton.mpr rfl) rfl
    (issueTokenPair subjectSeven 10 defaultTenantId 4 400) ?_
  · decide +kernel
  · decide +kernel

end DeliveryService
