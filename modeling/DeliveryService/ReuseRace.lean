import DeliveryService.SqlRefreshSessions
import DeliveryService.Stages

namespace DeliveryService

open SqlAlchemyRefreshSessionRepository

/-- The arguments of a call of `rotate`. -/
structure Rotation where
  presentedJti : UUID
  familyId : UUID
  subject : String
  replacement : RefreshSession
  now : Int
deriving DecidableEq

abbrev RotationCluster (κ : Type) := Cluster RefreshTable RefreshLock Error RotationResult Rotation κ

abbrev RotationEvent (κ : Type) := Event Error RotationResult Rotation κ

abbrev ActiveRotation := Active RefreshTable RefreshLock Error RotationResult Rotation

namespace Rotation

def program (job : Rotation) : RefreshSql RotationResult :=
  rotate job.presentedJti job.familyId job.subject job.replacement job.now

/-- The rest of `rotate` after a session that was used or revoked has been locked. -/
def revoking (job : Rotation) : RefreshSql RotationResult := do
  Prog.perform (revokeFamily job.familyId job.now)
  pure .reused

def usedSession (job : Rotation) (current : RefreshSession) : RefreshSession :=
  { current with usedAt := some job.now, replacementJti := some job.replacement.jti }

def newSession (job : Rotation) : RefreshSession :=
  { jti := job.replacement.jti, familyId := job.replacement.familyId, subject := job.replacement.subject
    expiresAt := job.replacement.expiresAt }

def expiredSession (job : Rotation) (current : RefreshSession) : RefreshSession :=
  { current with revokedAt := some job.now }

/-- The rest of `rotate` after an expired session has been locked. -/
def expiring (job : Rotation) (current : RefreshSession) : RefreshSql RotationResult := do
  Prog.perform (flushRow (job.expiredSession current))
  pure .invalid

def inserting (job : Rotation) : RefreshSql RotationResult := do
  Prog.perform (insertRow job.newSession)
  pure .rotated

/-- The rest of `rotate` after a live session has been locked. -/
def marking (job : Rotation) (current : RefreshSession) : RefreshSql RotationResult := do
  Prog.perform (flushRow (job.usedSession current))
  job.inserting

/-- What follows the lock of the presented session. -/
def locked (job : Rotation) : Option RefreshSession → RefreshSql RotationResult
  | none => pure .invalid
  | some current =>
    if current.familyId ≠ job.familyId ∨ current.subject ≠ job.subject then pure .invalid
    else if current.usedAt ≠ none ∨ current.revokedAt ≠ none then job.revoking
    else if current.expiresAt ≤ job.now then job.expiring current
    else if job.replacement.familyId ≠ job.familyId ∨ job.replacement.subject ≠ job.subject then pure .invalid
    else job.marking current

theorem program_eq (job : Rotation) :
    job.program = Prog.perform (selectForUpdate job.presentedJti) >>= job.locked := rfl

end Rotation

/-- Calls of `rotate` in transactions that run concurrently. -/
def RotationStep {κ : Type} [DecidableEq κ] (σ : RotationCluster κ) (event : RotationEvent κ)
    (σ' : RotationCluster κ) : Prop :=
  Cluster.Step Rotation.program σ event σ'

/-- The family-wide `UPDATE` of a reuse is running. -/
def Revoking (t : ActiveRotation) : Prop := t.program = t.job.revoking ∧ t.snapshot ≠ none

/-- The transaction is about to commit a new session of the family. -/
def Inserts (familyId : UUID) (db : RefreshTable) (t : ActiveRotation) : Prop :=
  ∃ session : RefreshSession, db.get? session.jti = none ∧ (t.write db).get? session.jti = some session ∧
    session.familyId = familyId

/-- No new session of a family is committed while the family-wide `UPDATE` of another transaction runs. -/
def Undisturbed {κ : Type} (σ : RotationCluster κ) (event : RotationEvent κ) : Prop :=
  ∀ k job answer, event = .commit k job answer → ∀ k' t t', k' ≠ k → σ.active k = some t →
    σ.active k' = some t' → Revoking t' → ¬ Inserts t'.job.familyId σ.db t

/-- A session of the family that is not revoked. -/
def RefreshSession.Open (session : RefreshSession) (familyId : UUID) : Prop :=
  session.familyId = familyId ∧ session.revokedAt = none

/-- The sessions that a family-wide `UPDATE` has selected and locked. -/
def revokeAll (updated : List UUID) (now : Int) (table : RefreshTable) : RefreshTable :=
  table.map (fun row => if row.jti ∈ updated then { row with revokedAt := some now } else row)
    (by intro row; split <;> rfl)

/-- The presented session is locked and was not revoked when it was read. -/
structure Holds (db : RefreshTable) (job : Rotation) (current : RefreshSession) (held : List RefreshLock) : Prop where
  found : db.get? job.presentedJti = some current
  isOpen : current.Open job.familyId
  locked : .session job.presentedJti ∈ held

/-- How far a rotation has come, and what it relies on in the committed table. -/
inductive RotationStage (db : RefreshTable) : ActiveRotation → Prop
  | select {job snapshot} : RotationStage db ⟨job, job.program, [], id, snapshot⟩
  | refused {job held} : RotationStage db ⟨job, .ret .invalid, held, id, none⟩
  | revoking {job held snapshot} :
      (∀ view, snapshot = some view → ∀ jti session, db.get? jti = some session → session.Open job.familyId →
        ∃ seen, view.get? jti = some seen ∧ seen.Open job.familyId) →
      RotationStage db ⟨job, job.revoking, held, id, snapshot⟩
  | revoked {job held} (updated : List UUID) : (∀ jti ∈ updated, .session jti ∈ held) →
      (∀ jti session, db.get? jti = some session → session.Open job.familyId → jti ∈ updated) →
      RotationStage db ⟨job, .ret .reused, held, revokeAll updated job.now, none⟩
  | expiring {job held snapshot} (current : RefreshSession) : Holds db job current held →
      RotationStage db ⟨job, job.expiring current, held, id, snapshot⟩
  | expired {job held} (current : RefreshSession) : Holds db job current held →
      RotationStage db ⟨job, .ret .invalid, held, fun table => table.put (job.expiredSession current), none⟩
  | marking {job held snapshot} (current : RefreshSession) : Holds db job current held →
      job.replacement.familyId = job.familyId → RotationStage db ⟨job, job.marking current, held, id, snapshot⟩
  | inserting {job held snapshot} (current : RefreshSession) : Holds db job current held →
      job.replacement.familyId = job.familyId →
      RotationStage db ⟨job, job.inserting, held, fun table => table.put (job.usedSession current), snapshot⟩
  | rotated {job held} (current : RefreshSession) : Holds db job current held →
      job.replacement.familyId = job.familyId → db.get? job.newSession.jti = none →
      .session job.newSession.jti ∈ held → job.newSession.jti ≠ job.presentedJti →
      RotationStage db ⟨job, .ret .rotated, held,
        fun table => (table.put (job.usedSession current)).put job.newSession, none⟩
  | failed {job held write} (e : Error) : RotationStage db ⟨job, .raise e, held, write, none⟩

section

variable {db : RefreshTable} {t : ActiveRotation}

theorem rotationStage_start {β : Type} {s : Statement RefreshTable RefreshLock Error β}
    {next : Except Error β → RefreshSql RotationResult} (stage : RotationStage db t)
    (shape : t.program = .stmt β s next) : RotationStage db { t with snapshot := some (t.write db) } := by
  cases stage with
  | select => exact .select
  | revoking =>
    refine .revoking fun view same jti session found isOpen => ⟨session, ?_, isOpen⟩
    exact Option.some.inj same ▸ found
  | expiring current holds => exact .expiring current holds
  | marking current holds family => exact .marking current holds family
  | inserting current holds family => exact .inserting current holds family
  | refused | revoked | expired | rotated | failed => cases shape

theorem rotationStage_locked {job : Rotation} {held : List RefreshLock} (answer : Option RefreshSession)
    (read : ∀ current, answer = some current → db.get? job.presentedJti = some current)
    (granted : answer ≠ none → .session job.presentedJti ∈ held) :
    RotationStage db ⟨job, job.locked answer, held, id, none⟩ := by
  cases answer with
  | none => exact .refused
  | some current =>
    simp only [Rotation.locked]
    split_ifs with foreign spent expired other
    · exact .refused
    · exact .revoking (by simp)
    all_goals
      rw [not_or, not_not, not_not] at foreign spent
      have holds : Holds db job current held := ⟨read current rfl, ⟨foreign.1, spent.2⟩, granted (by simp)⟩
    · exact .expiring current holds
    · exact .refused
    · rw [not_or, not_not] at other
      exact .marking current holds other.1

theorem rotationStage_finish {β : Type} {s : Statement RefreshTable RefreshLock Error β}
    {next : Except Error β → RefreshSql RotationResult} {snapshot : RefreshTable} {locked : RefreshLock → Bool}
    {finished : Done RefreshTable RefreshLock β} (stage : RotationStage db t) (shape : t.program = .stmt β s next)
    (snap : t.snapshot = some snapshot) (ran : s locked snapshot (t.write db) = .ok finished) :
    RotationStage db ⟨t.job, next (.ok finished.value), finished.locks ++ t.held, finished.write ∘ t.write, none⟩ := by
  cases stage with
  | refused | revoked | expired | rotated | failed => cases shape
  | @select job _ =>
    rw [Rotation.program_eq] at shape
    change Prog.stmt _ _ _ = _ at shape
    cases shape
    simp only [selectForUpdate] at ran
    split at ran
    next =>
      cases ran
      exact .refused
    next =>
      cases ran
      exact rotationStage_locked _ (fun current found => found) fun _ => by simp
  | @revoking job held _ shows =>
    change Prog.stmt _ _ _ = _ at shape
    cases shape
    cases ran
    refine .revoked ((((snapshot.toList.filter fun row => row.familyId = job.familyId && row.revokedAt = none).map
      RefreshSession.jti).filter fun jti => (db.get? jti).any fun row => row.familyId = job.familyId &&
        row.revokedAt = none)) (fun jti mem => ?_) fun jti session found isOpen => ?_
    · exact List.mem_append_left _ (List.mem_map_of_mem (List.mem_of_mem_filter mem))
    · obtain ⟨seen, visible, family, unrevoked⟩ := shows snapshot snap jti session found isOpen
      have key := Table.key_of_get? visible
      refine List.mem_filter.mpr ⟨List.mem_map.mpr ⟨seen, List.mem_filter.mpr ⟨?_, ?_⟩, key⟩, ?_⟩
      · exact Table.mem_toList.mpr (key.symm ▸ visible)
      · simp [family, unrevoked]
      · simp [found, isOpen.1, isOpen.2]
  | expiring current holds =>
    change Prog.stmt _ _ _ = _ at shape
    cases shape
    cases ran
    exact .expired current ⟨holds.found, holds.isOpen, List.mem_cons_of_mem _ holds.locked⟩
  | marking current holds family =>
    change Prog.stmt _ _ _ = _ at shape
    cases shape
    cases ran
    exact .inserting current ⟨holds.found, holds.isOpen, List.mem_cons_of_mem _ holds.locked⟩ family
  | @inserting job held _ current holds family =>
    change Prog.stmt _ _ _ = _ at shape
    cases shape
    simp only [insertRow] at ran
    split at ran
    next => cases ran
    next absent =>
      cases ran
      have key := Table.key_of_get? holds.found
      have other : job.newSession.jti ≠ (job.usedSession current).jti := by
        intro same
        rw [same] at absent
        simp [Table.get?_put_self] at absent
      refine .rotated current ⟨holds.found, holds.isOpen, List.mem_cons_of_mem _ holds.locked⟩ family ?_
        (List.mem_cons_self ..) (key ▸ other)
      exact (Table.get?_put_of_ne db (job.usedSession current) other).symm.trans absent

theorem rotationStage_fail {β : Type} {s : Statement RefreshTable RefreshLock Error β}
    {next : Except Error β → RefreshSql RotationResult} {snapshot : RefreshTable} {locked : RefreshLock → Bool}
    {e : Error} (stage : RotationStage db t) (shape : t.program = .stmt β s next)
    (ran : s locked snapshot (t.write db) = .error e) :
    RotationStage db ⟨t.job, next (.error e), t.held, t.write, none⟩ := by
  cases stage with
  | refused | revoked | expired | rotated | failed => cases shape
  | select =>
    change Prog.stmt _ _ _ = _ at shape
    cases shape
    simp only [selectForUpdate] at ran
    split at ran
    next => cases ran
    next => cases ran
  | revoking | expiring | marking =>
    change Prog.stmt _ _ _ = _ at shape
    cases shape
    cases ran
  | inserting =>
    change Prog.stmt _ _ _ = _ at shape
    cases shape
    exact .failed e

theorem Holds.own {job : Rotation} {current : RefreshSession} {held : List RefreshLock}
    (holds : Holds db job current held) : .session current.jti ∈ held := by
  rw [Table.key_of_get? holds.found]
  exact holds.locked

theorem get?_revokeAll (updated : List UUID) (now : Int) (table : RefreshTable) (jti : UUID) :
    (revokeAll updated now table).get? jti =
      (table.get? jti).map fun row => if jti ∈ updated then { row with revokedAt := some now } else row := by
  rw [revokeAll, Table.get?_map]
  cases found : table.get? jti with
  | none => rfl
  | some row => rw [Option.map_some, Option.map_some, Table.key_of_get? found]

/-- What a commit does to the table: only locked rows change, and where a session of a family is open that
was not, the transaction has inserted it and still holds an open session of that family. -/
theorem RotationStage.commits {answer : RotationResult} (stage : RotationStage db t) (shape : t.program = .ret answer) :
    (∀ jti, .session jti ∉ t.held → (t.write db).get? jti = db.get? jti) ∧
    ∀ familyId, (∀ jti session, (t.write db).get? jti = some session → session.Open familyId →
        ∃ before, db.get? jti = some before ∧ before.Open familyId) ∨
      t.job.familyId = familyId ∧ Inserts familyId db t ∧ ∃ current, Holds db t.job current t.held := by
  cases stage with
  | select | revoking | expiring | marking | inserting =>
    change Prog.stmt _ _ _ = _ at shape
    cases shape
  | failed => cases shape
  | refused => exact ⟨fun _ _ => rfl, fun _ => .inl fun _ session found isOpen => ⟨session, found, isOpen⟩⟩
  | @revoked job held updated locked covers =>
    refine ⟨fun jti free => ?_, fun familyId => .inl fun jti session found isOpen => ?_⟩
    · have kept : jti ∉ updated := fun mem => free (locked jti mem)
      simp [get?_revokeAll, kept]
    · rw [get?_revokeAll, Option.map_eq_some_iff] at found
      obtain ⟨row, stored, rfl⟩ := found
      split_ifs at isOpen
      · exact absurd isOpen.2 (by simp)
      · exact ⟨row, stored, isOpen⟩
  | @expired job held current holds =>
    refine ⟨fun jti free => ?_, fun familyId => .inl fun jti session found isOpen => ?_⟩
    · have kept : jti ≠ (job.expiredSession current).jti := fun same => free (same ▸ holds.own)
      exact Table.get?_put_of_ne db _ kept
    · rw [Table.get?_put] at found
      split_ifs at found
      · obtain rfl := Option.some.inj found
        exact absurd isOpen.2 (by simp [Rotation.expiredSession])
      · exact ⟨session, found, isOpen⟩
  | @rotated job held current holds family absent locked other =>
    refine ⟨fun jti free => ?_, fun familyId => ?_⟩
    · have kept : jti ≠ job.newSession.jti := fun same => free (same ▸ locked)
      have kept' : jti ≠ (job.usedSession current).jti := fun same => free (same ▸ holds.own)
      rw [Table.get?_put_of_ne _ _ kept, Table.get?_put_of_ne _ _ kept']
    · by_cases own : job.familyId = familyId
      · have inserted := Table.get?_put_self (db.put (job.usedSession current)) job.newSession
        exact .inr ⟨own, ⟨job.newSession, absent, inserted, family.trans own⟩, current, holds⟩
      · refine .inl fun jti session found isOpen => ?_
        rw [Table.get?_put] at found
        split_ifs at found
        · obtain rfl := Option.some.inj found
          exact absurd (family.symm.trans isOpen.1) own
        · rw [Table.get?_put] at found
          split_ifs at found
          · obtain rfl := Option.some.inj found
            exact absurd (holds.isOpen.1.symm.trans isOpen.1) own
          · exact ⟨session, found, isOpen⟩

theorem Holds.kept {db' : RefreshTable} {job : Rotation} {current : RefreshSession} {held held' : List RefreshLock}
    (holds : Holds db job current held) (frame : ∀ jti, .session jti ∉ held' → db'.get? jti = db.get? jti)
    (disjoint : ∀ l ∈ held, l ∉ held') : Holds db' job current held :=
  ⟨(frame _ (disjoint _ holds.locked)).trans holds.found, holds.isOpen, holds.locked⟩

variable {κ : Type}

theorem rotationStage_commit {σ : RotationCluster κ} {k k' : κ} {t t' : ActiveRotation} {answer : RotationResult}
    (different : k ≠ k') (found : σ.active k = some t) (found' : σ.active k' = some t')
    (disjoint : ∀ l ∈ t.held, l ∉ t'.held) (shape : t'.program = .ret answer)
    (undisturbed : Undisturbed σ (.commit k' t'.job answer)) (stage : RotationStage σ.db t)
    (stage' : RotationStage σ.db t') : RotationStage (t'.write σ.db) t := by
  obtain ⟨frame, opened⟩ := stage'.commits shape
  cases stage with
  | select => exact .select
  | refused => exact .refused
  | failed e => exact .failed e
  | @revoking job held snapshot shows =>
    refine .revoking fun view same jti session stored isOpen => ?_
    rcases opened job.familyId with old | ⟨_, inserts, _⟩
    · obtain ⟨before, stored', isOpen'⟩ := old jti session stored isOpen
      exact shows view same jti before stored' isOpen'
    · exact absurd inserts (undisturbed k' _ _ rfl k t' _ different found' found ⟨rfl, by simp [same]⟩)
  | @revoked job held updated locked covers =>
    refine .revoked updated locked fun jti session stored isOpen => ?_
    rcases opened job.familyId with old | ⟨same, _, current, holds⟩
    · obtain ⟨before, stored', isOpen'⟩ := old jti session stored isOpen
      exact covers jti before stored' isOpen'
    · -- The other transaction would hold a session that this one has locked.
      have taken := covers _ current holds.found (same ▸ holds.isOpen)
      exact absurd holds.locked (disjoint _ (locked _ taken))
  | expiring current holds => exact .expiring current (holds.kept frame disjoint)
  | expired current holds => exact .expired current (holds.kept frame disjoint)
  | marking current holds family => exact .marking current (holds.kept frame disjoint) family
  | inserting current holds family => exact .inserting current (holds.kept frame disjoint) family
  | rotated current holds family absent locked other =>
    exact .rotated current (holds.kept frame disjoint) family ((frame _ (disjoint _ locked)).trans absent) locked other

theorem rotationStages :
    Cluster.Stages Rotation.program (Undisturbed : RotationCluster κ → RotationEvent κ → Prop) RotationStage where
  begin _ _ := .select
  start stage shape _ := rotationStage_start stage shape
  finish stage shape snap ran := rotationStage_finish stage shape snap ran
  fail stage shape _ ran := rotationStage_fail stage shape ran
  commit different found found' disjoint shape allowed stage stage' :=
    rotationStage_commit different found found' disjoint shape allowed stage stage'

/-- No session of the family is open. -/
def NoneOpen (familyId : UUID) (db : RefreshTable) : Prop :=
  ∀ jti session, db.get? jti = some session → ¬ session.Open familyId

variable [DecidableEq κ] {σ σ' : RotationCluster κ} {event : RotationEvent κ}

theorem noneOpen_step {familyId : UUID} (staged : Cluster.Staged RotationStage σ)
    (step : RotationStep σ event σ') (revoked : NoneOpen familyId σ.db) : NoneOpen familyId σ'.db := by
  cases step with
  | begin | start | finish | fail | rollback | crash => exact revoked
  | @commit k t answer found shape =>
    intro jti session stored isOpen
    rcases ((staged k t found).commits shape).2 familyId with old | ⟨same, _, current, holds⟩
    · obtain ⟨before, stored', isOpen'⟩ := old jti session stored isOpen
      exact revoked jti before stored' isOpen'
    · exact revoked _ current holds.found (same ▸ holds.isOpen)

theorem noneOpen_of_reused {k : κ} {job : Rotation} (staged : Cluster.Staged RotationStage σ)
    (step : RotationStep σ (.commit k job .reused) σ') : NoneOpen job.familyId σ'.db := by
  cases step with
  | @commit _ t _ found shape =>
    have stage := staged k t found
    cases stage with
    | select | revoking | expiring | marking | inserting =>
      change Prog.stmt _ _ _ = _ at shape
      cases shape
    | refused | expired | rotated | failed => cases shape
    | revoked updated _ covers =>
      intro jti session stored isOpen
      change (revokeAll updated _ σ.db).get? jti = some session at stored
      rw [get?_revokeAll, Option.map_eq_some_iff] at stored
      obtain ⟨row, stored, rfl⟩ := stored
      split_ifs at isOpen with mem
      · exact absurd isOpen.2 (by simp)
      · exact mem (covers jti row stored isOpen)

/-- In a run where no new session of a family is committed during a family-wide `UPDATE`, a reuse leaves no
live session of its family, then and ever after. -/
theorem no_live_descendant {db₀ : RefreshTable} {trace : List (Transition (RotationCluster κ) (RotationEvent κ))}
    (run : Exec RotationStep (Cluster.quiet db₀) trace σ) (undisturbed : ∀ t ∈ trace, Undisturbed t.pre t.label) :
    ∀ t ∈ trace, ∀ k job, t.label = .commit k job .reused →
      ∀ jti session, σ.db.get? jti = some session → session.familyId = job.familyId → ¬ session.Live := by
  have staged := rotationStages.staged run undisturbed
  rintro ⟨pre, event, post⟩ ht k job rfl jti session stored family live
  obtain ⟨earlier, later, rfl⟩ := List.append_of_mem ht
  obtain ⟨_, step, rest⟩ := run.split
  have revoked : NoneOpen job.familyId post.db := noneOpen_of_reused (staged _ ht).1 step
  have still := rest.carried (P := fun σ => NoneOpen job.familyId σ.db) revoked fun u hu =>
    noneOpen_step (staged u (List.mem_append_right _ (List.mem_cons_of_mem _ hu))).1 (rest.step_of_mem hu)
  have last := rest.final_of_posts (P := fun σ => NoneOpen job.familyId σ.db) revoked fun u hu => (still u hu).2
  exact last jti session stored ⟨family, live.2⟩

end

/-- A family with a session that was rotated once and its live successor. -/
def rotatedFamily : RefreshTable :=
  (Table.empty.put { jti := 1, familyId := 5, subject := "user", expiresAt := 100, usedAt := some 1
                     replacementJti := some 2 }).put { jti := 2, familyId := 5, subject := "user", expiresAt := 100 }

/-- The old token is presented again. -/
def thief : Rotation := ⟨1, 5, "user", { jti := 4, familyId := 5, subject := "user", expiresAt := 110 }, 10⟩

/-- The current token is presented. -/
def owner : Rotation := ⟨2, 5, "user", { jti := 3, familyId := 5, subject := "user", expiresAt := 110 }, 10⟩

/-- The family whose reuse was committed. -/
def reusedFamily? {κ : Type} : RotationEvent κ → Option UUID
  | .commit _ job .reused => some job.familyId
  | _ => none

theorem commit_of_reusedFamily {κ : Type} {event : RotationEvent κ} {familyId : UUID}
    (h : reusedFamily? event = some familyId) : ∃ k job, event = .commit k job .reused ∧ job.familyId = familyId := by
  unfold reusedFamily? at h
  split at h
  next k job => exact ⟨k, job, rfl, Option.some.inj h⟩
  next => cases h

def aborts {κ : Type} : RotationEvent κ → Bool
  | .rollback .. | .crash .. => true
  | _ => false

/-- The old token is locked, the current one is rotated, and only then the family is revoked. -/
def revokedAfterwards : List (Bool × Cluster.Move Rotation) :=
  [(true, .begin thief), (true, .start), (true, .finish), (false, .begin owner), (false, .start), (false, .finish),
    (false, .start), (false, .finish), (false, .start), (false, .finish), (false, .commit), (true, .start),
    (true, .finish), (true, .commit)]

/-- The same, but the family-wide `UPDATE` starts before the rotation is committed. -/
def revokedMeanwhile : List (Bool × Cluster.Move Rotation) :=
  [(true, .begin thief), (true, .start), (true, .finish), (false, .begin owner), (false, .start), (false, .finish),
    (false, .start), (false, .finish), (false, .start), (false, .finish), (true, .start), (false, .commit),
    (true, .finish), (true, .commit)]

/-- Nothing is committed while the other transaction runs a statement. -/
def commitsAlone (t : Transition (RotationCluster Bool) (RotationEvent Bool)) : Bool :=
  match t.label with
  | .commit k _ _ => (t.pre.active !k).all fun other => other.snapshot.isNone
  | _ => true

theorem undisturbed_of_commitsAlone {t : Transition (RotationCluster Bool) (RotationEvent Bool)}
    (h : commitsAlone t = true) : Undisturbed t.pre t.label := by
  rintro k job answer label k' _ other different _ found ⟨_, running⟩
  obtain rfl : k' = !k := by cases k' <;> cases k <;> simp at different ⊢
  simp only [commitsAlone, label, found, Option.all_some, Option.isNone_iff_eq_none] at h
  exact absurd h running

theorem no_live_descendant_afterwards : ∃ trace, ∃ σ : RotationCluster Bool,
    Exec RotationStep (Cluster.quiet rotatedFamily) trace σ ∧ (σ.db.get? 3).isSome = true ∧
    (∃ t ∈ trace, ∃ k job, t.label = .commit k job .reused ∧ job.familyId = 5) ∧
    ∀ jti session, σ.db.get? jti = some session → session.familyId = 5 → ¬ session.Live := by
  have outcome : ((Cluster.quiet rotatedFamily).moves Rotation.program revokedAfterwards).any (fun r =>
      r.1.all commitsAlone && r.1.any (fun t => reusedFamily? t.label = some 5) && (r.2.db.get? 3).isSome) = true := by
    decide +kernel
  obtain ⟨⟨trace, σ⟩, ran, facts⟩ := (Option.any_eq_true _ _).mp outcome
  simp only [Bool.and_eq_true, List.all_eq_true, List.any_eq_true, decide_eq_true_eq] at facts
  obtain ⟨⟨alone, t, ht, reused⟩, stored⟩ := facts
  obtain ⟨k, job, label, family⟩ := commit_of_reusedFamily reused
  have run : Exec RotationStep (Cluster.quiet rotatedFamily) trace σ := Cluster.exec_of_moves ran
  have safe := no_live_descendant run (fun t ht => undisturbed_of_commitsAlone (alone t ht)) t ht k job label
  rw [family] at safe
  exact ⟨trace, σ, run, stored, ⟨t, ht, k, job, label, family⟩, safe⟩

/-- The `UPDATE` waits for the rotation of the current token and does not see the session it has added. -/
theorem live_descendant_of_race : ¬ ∀ (db₀ : RefreshTable) trace (σ : RotationCluster Bool),
    Exec RotationStep (Cluster.quiet db₀) trace σ → (∀ t ∈ trace, aborts t.label = false) →
    (∀ k, σ.active k = none) → ∀ t ∈ trace, ∀ k job, t.label = .commit k job .reused →
      ∀ jti session, σ.db.get? jti = some session → session.familyId = job.familyId → ¬ session.Live := by
  intro all
  have outcome : ((Cluster.quiet rotatedFamily).moves Rotation.program revokedMeanwhile).any (fun r =>
      r.1.all (fun t => aborts t.label = false) && ((r.2.active true).isNone && (r.2.active false).isNone) &&
        r.1.any (fun t => reusedFamily? t.label = some 5) &&
        (r.2.db.get? 3).any fun session => session.familyId = 5 && session.Live) = true := by
    decide +kernel
  obtain ⟨⟨trace, σ⟩, ran, facts⟩ := (Option.any_eq_true _ _).mp outcome
  simp only [Bool.and_eq_true, List.all_eq_true, List.any_eq_true, decide_eq_true_eq, Option.isNone_iff_eq_none,
    Option.any_eq_true] at facts
  obtain ⟨⟨⟨committed, idle⟩, t, ht, reused⟩, session, stored, family, live⟩ := facts
  obtain ⟨k, job, label, own⟩ := commit_of_reusedFamily reused
  refine all rotatedFamily trace σ (Cluster.exec_of_moves ran) committed (fun k => ?_) t ht k job label 3 session stored
    (family.trans own.symm) live
  cases k with
  | true => exact idle.1
  | false => exact idle.2

end DeliveryService
