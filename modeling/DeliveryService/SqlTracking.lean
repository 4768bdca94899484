import DeliveryService.Database
import DeliveryService.Tracking

namespace DeliveryService

structure TrackingSnapshotRow where
  orderId : UUID
  tenantId : UUID
  latitude : Rat
  longitude : Rat
  sequence : Int
  orderStatus : String
  recordedAt : Datetime
  clientEventId : UUID
deriving DecidableEq

/-- The tables that the tracking adapter works on. -/
structure TrackingDatabase where
  snapshots : Table TrackingSnapshotRow.orderId
  outbox : Table OutboxRow.id

/-- The entries of primary keys and unique indexes that a statement locks. -/
inductive TrackingLock
  | snapshot (orderId : UUID)
  | event (clientEventId : UUID)
  | outbox (id : UUID)
deriving DecidableEq

namespace TrackingDatabase

def empty : TrackingDatabase := ⟨.empty, .empty⟩

def putSnapshot (row : TrackingSnapshotRow) (db : TrackingDatabase) : TrackingDatabase :=
  { db with snapshots := db.snapshots.put row }

def addOutbox (row : OutboxRow) (db : TrackingDatabase) : TrackingDatabase :=
  { db with outbox := db.outbox.insert row }

/-- Another order's row has the event. -/
def eventTaken (db : TrackingDatabase) (orderId clientEventId : UUID) : Bool :=
  db.snapshots.toList.any fun row => row.orderId ≠ orderId && row.clientEventId = clientEventId

end TrackingDatabase

abbrev TrackingSql := Prog TrackingDatabase TrackingLock Error

namespace SqlAlchemyTrackingSnapshotRepository

/-- `_snapshot` -/
def snapshot (row : TrackingSnapshotRow) : TrackingSnapshot where
  orderId := row.orderId
  tenantId := row.tenantId
  status := row.orderStatus
  sequence := row.sequence
  latitude := row.latitude
  longitude := row.longitude
  recordedAt := row.recordedAt
  clientEventId := row.clientEventId

/-- The values of the `INSERT`. -/
def insertedRow (report : PositionReport) : TrackingSnapshotRow where
  orderId := report.orderId
  tenantId := report.tenantId
  latitude := report.latitude
  longitude := report.longitude
  sequence := 1
  orderStatus := report.status
  recordedAt := report.recordedAt
  clientEventId := report.clientEventId

/-- The row with the columns that `DO UPDATE` sets. -/
def updatedRow (row : TrackingSnapshotRow) (report : PositionReport) : TrackingSnapshotRow :=
  { row with
    latitude := report.latitude, longitude := report.longitude, sequence := row.sequence + 1
    orderStatus := report.status, recordedAt := report.recordedAt, clientEventId := report.clientEventId }

/-- The row that the upsert writes: a new one, or the conflicting one if it has the same tenant and
another event. -/
def upsertedRow (db : TrackingDatabase) (report : PositionReport) : Option TrackingSnapshotRow :=
  match db.snapshots.get? report.orderId with
  | none => some (insertedRow report)
  | some row =>
    if row.tenantId = report.tenantId ∧ row.clientEventId ≠ report.clientEventId then some (updatedRow row report)
    else none

/-- `INSERT ... ON CONFLICT (order_id) DO UPDATE ... WHERE ... RETURNING`: a conflicting row is locked even
if it is not updated, and the event of the written row must not be that of another order. -/
def upsert (report : PositionReport) :
    Statement TrackingDatabase TrackingLock Error (Option TrackingSnapshotRow) :=
  fun _ _ current => match upsertedRow current report with
    | none => .ok { value := none, locks := [.snapshot report.orderId] }
    | some row =>
      if current.eventTaken row.orderId row.clientEventId then
        .error (.integrityError "order_tracking_snapshot_client_event_id_key")
      else .ok {
        value := some row, locks := [.snapshot row.orderId, .event row.clientEventId]
        write := TrackingDatabase.putSnapshot row }

def selectReported (report : PositionReport) :
    Statement TrackingDatabase TrackingLock Error (Option TrackingSnapshotRow) :=
  fun _ snapshot _ => .ok {
    value := (snapshot.snapshots.get? report.orderId).filter fun row =>
      row.tenantId = report.tenantId && row.clientEventId = report.clientEventId }

def insertOutbox (row : OutboxRow) : Statement TrackingDatabase TrackingLock Error Unit :=
  fun _ _ current => match current.outbox.get? row.id with
    | some _ => .error (.integrityError "outbox_pkey")
    | none => .ok { value := (), locks := [.outbox row.id], write := TrackingDatabase.addOutbox row }

/-- The outbox row of an accepted position. -/
def outboxRow (report : PositionReport) (snapshot : TrackingSnapshot) : OutboxRow where
  id := report.clientEventId
  eventType := "tracking.position_updated"
  payload := snapshot.event.payload
  createdAt := report.recordedAt

def record (report : PositionReport) : TrackingSql (TrackingSnapshot × Bool) := do
  match ← Prog.perform (upsert report) with
  | none =>
    match ← Prog.perform (selectReported report) with
    | none => throw (.valueError "tracking event conflicts with tenant or order")
    | some row => pure (snapshot row, false)
  | some row =>
    Prog.perform (insertOutbox (outboxRow report (snapshot row)))
    pure (snapshot row, true)

end SqlAlchemyTrackingSnapshotRepository

open SqlAlchemyTrackingSnapshotRepository

/-- The message that a relay reads from an outbox row. -/
def OutboxRow.message (row : OutboxRow) : TrackingMessage := ⟨row.id.str, row.eventType, row.payload⟩

/-- Both stores hold the same snapshots and the same messages. -/
structure SameStores (memory : InMemoryTrackingSnapshotRepository) (db : TrackingDatabase) : Prop where
  snapshots : ∀ orderId, memory.snapshots.get? orderId = (db.snapshots.get? orderId).map snapshot
  messages : memory.outbox.Perm (db.outbox.toList.map OutboxRow.message)

/-- Equal results, or a `ValueError` on both sides. -/
def SameOutcome : Except Error (TrackingSnapshot × Bool) → Except Error (TrackingSnapshot × Bool) → Prop
  | .ok a, .ok b => a = b
  | .error (.valueError _), .error (.valueError _) => True
  | _, _ => False

/-- The in-memory store and the database. -/
structure TrackingStores where
  memory : InMemoryTrackingSnapshotRepository
  db : TrackingDatabase

/-- One call made on both stores, on the database in its own transaction. -/
def TrackingStores.after (s : TrackingStores) (report : PositionReport) : TrackingStores :=
  ⟨(s.memory.record report).2, ((record report).transact s.db).2⟩

/-- Each order belongs to one tenant. -/
def TwinStep (tenantOf : UUID → UUID) (s : TrackingStores) (report : PositionReport) (s' : TrackingStores) : Prop :=
  report.tenantId = tenantOf report.orderId ∧ s' = s.after report

/-- The call is answered alike by both stores and leaves them with the same content. -/
def AnsweredAlike (t : Transition TrackingStores PositionReport) : Prop :=
  SameOutcome (t.pre.memory.record t.label).1 ((record t.label).transact t.pre.db).1 ∧
    SameStores t.post.memory t.post.db

/-- The event was never accepted, or it is that of the current snapshot of the same order. -/
def NewOrLatest (s : TrackingStores) (report : PositionReport) : Prop :=
  s.memory.eventOrders.get? report.clientEventId = none ∨
    (s.memory.snapshots.get? report.orderId).map TrackingSnapshot.clientEventId = some report.clientEventId

instance (s : TrackingStores) (report : PositionReport) : Decidable (NewOrLatest s report) := by
  unfold NewOrLatest
  infer_instance

/-- The relation between the stores along runs: the dictionary of events of the one has the keys of the
outbox of the other. -/
structure Twins (tenantOf : UUID → UUID) (s : TrackingStores) : Prop extends SameStores s.memory s.db where
  tenants : ∀ orderId row, s.db.snapshots.get? orderId = some row → row.tenantId = tenantOf orderId
  noted : ∀ orderId row, s.db.snapshots.get? orderId = some row →
    s.memory.eventOrders.get? row.clientEventId = some orderId
  events : ∀ id, s.db.outbox.get? id = none ↔ s.memory.eventOrders.get? id = none

section

variable {tenantOf : UUID → UUID} {s : TrackingStores} {report : PositionReport}

theorem transact_record (db : TrackingDatabase) (report : PositionReport) :
    (record report).transact db = match upsertedRow db report with
      | none =>
        match (db.snapshots.get? report.orderId).filter fun row =>
            row.tenantId = report.tenantId && row.clientEventId = report.clientEventId with
        | none => (.error (.valueError "tracking event conflicts with tenant or order"), db)
        | some row => (.ok (snapshot row, false), db)
      | some row =>
        if db.eventTaken row.orderId row.clientEventId then
          (.error (.integrityError "order_tracking_snapshot_client_event_id_key"), db)
        else match db.outbox.get? report.clientEventId with
          | some _ => (.error (.integrityError "outbox_pkey"), db)
          | none => (.ok (snapshot row, true), (db.putSnapshot row).addOutbox (outboxRow report (snapshot row))) := by
  simp only [Prog.transact, record, Prog.runAlone_bind, Prog.runAlone_perform, upsert]
  cases upsertedRow db report with
  | none =>
    simp only [selectReported, Prog.runAlone_bind, Prog.runAlone_perform, id_eq]
    cases (db.snapshots.get? report.orderId).filter fun row =>
      row.tenantId = report.tenantId && row.clientEventId = report.clientEventId <;> rfl
  | some row =>
    by_cases taken : db.eventTaken row.orderId row.clientEventId = true
    · simp only [if_pos taken]
    · have kept : (db.putSnapshot row).outbox = db.outbox := rfl
      simp only [if_neg taken, Prog.runAlone_bind, Prog.runAlone_perform, insertOutbox, kept, outboxRow]
      cases db.outbox.get? report.clientEventId <;> rfl

theorem Twins.current_row (twins : Twins tenantOf s) {orderId : UUID} {current : TrackingSnapshot}
    (stored : s.memory.snapshots.get? orderId = some current) :
    ∃ row, s.db.snapshots.get? orderId = some row ∧ snapshot row = current := by
  rw [twins.snapshots, Option.map_eq_some_iff] at stored
  exact stored

theorem twin_repeated (twins : Twins tenantOf s) (tenant : report.tenantId = tenantOf report.orderId)
    {current : TrackingSnapshot} (stored : s.memory.snapshots.get? report.orderId = some current)
    (same : current.clientEventId = report.clientEventId) :
    s.memory.record report = (.ok (current, false), s.memory) ∧
      (record report).transact s.db = (.ok (current, false), s.db) := by
  obtain ⟨row, found, rfl⟩ := twins.current_row stored
  have noted : s.memory.eventOrders.get? report.clientEventId = some report.orderId :=
    same ▸ twins.noted report.orderId row found
  have event : row.clientEventId = report.clientEventId := same
  have owner : row.tenantId = report.tenantId := (twins.tenants report.orderId row found).trans tenant.symm
  constructor
  · simp [InMemoryTrackingSnapshotRepository.record, noted, stored, same]
  · simp [transact_record, upsertedRow, found, event, owner, Option.filter]

/-- The row that a new event writes is the snapshot that the in-memory store keeps. -/
theorem upsertedRow_of_new (twins : Twins tenantOf s) (tenant : report.tenantId = tenantOf report.orderId)
    (absent : s.memory.eventOrders.get? report.clientEventId = none) :
    ∃ row, upsertedRow s.db report = some row ∧
      snapshot row = report.snapshot (s.memory.nextSequence report.orderId) := by
  unfold upsertedRow InMemoryTrackingSnapshotRepository.nextSequence
  rw [twins.snapshots]
  cases found : s.db.snapshots.get? report.orderId with
  | none => exact ⟨_, rfl, rfl⟩
  | some row =>
    have key : row.orderId = report.orderId := Table.key_of_get? found
    have owner : row.tenantId = report.tenantId := (twins.tenants report.orderId row found).trans tenant.symm
    have other : row.clientEventId ≠ report.clientEventId := by
      intro same
      simp [← same, twins.noted report.orderId row found] at absent
    refine ⟨updatedRow row report, if_pos ⟨owner, other⟩, ?_⟩
    simp [snapshot, updatedRow, PositionReport.snapshot, key, owner]

theorem eventTaken_of_new (twins : Twins tenantOf s) (orderId : UUID)
    (absent : s.memory.eventOrders.get? report.clientEventId = none) :
    s.db.eventTaken orderId report.clientEventId = false := by
  refine Bool.eq_false_iff.mpr fun taken => ?_
  obtain ⟨row, mem, conflict⟩ := List.any_eq_true.mp taken
  have event : row.clientEventId = report.clientEventId := by simp_all
  have noted := twins.noted row.orderId row (Table.mem_toList.mp mem)
  simp [event, absent] at noted

theorem record_of_new (twins : Twins tenantOf s) (absent : s.memory.eventOrders.get? report.clientEventId = none) :
    s.memory.record report = (.ok (report.snapshot (s.memory.nextSequence report.orderId), true),
      s.memory.accept (report.snapshot (s.memory.nextSequence report.orderId))) := by
  unfold InMemoryTrackingSnapshotRepository.record InMemoryTrackingSnapshotRepository.nextSequence
  simp only [absent, Option.any_none, Bool.false_eq_true, if_false]
  cases stored : s.memory.snapshots.get? report.orderId with
  | none => rfl
  | some current =>
    obtain ⟨row, found, rfl⟩ := twins.current_row stored
    have other : (snapshot row).clientEventId ≠ report.clientEventId := by
      intro same
      have noted := twins.noted report.orderId row found
      rw [show row.clientEventId = report.clientEventId from same, absent] at noted
      simp at noted
    simp only [if_neg other]

theorem twin_new (twins : Twins tenantOf s) (tenant : report.tenantId = tenantOf report.orderId)
    (absent : s.memory.eventOrders.get? report.clientEventId = none) :
    SameOutcome (s.memory.record report).1 ((record report).transact s.db).1 ∧ Twins tenantOf (s.after report) := by
  obtain ⟨row, written, kept⟩ := upsertedRow_of_new twins tenant absent
  have order : row.orderId = report.orderId := congrArg TrackingSnapshot.orderId kept
  have event : row.clientEventId = report.clientEventId := congrArg TrackingSnapshot.clientEventId kept
  have owner : row.tenantId = report.tenantId := congrArg TrackingSnapshot.tenantId kept
  have free : s.db.outbox.get? report.clientEventId = none := (twins.events _).mpr absent
  have stored : (record report).transact s.db = (.ok (snapshot row, true),
      (s.db.putSnapshot row).addOutbox (outboxRow report (snapshot row))) := by
    simp [transact_record, written, event, eventTaken_of_new twins _ absent, free]
  rw [TrackingStores.after, record_of_new twins absent, stored, kept]
  refine ⟨rfl, ⟨⟨fun orderId => ?_, ?_⟩, fun orderId other found => ?_, fun orderId other found => ?_, fun id => ?_⟩⟩
  · change (s.memory.snapshots.set report.orderId _).get? orderId = ((s.db.snapshots.put row).get? orderId).map snapshot
    rw [Dict.get?_set, Table.get?_put, order]
    split_ifs
    · rw [Option.map_some, kept]
    · exact twins.snapshots orderId
  · change (s.memory.outbox ++ [_]).Perm ((s.db.outbox.insert _).toList.map OutboxRow.message)
    rw [Table.toList_insert_of_absent free, List.map_append]
    exact twins.messages.append (List.Perm.refl _)
  · change (s.db.snapshots.put row).get? orderId = some other at found
    rw [Table.get?_put] at found
    split_ifs at found with here
    · obtain rfl := Option.some.inj found
      rw [here, order, owner, tenant]
    · exact twins.tenants orderId other found
  · change (s.db.snapshots.put row).get? orderId = some other at found
    change (s.memory.eventOrders.set report.clientEventId report.orderId).get? other.clientEventId = some orderId
    rw [Table.get?_put] at found
    rw [Dict.get?_set]
    split_ifs at found with here
    · obtain rfl := Option.some.inj found
      rw [if_pos event, here, order]
    · have noted := twins.noted orderId other found
      rw [if_neg, noted]
      intro same
      simp [same, absent] at noted
  · change (s.db.outbox.insert _).get? id = none ↔ (s.memory.eventOrders.set report.clientEventId _).get? id = none
    rw [Table.insert_of_absent free, Table.get?_put, Dict.get?_set]
    by_cases here : id = report.clientEventId
    · simp [here, outboxRow]
    · simp only [outboxRow, here, if_false]
      exact twins.events id

theorem transact_of_old (twins : Twins tenantOf s)
    (noted : s.memory.eventOrders.get? report.clientEventId ≠ none)
    (old : ∀ current, s.memory.snapshots.get? report.orderId = some current →
      current.clientEventId ≠ report.clientEventId) (tenant : report.tenantId = tenantOf report.orderId) :
    ∃ constraint, ((record report).transact s.db).1 = .error (.integrityError constraint) := by
  have taken : s.db.outbox.get? report.clientEventId ≠ none := fun free => noted ((twins.events _).mp free)
  obtain ⟨message, stored⟩ := Option.ne_none_iff_exists'.mp taken
  have written : ∃ row, upsertedRow s.db report = some row := by
    unfold upsertedRow
    cases found : s.db.snapshots.get? report.orderId with
    | none => exact ⟨_, rfl⟩
    | some row =>
      have owner : row.tenantId = report.tenantId := (twins.tenants report.orderId row found).trans tenant.symm
      have other : row.clientEventId ≠ report.clientEventId := old (snapshot row) (by simp [twins.snapshots, found])
      exact ⟨_, if_pos ⟨owner, other⟩⟩
  obtain ⟨row, written⟩ := written
  rw [transact_record, written]
  simp only [stored]
  split_ifs
  · exact ⟨_, rfl⟩
  · exact ⟨_, rfl⟩

theorem twins_step (twins : Twins tenantOf s) (tenant : report.tenantId = tenantOf report.orderId)
    (meets : NewOrLatest s report) :
    SameOutcome (s.memory.record report).1 ((record report).transact s.db).1 ∧ Twins tenantOf (s.after report) := by
  rcases meets with absent | latest
  · exact twin_new twins tenant absent
  · obtain ⟨current, stored, same⟩ := Option.map_eq_some_iff.mp latest
    obtain ⟨inMemory, inDatabase⟩ := twin_repeated twins tenant stored same
    rw [TrackingStores.after, inMemory, inDatabase]
    exact ⟨rfl, twins⟩

/-- Along a run both tracking stores answer alike and hold the same content exactly when every call
brings a new event or repeats the latest one of its order. -/
theorem tracking_stores_agree_iff {trace : List (Transition TrackingStores PositionReport)}
    (run : Exec (TwinStep tenantOf) ⟨.empty, .empty⟩ trace s) :
    (∀ t ∈ trace, AnsweredAlike t) ↔ ∀ t ∈ trace, NewOrLatest t.pre t.label := by
  refine run.good_iff_meets (Twins tenantOf) AnsweredAlike NewOrLatest ?_ ?_ ?_
  · refine ⟨⟨fun _ => rfl, .refl _⟩, ?_, ?_, fun _ => ⟨fun _ => rfl, fun _ => rfl⟩⟩
    · intro orderId row found
      simp [TrackingDatabase.empty] at found
    · intro orderId row found
      simp [TrackingDatabase.empty] at found
  · rintro s report _ twins ⟨tenant, rfl⟩
    constructor
    · rintro ⟨alike, _⟩
      by_contra old
      obtain ⟨noted, not_latest⟩ := not_or.mp old
      obtain ⟨constraint, failed⟩ := transact_of_old twins noted
        (fun current stored same => not_latest (Option.map_eq_some_iff.mpr ⟨current, stored, same⟩)) tenant
      simp only [failed] at alike
      cases answered : (s.memory.record report).1 with
      | ok _ => simp [answered, SameOutcome] at alike
      | error e => cases e <;> simp [answered, SameOutcome] at alike
    · intro meets
      obtain ⟨alike, next⟩ := twins_step twins tenant meets
      exact ⟨alike, next.toSameStores⟩
  · rintro s report _ twins ⟨tenant, rfl⟩ meets
    exact (twins_step twins tenant meets).2

end

def emptyStores : TrackingStores := ⟨.empty, .empty⟩

theorem twinStep_positionOfFirst (s : TrackingStores) (clientEventId : UUID) :
    TwinStep (fun _ => defaultTenantId) s (positionOfFirst clientEventId) (s.after (positionOfFirst clientEventId)) :=
  ⟨rfl, rfl⟩

theorem tracking_stores_agree_latest_repeated :
    ∃ trace s, Exec (TwinStep fun _ => defaultTenantId) emptyStores trace s ∧ s.memory.sequenceOf 1 = 2 ∧
      ∀ t ∈ trace, AnsweredAlike t := by
  have begun : Exec (TwinStep fun _ => defaultTenantId) emptyStores [] emptyStores := .start
  have run := ((begun.next (twinStep_positionOfFirst _ 7)).next (twinStep_positionOfFirst _ 7)).next
    (twinStep_positionOfFirst _ 8)
  exact ⟨_, _, run, rfl, (tracking_stores_agree_iff run).mpr (by decide)⟩

/-- An event that comes back after a newer one is accepted in memory and fails in the database. -/
theorem old_event_splits_stores :
    ¬ ∀ tenantOf trace s, Exec (TwinStep tenantOf) emptyStores trace s → ∀ t ∈ trace, AnsweredAlike t := by
  intro all
  have begun : Exec (TwinStep fun _ => defaultTenantId) emptyStores [] emptyStores := .start
  have run := ((begun.next (twinStep_positionOfFirst _ 7)).next (twinStep_positionOfFirst _ 8)).next
    (twinStep_positionOfFirst _ 7)
  have alike := (all _ _ _ run ⟨_, positionOfFirst 7, _⟩ (List.mem_append_right _ (List.mem_singleton.mpr rfl))).1
  change False at alike
  exact alike

end DeliveryService
