import DeliveryService.ConcurrentWrites
import DeliveryService.Endpoints
import DeliveryService.Rely
import DeliveryService.SqlTracking

namespace DeliveryService

open Database SqlAlchemyOrderRepository SqlAlchemyTrackingSnapshotRepository

/-- The tables of the order adapter and of the tracking adapter, which share the outbox. -/
structure DeliveryDatabase where
  orders : Database
  snapshots : Table TrackingSnapshotRow.orderId

inductive DeliveryLock
  | order (lock : Lock)
  | snapshot (orderId : UUID)
  | event (clientEventId : UUID)
deriving DecidableEq

def TrackingLock.shared : TrackingLock → DeliveryLock
  | .snapshot orderId => .snapshot orderId
  | .event clientEventId => .event clientEventId
  | .outbox id => .order (.outbox id)

namespace DeliveryDatabase

def orderTables : Fragment Database Lock DeliveryDatabase DeliveryLock where
  get := orders
  lift write db := { db with orders := write db.orders }
  lock := .order
  get_lift _ _ := rfl
  lift_id := rfl
  lift_comp _ _ := rfl

def tracking (db : DeliveryDatabase) : TrackingDatabase := ⟨db.snapshots, db.orders.outbox⟩

def withTracking (db : DeliveryDatabase) (tables : TrackingDatabase) : DeliveryDatabase :=
  ⟨{ db.orders with outbox := tables.outbox }, tables.snapshots⟩

def trackingTables : Fragment TrackingDatabase TrackingLock DeliveryDatabase DeliveryLock where
  get := tracking
  lift write db := db.withTracking (write db.tracking)
  lock := TrackingLock.shared
  get_lift _ _ := rfl
  lift_id := rfl
  lift_comp _ _ := rfl

def statusOf (orderId : UUID) (db : Database) : Option OrderStatus := (db.orders.get? orderId).map OrderRow.status

end DeliveryDatabase

open DeliveryDatabase

/-- The body of a position report that passed validation. -/
structure TrackingUpdate where
  clientEventId : UUID
  latitude : Rat
  longitude : Rat
  latitude_range : -90 ≤ latitude ∧ latitude ≤ 90
  longitude_range : -180 ≤ longitude ∧ longitude ≤ 180

structure TrackingRead where
  orderId : UUID
  sequence : Int
  latitude : Rat
  longitude : Rat
  status : String
  recordedAt : Datetime
deriving DecidableEq

def TrackingRead.ofSnapshot (snapshot : TrackingSnapshot) : TrackingRead where
  orderId := snapshot.orderId
  sequence := snapshot.sequence
  latitude := snapshot.latitude
  longitude := snapshot.longitude
  status := snapshot.status
  recordedAt := snapshot.recordedAt

/-- The answers of the order endpoints and of the position report, the latter with the event that is
published after it. -/
inductive DeliveryAnswer
  | order (answer : OrderAnswer)
  | position (read : TrackingRead) (published : Option TrackingEvent)
deriving DecidableEq

abbrev DeliverySql := Prog DeliveryDatabase DeliveryLock Error

/-- A position report with the authenticated actor who sends it and the time that its handler reads. -/
structure TrackingRequest where
  actor : Actor
  orderId : UUID
  update : TrackingUpdate
  now : Datetime

def conflict (detail : String) : Error := .http ⟨409, detail, []⟩

/-- The arguments that the handler passes to `record`. -/
def TrackingRequest.report (request : TrackingRequest) (order : DeliveryOrder) : PositionReport where
  orderId := order.id
  tenantId := order.tenantId
  status := order.status.value
  latitude := request.update.latitude
  longitude := request.update.longitude
  clientEventId := request.update.clientEventId
  recordedAt := request.now

/-- `record_tracking_position`. The session of the order repository only reads, and under read committed
isolation each of its statements sees what is committed when it starts; so its statements and those of the
session of the snapshot repository are one sequence, whose writes the latter commits. -/
def recordTrackingPosition (hash : String → Int) (request : TrackingRequest) : DeliverySql DeliveryAnswer := do
  let order ← (OrderService.get (sqlAlchemyOrderRepository hash) request.orderId).within orderTables
  if request.actor.role ≠ .courier ∨ request.actor.tenantId ≠ order.tenantId ∨
      order.courierId ≠ some request.actor.userId then throw (forbidden "tracking access denied")
  else if order.status ≠ .assigned ∧ order.status ≠ .pickedUp then
    throw (conflict "tracking is not active for this order")
  else
    let (snapshot, changed) ← tryCatch ((record (request.report order)).within trackingTables) fun error =>
      match error with
      | .valueError _ => throw (conflict "tracking event conflict")
      | other => throw other
    pure (.position (.ofSnapshot snapshot) (if changed then some snapshot.event else none))

/-- Requests to the order endpoints and position reports. -/
inductive DeliveryJob (folding : PyText.CaseFolding)
  | order (call : OrderHttpCall folding)
  | record (request : TrackingRequest)

def DeliveryJob.program {folding : PyText.CaseFolding} (hash : String → Int) (sha256 : String → String) :
    DeliveryJob folding → DeliverySql DeliveryAnswer
  | .order call => DeliveryAnswer.order <$> (call.run (sqlAlchemyOrderRepository hash) sha256).within orderTables
  | .record request => recordTrackingPosition hash request

/-- The contract of the order adapter; the tracking adapter relies on the entries of the outbox that it locks. -/
def DeliveryDatabase.isolation (hash : String → Int) : Contract DeliveryDatabase DeliveryLock where
  step a b := a.orders.Step b.orders
  agree
    | .order l, a, b => Agree hash l a.orders b.orders
    | .snapshot _, _, _ | .event _, _, _ => True
  step_refl db := Step.refl db.orders
  step_trans h h' := h.trans h'
  agree_refl l db := by
    cases l with
    | order l => exact (Database.isolation hash).agree_refl l db.orders
    | snapshot | event => exact True.intro
  agree_trans {l a b c} h h' := by
    cases l with
    | order l => exact (Database.isolation hash).agree_trans h h'
    | snapshot | event => exact True.intro

/-- What the tracking adapter promises: it adds the outbox rows whose entries it has locked. -/
def TrackingDatabase.isolation : Contract TrackingDatabase TrackingLock where
  step _ _ := True
  agree
    | .outbox id, a, b => a.outbox.get? id = b.outbox.get? id
    | .snapshot _, _, _ | .event _, _, _ => True
  step_refl _ := True.intro
  step_trans _ _ := True.intro
  agree_refl l db := by cases l <;> simp
  agree_trans {l a b c} h h' := by
    cases l with
    | outbox id => exact Eq.trans h h'
    | snapshot | event => exact True.intro

section

variable (hash : String → Int)

theorem orderTables_respects : orderTables.Respects (Database.isolation hash) (DeliveryDatabase.isolation hash) := by
  refine ⟨fun env => ⟨env.1, fun l hl => ?_⟩, fun covers l outside db => ?_⟩
  · exact env.2 (.order l) (List.mem_map_of_mem hl)
  · cases l with
    | order l => exact covers l (fun hl => outside (List.mem_map_of_mem hl)) db.orders
    | snapshot | event => exact True.intro

variable {hash} in
theorem agree_of_outbox {l : Lock} (other : ∀ id, l ≠ .outbox id) (db : Database) (outbox : Table OutboxRow.id) :
    Agree hash l db { db with outbox } := by
  cases l with
  | outbox id => exact absurd rfl (other id)
  | order => exact ⟨rfl, rfl⟩
  | advisory k => exact fun _ _ => rfl
  | assignment | activeOrder | activeCourier | history | historyVersion | idempotency => rfl

theorem trackingTables_respects :
    trackingTables.Respects TrackingDatabase.isolation (DeliveryDatabase.isolation hash) := by
  refine ⟨fun {held a b} env => ⟨True.intro, fun l hl => ?_⟩, fun {held write} covers l outside db => ?_⟩
  · have agree := env.2 l.shared (List.mem_map_of_mem hl)
    cases l with
    | outbox id => exact agree
    | snapshot | event => exact True.intro
  · cases l with
    | snapshot | event => exact True.intro
    | order l =>
      by_cases outboxLock : ∃ id, l = .outbox id
      · obtain ⟨id, rfl⟩ := outboxLock
        exact covers (.outbox id) (fun hl => outside (List.mem_map.mpr ⟨_, hl, rfl⟩)) db.tracking
      · exact agree_of_outbox (fun id same => outboxLock ⟨id, same⟩) db.orders _

/-- How `record` ends: an accepted report writes a row with its status, a repeated one writes nothing. -/
def RecordEnds (report : PositionReport) : Prog.Ending TrackingDatabase TrackingLock Error (TrackingSnapshot × Bool) :=
  fun r _ write _ => match r with
    | .ok (_, true) => ∃ (row : TrackingSnapshotRow) (message : OutboxRow), row.orderId = report.orderId ∧
        row.orderStatus = report.status ∧ write = TrackingDatabase.addOutbox message ∘ TrackingDatabase.putSnapshot row
    | .ok (_, false) => write = id
    | .error _ => True

theorem upsertedRow_columns {db : TrackingDatabase} {report : PositionReport} {row : TrackingSnapshotRow}
    (h : upsertedRow db report = some row) : row.orderId = report.orderId ∧ row.orderStatus = report.status := by
  unfold upsertedRow at h
  split at h
  next =>
    obtain rfl := Option.some.inj h
    exact ⟨rfl, rfl⟩
  next old found =>
    split at h
    next =>
      have key : old.orderId = report.orderId := Table.key_of_get? found
      obtain rfl := Option.some.inj h
      exact ⟨key, rfl⟩
    next => cases h

theorem covers_putSnapshot (held : List TrackingLock) (row : TrackingSnapshotRow) :
    TrackingDatabase.isolation.Covers held (TrackingDatabase.putSnapshot row) := by
  intro l _ db
  cases l with
  | outbox id => rfl
  | snapshot | event => exact True.intro

theorem covers_addMessage {held : List TrackingLock} {row : OutboxRow} (h : .outbox row.id ∈ held) :
    TrackingDatabase.isolation.Covers held (TrackingDatabase.addOutbox row) := by
  intro l outside db
  cases l with
  | outbox id =>
    have other : id ≠ row.id := by
      rintro rfl
      exact outside h
    exact (Table.get?_insert_of_ne _ _ other).symm
  | snapshot | event => exact True.intro

theorem wp_record (report : PositionReport) (db : TrackingDatabase) :
    Prog.wp TrackingDatabase.isolation (RecordEnds report) (record report) [] id db := by
  refine Prog.wp_bind (Prog.wp_perform fun start now locked _ _ _ => ?_)
  simp only [upsert]
  cases written : upsertedRow (id now) report with
  | none =>
    refine ⟨fun l _ db => Contract.agree_refl _ l db, fun later _ => ?_⟩
    refine Prog.wp_bind (Prog.wp_read (fun _ _ _ => rfl) fun start later _ _ => ?_)
    dsimp only
    split
    next => exact fun _ _ => True.intro
    next => exact fun _ _ => rfl
  | some row =>
    obtain ⟨order, status⟩ := upsertedRow_columns written
    simp only
    split_ifs with taken
    · exact fun _ _ => True.intro
    · refine ⟨covers_putSnapshot _ _, fun later _ => ?_⟩
      refine Prog.wp_bind (Prog.wp_perform fun start now locked _ _ _ => ?_)
      simp only [SqlAlchemyTrackingSnapshotRepository.insertOutbox]
      split
      next finished ran =>
        split at ran
        next => cases ran
        next =>
          obtain rfl := Except.ok.inj ran
          refine ⟨covers_addMessage (by simp), fun later _ last _ => ?_⟩
          exact ⟨row, _, order, status, rfl⟩
      next => exact fun _ _ => True.intro

/-- The order that a session without writes has read had its status at some moment since which everybody has
kept the contract. -/
def ReadSince (C : Contract Database Lock) (orderId : UUID) : Prog.Ending Database Lock Error DeliveryOrder :=
  fun r held write later => held = [] ∧ write = id ∧ ∀ order, r = .ok order → order.id = orderId ∧
    ∃ base, statusOf orderId base = some order.status ∧ C.step base later

theorem wp_getOrder {γ : Type} (observe : Database → γ) (orderId : UUID) (db : Database) :
    Prog.wp ((Database.isolation hash).keeping observe) (ReadSince ((Database.isolation hash).keeping observe) orderId)
      (OrderService.get (sqlAlchemyOrderRepository hash) orderId) [] id db := by
  refine Prog.wp_bind (Prog.wp_bind (Prog.wp_read (fun _ _ _ => rfl) fun start middle _ during => ?_))
  cases found : start.orders.get? orderId with
  | none =>
    simp only [id, found]
    exact fun _ _ _ _ => ⟨rfl, rfl, fun order answered => by cases answered⟩
  | some row =>
    simp only [id, found]
    refine Prog.wp_bind (Prog.wp_read (fun _ _ _ => rfl) fun start' later before' during' => ?_)
    intro last after end' further
    refine ⟨rfl, rfl, fun order answered => ?_⟩
    obtain rfl := Except.ok.inj answered
    obtain rfl := Table.key_of_get? found
    have status : statusOf row.id start = some row.status := by rw [statusOf, found, Option.map_some]
    exact ⟨rfl, start, status, (during.trans (before'.trans (during'.trans (after.trans further)))).1⟩

end

section

variable {folding : PyText.CaseFolding}

/-- How the jobs end when they commit: an order endpoint does what one of the use cases does, and a position
report has read an active status, since when everybody has kept the contract. -/
def deliverySpec (sha256 : String → String) (C : DeliveryJob folding → Contract Database Lock)
    (job : DeliveryJob folding) : Prog.Ending DeliveryDatabase DeliveryLock Error DeliveryAnswer :=
  fun r _ write db => match job, r with
    | .order _, .ok _ => (write db).snapshots = db.snapshots ∧
        ∃ useCase answer, SqlEffect folding sha256 useCase answer db.orders (write db).orders
    | .record request, .ok (.position _ (some _)) =>
        ∃ (base : Database) (status : OrderStatus) (row : TrackingSnapshotRow) (message : OutboxRow),
          statusOf request.orderId base = some status ∧ (status = .assigned ∨ status = .pickedUp) ∧
          (C job).step base db.orders ∧ row.orderId = request.orderId ∧ row.orderStatus = status.value ∧
          write db = ⟨addOutbox message db.orders, db.snapshots.put row⟩
    | .record _, .ok (.position _ none) => write db = db
    | .record _, .ok (.order _) => False
    | _, .error _ => True

end

section

variable {folding : PyText.CaseFolding} {hash : String → Int} {sha256 : String → String}

/-- An endpoint that commits does what a use case does. -/
def UseCaseEnds {α : Type} (folding : PyText.CaseFolding) (sha256 : String → String) :
    Prog.Ending Database Lock Error α :=
  fun r _ write db => match r with
    | .ok _ => ∃ useCase answer, SqlEffect folding sha256 useCase answer db (write db)
    | .error _ => True

theorem wp_useCase (op : OrderOp) (gen : Generated) (db : Database) :
    Prog.wp (Database.isolation hash) (UseCaseEnds folding sha256)
      (op.run (sqlAlchemyOrderRepository hash) folding sha256 gen) [] id db := by
  refine Prog.wp_mono (sqlSpec_verified (.call ⟨gen, op⟩) db) fun r _ _ _ ends => ?_
  cases r with
  | error e => exact True.intro
  | ok answer => exact ⟨_, answer, ends⟩

theorem wp_of_some {α : Type} {p : Sql α} {db : Database}
    (h : Prog.wp (Database.isolation hash) (UseCaseEnds folding sha256) (some <$> p) [] id db) :
    Prog.wp (Database.isolation hash) (UseCaseEnds folding sha256) p [] id db := by
  refine Prog.wp_mono (Prog.wp_of_map h) fun r _ _ _ ends => ?_
  cases r with
  | error e => exact True.intro
  | ok a => exact ends

theorem wp_answer {α β : Type} {p : Sql α} {f : α → Sql β} {db : Database} (g : α → β) (same : ∀ a, f a = pure (g a))
    (h : Prog.wp (Database.isolation hash) (UseCaseEnds folding sha256) p [] id db) :
    Prog.wp (Database.isolation hash) (UseCaseEnds folding sha256) (p >>= f) [] id db := by
  rw [funext same, bind_pure_comp]
  refine Prog.wp_map (Prog.wp_mono h fun r _ _ _ ends => ?_)
  cases r with
  | error e => exact True.intro
  | ok a => exact ends

theorem wp_checked {α : Type} {orderId : UUID} {f : DeliveryOrder → Sql α} {post : Prog.Ending Database Lock Error α}
    {db : Database} (refused : ∀ e held write later, post (.error e) held write later)
    (next : ∀ order later, Prog.wp (Database.isolation hash) post (f order) [] id later) :
    Prog.wp (Database.isolation hash) post (OrderService.get (sqlAlchemyOrderRepository hash) orderId >>= f) []
      id db := by
  refine Prog.wp_bind (Prog.wp_bind (wp_get fun answer later _ _ => ?_))
  cases answer with
  | none => exact fun last _ => refused _ _ _ last
  | some order => exact fun last _ => next order last

variable (sha256) in
theorem wp_orderEndpoint (call : OrderHttpCall folding) (db : Database) :
    Prog.wp (Database.isolation hash) (UseCaseEnds folding sha256)
      (call.run (sqlAlchemyOrderRepository hash) sha256) [] id db := by
  obtain ⟨actor, gen, request⟩ := call
  cases request with
  | createOrder command key =>
    simp only [OrderHttpCall.run, createOrder]
    split_ifs
    · exact fun _ _ => True.intro
    · exact wp_answer _ (fun _ => rfl) (wp_of_some (wp_useCase (.create _ _ _) gen db))
  | updateOrder orderId command version =>
    refine wp_checked (fun _ _ _ _ => True.intro) fun order later => ?_
    dsimp only
    split_ifs with owned
    · exact wp_answer _ (fun _ => rfl) (wp_of_some (wp_useCase (.update _ _ _) gen later))
    · exact fun _ _ => True.intro
  | transitionOrder orderId status version correlationId =>
    refine wp_checked (fun _ _ _ _ => True.intro) fun order later => ?_
    dsimp only
    split_ifs with owned customer
    · exact fun _ _ => True.intro
    · exact wp_answer _ (fun _ => rfl) (wp_of_some (wp_useCase (.transition _ _) gen later))
    · exact fun _ _ => True.intro
  | claimNextOrder correlationId =>
    simp only [OrderHttpCall.run, claimNextOrder]
    split_ifs
    · exact fun _ _ => True.intro
    · refine wp_answer (fun claimed => claimed.elim .noContent fun order => .order (.ofOrder order)) (fun claimed => ?_)
        (wp_useCase (.claimNext _ _ _) gen db)
      cases claimed with
      | none => rfl
      | some order => rfl

theorem wp_recordTrackingPosition {γ : Type} (observe : DeliveryJob folding → Database → γ) (request : TrackingRequest)
    (db : DeliveryDatabase) :
    Prog.wp ((DeliveryDatabase.isolation hash).keeping (observe (.record request) ∘ orders))
      (deliverySpec sha256 (fun job => (Database.isolation hash).keeping (observe job)) (.record request))
      (recordTrackingPosition hash request) [] id db := by
  have read := Prog.wp_within ((orderTables_respects hash).observing (observe (.record request)))
    (Contract.step_refl _ db) (wp_getOrder hash (observe (.record request)) request.orderId db.orders)
  rw [orderTables.lift_id] at read
  refine Prog.wp_bind (Prog.wp_mono read ?_)
  rintro r _ _ later ⟨_, held, write, rfl, rfl, rfl, rfl, answered⟩
  cases r with
  | error e => exact True.intro
  | ok order =>
    obtain ⟨own, base, status, since⟩ := answered order rfl
    dsimp only
    split_ifs with denied inactive
    · exact fun _ _ => True.intro
    · exact fun _ _ => True.intro
    · have active : order.status = .assigned ∨ order.status = .pickedUp := by
        by_contra other
        exact inactive (not_or.mp other)
      have recorded := Prog.wp_within
        ((trackingTables_respects hash).keeping (observe (.record request) ∘ orders))
        (Contract.step_refl _ later) (wp_record (request.report order) later.tracking)
      rw [trackingTables.lift_id] at recorded
      refine Prog.wp_bind (Prog.wp_tryCatch (Prog.wp_mono recorded ?_))
      rintro answer _ _ last ⟨kept, held, write, rfl, rfl, ends⟩
      cases answer with
      | error e =>
        dsimp only
        split
        next => exact fun _ _ => True.intro
        next => exact fun _ _ => True.intro
      | ok outcome =>
        obtain ⟨snapshot, changed⟩ := outcome
        cases changed with
        | false =>
          intro last' _
          change trackingTables.lift write last' = last'
          rw [show write = id from ends, trackingTables.lift_id]
          rfl
        | true =>
          obtain ⟨row, message, key, column, rfl⟩ := ends
          intro last' env
          have order' : row.orderId = request.orderId := key.trans own
          exact ⟨base, order.status, row, message, status, active, Contract.step_trans _ since
            (Contract.step_trans _ kept env.1), order', column, rfl⟩

theorem deliverySpec_verified {γ : Type} (observe : DeliveryJob folding → Database → γ) (job : DeliveryJob folding)
    (db : DeliveryDatabase) :
    Prog.wp ((DeliveryDatabase.isolation hash).keeping (observe job ∘ orders))
      (deliverySpec sha256 (fun job => (Database.isolation hash).keeping (observe job)) job)
      (job.program hash sha256) [] id db := by
  cases job with
  | record request => exact wp_recordTrackingPosition observe request db
  | order call =>
    have ran := Prog.wp_within ((orderTables_respects hash).keeping (observe (.order call) ∘ orders))
      (Contract.step_refl _ db) (wp_orderEndpoint sha256 call db.orders)
    rw [orderTables.lift_id] at ran
    refine Prog.wp_map (Prog.wp_mono ran ?_)
    rintro r _ _ later ⟨_, held, write, rfl, rfl, ends⟩
    cases r with
    | error e => exact True.intro
    | ok answer => exact ⟨rfl, ends⟩

theorem deliverySpec_step {C : DeliveryJob folding → Contract Database Lock} {job : DeliveryJob folding}
    {answer : DeliveryAnswer} {held : List DeliveryLock} {write : DeliveryDatabase → DeliveryDatabase}
    {db : DeliveryDatabase} (h : deliverySpec sha256 C job (.ok answer) held write db) :
    db.orders.Step (write db).orders := by
  cases job with
  | order call =>
    obtain ⟨_, useCase, answer, effect⟩ := h
    exact effect.step
  | record request =>
    cases answer with
    | order answer => exact h.elim
    | position read published =>
      cases published with
      | none =>
        rw [show write db = db from h]
        exact Step.refl _
      | some event =>
        obtain ⟨_, _, row, message, _, _, _, _, _, written⟩ := h
        rw [written]
        exact ⟨fun _ row found => ⟨row, found, .inl ⟨rfl, rfl⟩⟩, fun _ _ found => found, fun _ _ found => found⟩

end

end DeliveryService
