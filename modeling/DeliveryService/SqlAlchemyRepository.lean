import DeliveryService.Database
import DeliveryService.Ports
import Mathlib.Data.List.Sort
import Mathlib.Data.Prod.Lex

namespace DeliveryService

abbrev Sql := Prog Database Lock Error

/-- The tests that a row has to pass, each with the error of the database when it fails. -/
abbrev Checks := List (Bool × Error)

def Checks.refusal (checks : Checks) : Option Error := (checks.find? fun check => !check.1).map Prod.snd

def fitsVarchar (limit : Nat) (text : String) : Bool :=
  text.toList.length ≤ limit && Char.ofNat 0 ∉ text.toList

def fitsInteger (n : Int) : Bool := -2 ^ 31 ≤ n && n < 2 ^ 31

def OrderRow.checks (row : OrderRow) : Checks :=
  [(fitsVarchar 300 row.pickupAddress, .dataError "pickup_address"),
    (fitsVarchar 300 row.destinationAddress, .dataError "destination_address"),
    (fitsInteger row.weightGrams, .dataError "weight_grams"), (fitsInteger row.version, .dataError "version"),
    (0 < row.weightGrams && row.weightGrams ≤ 100000, .integrityError "ck_order_weight"),
    (0 < row.version, .integrityError "ck_order_version")]

/-- The tests of a row of `order_transition_history`. -/
def OrderStatusChanged.checks (row : OrderStatusChanged) : Checks :=
  [(fitsInteger row.orderVersion, .dataError "order_version"),
    (fitsVarchar 32 row.actorRole, .dataError "actor_role"),
    (fitsVarchar 128 row.correlationId, .dataError "correlation_id"),
    (row.fromStatus ≠ row.toStatus, .integrityError "ck_transition_history_changed"),
    (1 < row.orderVersion, .integrityError "ck_transition_history_version")]

def IdempotencyRow.checks (row : IdempotencyRow) : Checks :=
  [(fitsVarchar 200 row.key, .dataError "key"), (fitsVarchar 100 row.operation, .dataError "operation")]

namespace SqlAlchemyOrderRepository

/-- An `INSERT`: the row passes its own tests and those against the newest data, and the entries that it
adds to the primary key and the unique indexes are locked. -/
def insertInto (own : Checks) (against : Database → Checks) (locks : List Lock)
    (write : Database → Database) : Statement Database Lock Error Unit :=
  fun _ _ current => match (own ++ against current).refusal with
    | some refusal => .error refusal
    | none => .ok { value := (), locks, write }

def insertOrder (row : OrderRow) : Statement Database Lock Error Unit :=
  insertInto row.checks
    (fun current => [(current.orders.get? row.id = none, .integrityError "delivery_order_pkey")])
    [.order row.id] (Database.addOrder row)

def insertAssignment (row : AssignmentRow) : Statement Database Lock Error Unit :=
  insertInto []
    (fun current =>
      [(current.assignments.get? row.id = none, .integrityError "courier_assignment_pkey"),
        (current.activeForOrder row.orderId = [], .integrityError "uq_active_assignment_order"),
        (current.activeForCourier row.courierId = [], .integrityError "uq_active_assignment_courier"),
        ((current.orders.get? row.orderId).isSome, .integrityError "fk_assignment_order")])
    [.assignment row.id, .activeOrder row.orderId, .activeCourier row.courierId] (Database.addAssignment row)

def insertHistory (row : OrderStatusChanged) : Statement Database Lock Error Unit :=
  insertInto row.checks
    (fun current =>
      [(current.history.get? row.eventId = none, .integrityError "order_transition_history_pkey"),
        (current.historyOf row.tenantId row.orderId row.orderVersion = [],
          .integrityError "ix_transition_history_order_version"),
        ((current.orders.get? row.orderId).isSome, .integrityError "fk_transition_history_order")])
    [.history row.eventId, .historyVersion row.tenantId row.orderId row.orderVersion] (Database.addHistory row)

def insertOutbox (row : OutboxRow) : Statement Database Lock Error Unit :=
  insertInto [(fitsVarchar 100 row.eventType, .dataError "event_type")]
    (fun current => [(current.outbox.get? row.id = none, .integrityError "outbox_pkey")])
    [.outbox row.id] (Database.addOutbox row)

def insertRecord (row : IdempotencyRow) : Statement Database Lock Error Unit :=
  insertInto row.checks
    (fun current => [(current.idempotency.get? row.key = none, .integrityError "idempotency_record_pkey")])
    [.idempotency row.key] (Database.addRecord row)

def selectOrder (orderId : UUID) : Statement Database Lock Error (Option OrderRow) :=
  fun _ snapshot _ => .ok { value := snapshot.orders.get? orderId }

/-- The second statement of `selectinload(OrderRow.assignments)`. -/
def selectAssignments (orderId : UUID) : Statement Database Lock Error (List AssignmentRow) :=
  fun _ snapshot _ => .ok { value := snapshot.assignmentsOf orderId }

def selectActiveAssignment (orderId : UUID) : Statement Database Lock Error (Option UUID) :=
  fun _ snapshot _ => .ok { value := (snapshot.activeForOrder orderId).head?.map AssignmentRow.id }

/-- The row with the columns that `save` sets. -/
def savedRow (row : OrderRow) (order : DeliveryOrder) : OrderRow :=
  { row with
    pickupAddress := order.pickupAddress, destinationAddress := order.destinationAddress
    weightGrams := order.weightGrams, status := order.status, version := row.version + 1 }

/-- `UPDATE ... WHERE id = :id AND version = :expected RETURNING version`: a row that the snapshot selects
is locked, and the condition is evaluated again on its newest version. -/
def updateOrder (order : DeliveryOrder) (expectedVersion : Int) :
    Statement Database Lock Error (Option Int) :=
  fun _ snapshot current =>
    let selected (db : Database) := (db.orders.get? order.id).filter fun row => row.version = expectedVersion
    match selected snapshot with
    | none => .ok { value := none }
    | some _ => match selected current with
      | none => .ok { value := none, locks := [.order order.id] }
      | some row => match (savedRow row order).checks.refusal with
        | some refusal => .error refusal
        | none => .ok {
            value := some (row.version + 1), locks := [.order order.id]
            write := Database.putOrder (savedRow row order) }

/-- The queue order: by creation time, then by id. -/
def queueKey (row : OrderRow) : ℤ ×ₗ UUID := toLex (row.createdAt.instant, row.id)

def isCandidate (tenantId : UUID) (row : OrderRow) : Bool := row.tenantId = tenantId && row.status = .created

/-- `SELECT ... ORDER BY created_at, id LIMIT 1 FOR UPDATE SKIP LOCKED`: the first row of the snapshot that
nobody else has locked and whose newest version still qualifies. -/
def selectNextCreated (tenantId : UUID) : Statement Database Lock Error (Option OrderRow) :=
  fun locked snapshot current =>
    let queue := (snapshot.orders.toList.filter (isCandidate tenantId)).insertionSort
      (fun a b => queueKey a ≤ queueKey b)
    let newest (row : OrderRow) : Option OrderRow :=
      if locked (.order row.id) then none else (current.orders.get? row.id).filter (isCandidate tenantId)
    match queue.findSome? newest with
    | none => .ok { value := none }
    | some row => .ok { value := some row, locks := [.order row.id] }

/-- The flush of the changed columns of a loaded order. -/
def flushOrder (orderId : UUID) (status : OrderStatus) (version : Int) : Statement Database Lock Error Unit :=
  fun _ _ current => match current.orders.get? orderId with
    | none => .error (.staleData "delivery_order")
    | some row => match { row with status, version }.checks.refusal with
      | some refusal => .error refusal
      | none => .ok {
          value := (), locks := [.order orderId]
          write := Database.putOrder { row with status, version } }

def lockAdvisory (key : Int) : Statement Database Lock Error Unit :=
  fun _ _ _ => .ok { value := (), locks := [.advisory key] }

def selectRecord (scope : String) : Statement Database Lock Error (Option IdempotencyRow) :=
  fun _ snapshot _ => .ok { value := snapshot.idempotency.get? scope }

def domain (row : OrderRow) (assignments : List AssignmentRow) : DeliveryOrder :=
  { id := row.id, tenantId := row.tenantId, customerId := row.customerId
    pickupAddress := row.pickupAddress, destinationAddress := row.destinationAddress
    weightGrams := row.weightGrams, status := row.status
    courierId := (assignments.find? fun row => row.active).map AssignmentRow.courierId
    version := row.version, createdAt := row.createdAt }

/-- `UUID(text)` -/
def uuidOf (text : String) : Except Error UUID :=
  match UUID.parse text.toList with
  | some id => .ok id
  | none => .error (.valueError "badly formed hexadecimal UUID string")

def responseSnapshot (order : DeliveryOrder) : ResponseSnapshot :=
  { id := order.id.str, tenantId := order.tenantId.str, customerId := order.customerId.str
    pickupAddress := order.pickupAddress, destinationAddress := order.destinationAddress
    weightGrams := order.weightGrams, status := order.status.value
    courierId := order.courierId.map UUID.str, version := order.version
    createdAt := order.createdAt.isoformat }

def domainFromSnapshot (payload : ResponseSnapshot) : Except Error DeliveryOrder := do
  let id ← uuidOf payload.id
  let tenantId ← uuidOf payload.tenantId
  let customerId ← uuidOf payload.customerId
  let status ← match OrderStatus.ofValue payload.status with
    | some status => .ok status
    | none => .error (.valueError (payload.status ++ " is not a valid OrderStatus"))
  let courierId ← match payload.courierId with
    | none => .ok none
    | some text => if text = "" then .ok none else some <$> uuidOf text
  let createdAt ← match Datetime.fromisoformat payload.createdAt with
    | some createdAt => .ok createdAt
    | none => .error (.valueError ("Invalid isoformat string: " ++ payload.createdAt))
  pure { id, tenantId, customerId, status, courierId, createdAt
         pickupAddress := payload.pickupAddress, destinationAddress := payload.destinationAddress
         weightGrams := payload.weightGrams, version := payload.version }

def rowOf (order : DeliveryOrder) : OrderRow :=
  { id := order.id, tenantId := order.tenantId, customerId := order.customerId
    pickupAddress := order.pickupAddress, destinationAddress := order.destinationAddress
    weightGrams := order.weightGrams, status := order.status, version := order.version
    createdAt := order.createdAt }

def statusChangedRow (event : OrderStatusChanged) : OutboxRow :=
  { id := event.eventId, eventType := "order.status_changed", payload := event.integrationPayload
    createdAt := event.occurredAt }

def createdRow (event : OrderCreated) : OutboxRow :=
  { id := event.eventId, eventType := "order.created", payload := event.integrationPayload
    createdAt := event.occurredAt }

def recordRow (scope requestFingerprint : String) (order : DeliveryOrder) (createdAt : Datetime) :
    IdempotencyRow :=
  { key := scope, operation := "create_order", resourceId := order.id, createdAt
    response := { requestFingerprint, statusCode := 201, response := some (responseSnapshot order) } }

def add (order : DeliveryOrder) : Sql Unit := .perform (insertOrder (rowOf order))

def get (orderId : UUID) : Sql (Option DeliveryOrder) := do
  match ← Prog.perform (selectOrder orderId) with
  | none => pure none
  | some row => do
    let assignments ← Prog.perform (selectAssignments row.id)
    pure (some (domain row assignments))

/-- The end of `save`: an order with a courier gets an assignment unless it has an active one. -/
def saveAssignment (order : DeliveryOrder) (gen : Generated) : Sql Unit :=
  match order.courierId with
  | none => pure ()
  | some courierId => do
    match ← Prog.perform (selectActiveAssignment order.id) with
    | some _ => pure ()
    | none => Prog.perform (insertAssignment { id := gen.assignmentId, orderId := order.id, courierId })

def save (order : DeliveryOrder) (expectedVersion : Int) (gen : Generated) : Sql Unit := do
  if order.version ≠ expectedVersion + 1 then
    throw (.valueError "domain state must advance version exactly once")
  else
    match ← Prog.perform (updateOrder order expectedVersion) with
    | none => throw (.concurrentUpdate "optimistic version conflict")
    | some persistedVersion =>
      if persistedVersion ≠ order.version then
        throw (.runtimeError "persisted version differs from domain state")
      else saveAssignment order gen

def saveTransition (order : DeliveryOrder) (expectedVersion : Int) (event : OrderStatusChanged)
    (gen : Generated) : Sql Unit := do
  if event.orderId ≠ order.id ∨ event.orderVersion ≠ order.version then
    throw (.valueError "transition event does not describe the persisted order")
  else
    save order expectedVersion gen
    Prog.perform (insertHistory event)
    Prog.perform (insertOutbox (statusChangedRow event))

/-- The flush of a claim. The unit of work of SQLAlchemy decides the order of the statements; assumed here is the
loaded order first, then the rows in the order they were added. -/
def flushClaim (claimed : DeliveryOrder) (assignment : AssignmentRow) (event : OrderStatusChanged) :
    Sql Unit := do
  Prog.perform (flushOrder claimed.id claimed.status claimed.version)
  Prog.perform (insertAssignment assignment)
  Prog.perform (insertHistory event)
  Prog.perform (insertOutbox (statusChangedRow event))

def courierBusy : Error := .courierAlreadyBusy "courier already has an active assignment"

def claimNextCreatedOrder (courierId tenantId : UUID) (occurredAt : Datetime) (correlationId : String)
    (gen : Generated) : Sql (Option DeliveryOrder) := do
  match ← Prog.perform (selectNextCreated tenantId) with
  | none => pure none
  | some row => do
    let before : DeliveryOrder := { domain row [] with status := .created }
    let claimed ← MonadExcept.ofExcept (before.assign courierId)
    let event ← MonadExcept.ofExcept (OrderStatusChanged.fromTransition gen.eventId before claimed
      courierId "courier" occurredAt correlationId)
    tryCatch (flushClaim claimed { id := gen.assignmentId, orderId := row.id, courierId } event) fun error =>
      if error = .integrityError "uq_active_assignment_courier" then throw courierBusy else throw error
    pure (some claimed)

/-- What `idempotent_order` makes of the record that it finds. -/
def replayRecord (requestFingerprint : String) (record : IdempotencyRow) : Except Error DeliveryOrder :=
  if record.response.requestFingerprint ≠ requestFingerprint then
    .error (.idempotencyConflict "idempotency key was already used for another request")
  else match record.response.response with
    | none => .error (.runtimeError "idempotency record has no response snapshot")
    | some response => domainFromSnapshot response

def idempotentOrder (hash : String → Int) (scope requestFingerprint : String) :
    Sql (Option DeliveryOrder) := do
  Prog.perform (lockAdvisory (hash scope))
  match ← Prog.perform (selectRecord scope) with
  | none => pure none
  | some record => some <$> MonadExcept.ofExcept (replayRecord requestFingerprint record)

def rememberIdempotency (scope requestFingerprint : String) (order : DeliveryOrder) (gen : Generated) :
    Sql Unit :=
  .perform (insertRecord (recordRow scope requestFingerprint order gen.recordedAt))

def recordCreatedEvent (event : OrderCreated) : Sql Unit := .perform (insertOutbox (createdRow event))

end SqlAlchemyOrderRepository

/-- The PostgreSQL adapter; `hash` is `hashtextextended(text, 0)`. -/
def sqlAlchemyOrderRepository (hash : String → Int) : OrderRepository Sql where
  add := SqlAlchemyOrderRepository.add
  get := SqlAlchemyOrderRepository.get
  save := SqlAlchemyOrderRepository.save
  saveTransition := SqlAlchemyOrderRepository.saveTransition
  claimNextCreatedOrder := SqlAlchemyOrderRepository.claimNextCreatedOrder
  idempotentOrder := SqlAlchemyOrderRepository.idempotentOrder hash
  rememberIdempotency := SqlAlchemyOrderRepository.rememberIdempotency
  recordCreatedEvent := SqlAlchemyOrderRepository.recordCreatedEvent

end DeliveryService
