import DeliveryService.Commands
import DeliveryService.Events

universe u

namespace DeliveryService

/-- What one request draws from `uuid4()` and from the clocks. -/
structure Generated where
  orderId : UUID
  eventId : UUID
  assignmentId : UUID
  now : Datetime
  recordedAt : Datetime
deriving DecidableEq

/-- Draws for runs on fixed inputs: ids from a number, the clocks at a fixed instant. -/
def Generated.numbered (id : UUID) : Generated where
  orderId := id
  eventId := id
  assignmentId := id
  now := ⟨2026, 1, 1, 0, 0, 0, 0, 0, by decide⟩
  recordedAt := ⟨2026, 1, 1, 0, 0, 0, 0, 0, by decide⟩

/-- The repository port that the order use cases run against. -/
structure OrderRepository (m : Type → Type u) where
  add : DeliveryOrder → m Unit
  get : UUID → m (Option DeliveryOrder)
  save : (order : DeliveryOrder) → (expectedVersion : Int) → Generated → m Unit
  saveTransition : (order : DeliveryOrder) → (expectedVersion : Int) → (event : OrderStatusChanged) →
    Generated → m Unit
  claimNextCreatedOrder : (courierId tenantId : UUID) → (occurredAt : Datetime) →
    (correlationId : String) → Generated → m (Option DeliveryOrder)
  idempotentOrder : (scope requestFingerprint : String) → m (Option DeliveryOrder)
  rememberIdempotency : (scope requestFingerprint : String) → DeliveryOrder → Generated → m Unit
  recordCreatedEvent : OrderCreated → m Unit

namespace OrderService

section

variable {m : Type → Type u} [Monad m] [MonadExcept Error m] (repository : OrderRepository m)
  (folding : PyText.CaseFolding) (sha256 : String → String)

/-- The first part of `create`: look up what a non-empty key was used for. -/
def replay (command : CreateOrderCommand) (idempotencyKey : Option String) (tenantId : UUID) :
    m (Option (String × String) × Option DeliveryOrder) :=
  match idempotencyKey with
  | none => pure (none, none)
  | some key =>
    if key = "" then pure (none, none)
    else do
      let scope := idempotencyScope tenantId command.customerId key
      let requestFingerprint := sha256 command.canonicalRequest
      let existing ← repository.idempotentOrder scope requestFingerprint
      pure (some (scope, requestFingerprint), existing)

def create (command : CreateOrderCommand) (idempotencyKey : Option String) (tenantId : UUID)
    (gen : Generated) : m DeliveryOrder := do
  let (record, existing) ← replay repository sha256 command idempotencyKey tenantId
  match existing with
  | some order => pure order
  | none =>
    let order ← MonadExcept.ofExcept (DeliveryOrder.create gen.orderId tenantId command.customerId
      command.pickupAddress command.destinationAddress command.weightGrams gen.now)
    repository.add order
    repository.recordCreatedEvent (OrderCreated.fromOrder gen.eventId order)
    match record with
    | some (scope, requestFingerprint) => repository.rememberIdempotency scope requestFingerprint order gen
    | none => pure ()
    pure order

def get (orderId : UUID) : m DeliveryOrder := do
  match ← repository.get orderId with
  | none => throw (.orderNotFound orderId)
  | some order => pure order

def assign (orderId courierId : UUID) (gen : Generated) : m DeliveryOrder := do
  let current ← get repository orderId
  let updated ← MonadExcept.ofExcept (current.assign courierId)
  let event ← MonadExcept.ofExcept (OrderStatusChanged.fromTransition gen.eventId current updated
    courierId "courier" gen.now "assignment")
  repository.saveTransition updated current.version event gen
  pure updated

def claimNext (courierId tenantId : UUID) (correlationId : String) (gen : Generated) :
    m (Option DeliveryOrder) :=
  repository.claimNextCreatedOrder courierId tenantId gen.now correlationId gen

def update (orderId : UUID) (command : UpdateOrderCommand) (expectedVersion : Int) (gen : Generated) :
    m DeliveryOrder := do
  let current ← get repository orderId
  if current.version ≠ expectedVersion then throw (.concurrentUpdate "optimistic version conflict")
  else
    let updated ← MonadExcept.ofExcept (current.updateDetails folding command)
    repository.save updated expectedVersion gen
    pure updated

def transition (orderId : UUID) (command : TransitionOrderCommand) (gen : Generated) :
    m DeliveryOrder := do
  let current ← get repository orderId
  if current.version ≠ command.expectedVersion then
    throw (.concurrentUpdate "optimistic version conflict")
  else
    let updated ← MonadExcept.ofExcept (current.transition command.target)
    let event ← MonadExcept.ofExcept (OrderStatusChanged.fromTransition gen.eventId current updated
      command.actorId command.actorRole gen.now command.correlationId)
    repository.saveTransition updated command.expectedVersion event gen
    pure updated

end

end OrderService

/-- A call of one of the order use cases. -/
inductive OrderOp
  | create (command : CreateOrderCommand) (idempotencyKey : Option String) (tenantId : UUID)
  | assign (orderId courierId : UUID)
  | claimNext (courierId tenantId : UUID) (correlationId : String)
  | update (orderId : UUID) (command : UpdateOrderCommand) (expectedVersion : Int)
  | transition (orderId : UUID) (command : TransitionOrderCommand)
deriving DecidableEq

/-- Run one call; every use case but an empty-handed claim answers with an order. -/
def OrderOp.run {m : Type → Type u} [Monad m] [MonadExcept Error m] (repository : OrderRepository m)
    (folding : PyText.CaseFolding) (sha256 : String → String) (gen : Generated) :
    OrderOp → m (Option DeliveryOrder)
  | .create command key tenantId =>
    some <$> OrderService.create repository sha256 command key tenantId gen
  | .assign orderId courierId => some <$> OrderService.assign repository orderId courierId gen
  | .claimNext courierId tenantId correlationId =>
    OrderService.claimNext repository courierId tenantId correlationId gen
  | .update orderId command expectedVersion =>
    some <$> OrderService.update repository folding orderId command expectedVersion gen
  | .transition orderId command => some <$> OrderService.transition repository orderId command gen

/-- A call together with what it draws. -/
structure OrderCall where
  gen : Generated
  op : OrderOp
deriving DecidableEq

end DeliveryService
