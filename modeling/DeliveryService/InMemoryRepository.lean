import DeliveryService.Dict
import DeliveryService.InPlace
import DeliveryService.Ports
import Mathlib.Data.List.Sort
import Mathlib.Data.Prod.Lex

namespace DeliveryService

/-- The in-memory adapter; every order is stored under its own id. -/
structure InMemoryOrderRepository where
  orders : Dict UUID DeliveryOrder
  idempotency : Dict String (String × DeliveryOrder)
  outbox : List Payload
  transitionHistory : List OrderStatusChanged
  keyed : ∀ id order, orders.get? id = some order → order.id = id

/-- Calls of the adapter change its state in place, so what was written before an exception stays. -/
abbrev InMemory := InPlace Error InMemoryOrderRepository

namespace InMemoryOrderRepository

def empty : InMemoryOrderRepository := ⟨.empty, .empty, [], [], by simp⟩

/-- `self._orders[order.id] = order` -/
def put (s : InMemoryOrderRepository) (order : DeliveryOrder) : InMemoryOrderRepository :=
  { s with
    orders := s.orders.set order.id order
    keyed := by
      intro id stored h
      rw [Dict.get?_set] at h
      split at h
      next same => rw [← Option.some.inj h, same]
      next => exact s.keyed id stored h }

def appendTransition (s : InMemoryOrderRepository) (event : OrderStatusChanged) : InMemoryOrderRepository :=
  { s with
    transitionHistory := s.transitionHistory ++ [event]
    outbox := s.outbox ++ [event.integrationPayload] }

theorem get?_put (s : InMemoryOrderRepository) (order : DeliveryOrder) (id : UUID) :
    (s.put order).orders.get? id = if id = order.id then some order else s.orders.get? id :=
  Dict.get?_set _ _ _ _

@[simp]
theorem orders_appendTransition (s : InMemoryOrderRepository) (event : OrderStatusChanged) :
    (s.appendTransition event).orders = s.orders := rfl

def add (order : DeliveryOrder) : InMemory Unit := modify fun s => s.put order

def get (orderId : UUID) : InMemory (Option DeliveryOrder) := do
  return (← getThe InMemoryOrderRepository).orders.get? orderId

def save (order : DeliveryOrder) (expectedVersion : Int) : InMemory Unit := do
  let s ← getThe InMemoryOrderRepository
  if (s.orders.get? order.id).map DeliveryOrder.version ≠ some expectedVersion then
    throw (.concurrentUpdate "optimistic version conflict")
  else if order.version ≠ expectedVersion + 1 then
    throw (.valueError "domain state must advance version exactly once")
  else set (s.put order)

def saveTransition (order : DeliveryOrder) (expectedVersion : Int) (event : OrderStatusChanged) :
    InMemory Unit := do
  if event.orderId ≠ order.id ∨ event.orderVersion ≠ order.version then
    throw (.valueError "transition event does not describe the persisted order")
  else
    save order expectedVersion
    modify fun s => s.appendTransition event

/-- Whether the courier has an order of the tenant in status `assigned` or `picked_up`. -/
def busy (s : InMemoryOrderRepository) (courierId tenantId : UUID) : Bool :=
  s.orders.values.any fun order => order.tenantId = tenantId && order.courierId = some courierId &&
    (order.status = .assigned || order.status = .pickedUp)

/-- The queue order: by creation time, then by id. -/
def queueKey (order : DeliveryOrder) : ℤ ×ₗ UUID := toLex (order.createdAt.instant, order.id)

def candidates (s : InMemoryOrderRepository) (tenantId : UUID) : List DeliveryOrder :=
  (s.orders.values.filter fun order => order.tenantId = tenantId && order.status = .created).insertionSort
    (fun a b => queueKey a ≤ queueKey b)

def claimNextCreatedOrder (courierId tenantId : UUID) (occurredAt : Datetime) (correlationId : String)
    (gen : Generated) : InMemory (Option DeliveryOrder) := do
  let s ← getThe InMemoryOrderRepository
  if s.busy courierId tenantId then
    throw (.courierAlreadyBusy "courier already has an active assignment")
  else
    match s.candidates tenantId with
    | [] => pure none
    | before :: _ =>
      let claimed ← MonadExcept.ofExcept (before.assign courierId)
      modify fun s => s.put claimed
      let event ← MonadExcept.ofExcept (OrderStatusChanged.fromTransition gen.eventId before claimed
        courierId "courier" occurredAt correlationId)
      modify fun s => s.appendTransition event
      pure (some claimed)

def idempotentOrder (scope requestFingerprint : String) : InMemory (Option DeliveryOrder) := do
  match (← getThe InMemoryOrderRepository).idempotency.get? scope with
  | none => pure none
  | some (savedFingerprint, responseSnapshot) =>
    if savedFingerprint ≠ requestFingerprint then
      throw (.idempotencyConflict "idempotency key was already used for another request")
    else pure (some responseSnapshot)

def rememberIdempotency (scope requestFingerprint : String) (order : DeliveryOrder) : InMemory Unit :=
  modify fun s => { s with idempotency := s.idempotency.set scope (requestFingerprint, order) }

def recordCreatedEvent (event : OrderCreated) : InMemory Unit :=
  modify fun s => { s with outbox := s.outbox ++ [event.integrationPayload] }

end InMemoryOrderRepository

def inMemoryOrderRepository : OrderRepository InMemory where
  add := InMemoryOrderRepository.add
  get := InMemoryOrderRepository.get
  save order expectedVersion _ := InMemoryOrderRepository.save order expectedVersion
  saveTransition order expectedVersion event _ :=
    InMemoryOrderRepository.saveTransition order expectedVersion event
  claimNextCreatedOrder := InMemoryOrderRepository.claimNextCreatedOrder
  idempotentOrder := InMemoryOrderRepository.idempotentOrder
  rememberIdempotency scope fingerprint order _ :=
    InMemoryOrderRepository.rememberIdempotency scope fingerprint order
  recordCreatedEvent := InMemoryOrderRepository.recordCreatedEvent

/-- One call against the in-memory adapter: its result and the state it leaves. -/
def OrderOp.exec (folding : PyText.CaseFolding) (sha256 : String → String) (s : InMemoryOrderRepository)
    (gen : Generated) (op : OrderOp) : Except Error (Option DeliveryOrder) × InMemoryOrderRepository :=
  InPlace.exec (op.run inMemoryOrderRepository folding sha256 gen) s

namespace OrderCall

variable (folding : PyText.CaseFolding) (sha256 : String → String)

def result (call : OrderCall) (s : InMemoryOrderRepository) : Except Error (Option DeliveryOrder) :=
  (call.op.exec folding sha256 s call.gen).1

def after (s : InMemoryOrderRepository) (call : OrderCall) : InMemoryOrderRepository :=
  (call.op.exec folding sha256 s call.gen).2

end OrderCall

/-- Calls do not interleave: the adapter never gives up the event loop inside one. -/
def OrderStep (folding : PyText.CaseFolding) (sha256 : String → String) (s : InMemoryOrderRepository)
    (call : OrderCall) (s' : InMemoryOrderRepository) : Prop :=
  s' = call.after folding sha256 s

theorem orderStep_after (folding : PyText.CaseFolding) (sha256 : String → String)
    (s : InMemoryOrderRepository) (call : OrderCall) :
    OrderStep folding sha256 s call (call.after folding sha256 s) := rfl

end DeliveryService
