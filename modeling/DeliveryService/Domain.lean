import DeliveryService.Access
import DeliveryService.Datetime

namespace DeliveryService

inductive OrderStatus
  | created
  | assigned
  | pickedUp
  | delivered
  | cancelled
deriving DecidableEq, Repr

def OrderStatus.value : OrderStatus → String
  | .created => "created"
  | .assigned => "assigned"
  | .pickedUp => "picked_up"
  | .delivered => "delivered"
  | .cancelled => "cancelled"

/-- `OrderStatus(text)`; `none` is its `ValueError`. -/
def OrderStatus.ofValue (text : String) : Option OrderStatus :=
  [OrderStatus.created, .assigned, .pickedUp, .delivered, .cancelled].find? (fun status => status.value = text)

def allowedTransitions : OrderStatus → List OrderStatus
  | .created => [.assigned, .cancelled]
  | .assigned => [.pickedUp, .cancelled]
  | .pickedUp => [.delivered]
  | .delivered => []
  | .cancelled => []

def OrderStateMachine.allows (current target : OrderStatus) : Bool :=
  target ∈ allowedTransitions current

theorem allows_created (current : OrderStatus) : OrderStateMachine.allows current .created = false := by
  cases current <;> rfl

/-- The exceptions that the order use cases and their adapters raise. -/
inductive Error
  | valueError (message : String)
  | invalidTransition (current target : OrderStatus)
  | orderNotFound (orderId : UUID)
  | concurrentUpdate (message : String)
  | courierAlreadyBusy (message : String)
  | idempotencyConflict (message : String)
  | runtimeError (message : String)
  | integrityError (constraint : String)
  | dataError (column : String)
  | staleData (table : String)
  | http (answer : HTTPException)
deriving DecidableEq

structure DeliveryOrder where
  id : UUID
  tenantId : UUID
  customerId : UUID
  pickupAddress : String
  destinationAddress : String
  weightGrams : Int
  status : OrderStatus
  courierId : Option UUID
  version : Int
  createdAt : Datetime
deriving DecidableEq

/-- The fields of an update that are set. -/
structure UpdateOrderCommand where
  pickupAddress : Option String := none
  destinationAddress : Option String := none
  weightGrams : Option Int := none
deriving DecidableEq

def weightError : Error := .valueError "weight_grams must be between 1 and 100000"

def addressError : Error := .valueError "pickup and destination addresses must differ"

namespace DeliveryOrder

def create (id tenantId customerId : UUID) (pickupAddress destinationAddress : String) (weightGrams : Int)
    (createdAt : Datetime) : Except Error DeliveryOrder :=
  if 0 < weightGrams ∧ weightGrams ≤ 100000 then
    .ok { id, tenantId, customerId, pickupAddress, destinationAddress, weightGrams, createdAt
          status := .created, courierId := none, version := 1 }
  else .error weightError

def transition (order : DeliveryOrder) (target : OrderStatus) : Except Error DeliveryOrder :=
  if OrderStateMachine.allows order.status target then
    .ok { order with status := target, version := order.version + 1 }
  else .error (.invalidTransition order.status target)

def assign (order : DeliveryOrder) (courierId : UUID) : Except Error DeliveryOrder := do
  let assigned ← order.transition .assigned
  pure { assigned with courierId := some courierId }

/-- `update_details`; the type of its changes leaves no unsupported field to reject. -/
def updateDetails (folding : PyText.CaseFolding) (order : DeliveryOrder) (changes : UpdateOrderCommand) :
    Except Error DeliveryOrder :=
  let updated := { order with
    pickupAddress := changes.pickupAddress.getD order.pickupAddress
    destinationAddress := changes.destinationAddress.getD order.destinationAddress
    weightGrams := changes.weightGrams.getD order.weightGrams
    version := order.version + 1 }
  if folding.casefold updated.pickupAddress.toList = folding.casefold updated.destinationAddress.toList then
    .error addressError
  else if 0 < updated.weightGrams ∧ updated.weightGrams ≤ 100000 then .ok updated
  else .error weightError

/-- The order after a successful transition. -/
def movedTo (order : DeliveryOrder) (target : OrderStatus) : DeliveryOrder :=
  { order with status := target, version := order.version + 1 }

/-- The order after a courier has taken it. -/
def takenBy (order : DeliveryOrder) (courierId : UUID) : DeliveryOrder :=
  { order.movedTo .assigned with courierId := some courierId }

theorem create_ok {id tenantId customerId : UUID} {pickupAddress destinationAddress : String} {weightGrams : Int}
    {createdAt : Datetime} {order : DeliveryOrder}
    (h : create id tenantId customerId pickupAddress destinationAddress weightGrams createdAt = .ok order) :
    order = { id, tenantId, customerId, pickupAddress, destinationAddress, weightGrams, createdAt
              status := .created, courierId := none, version := 1 } := by
  unfold create at h
  split_ifs at h
  exact (Except.ok.inj h).symm

theorem transition_ok {order after : DeliveryOrder} {target : OrderStatus}
    (h : order.transition target = .ok after) :
    OrderStateMachine.allows order.status target = true ∧ after = order.movedTo target := by
  unfold transition at h
  split at h
  next allowed => exact ⟨allowed, (Except.ok.inj h).symm⟩
  next => simp at h

theorem assign_ok {order after : DeliveryOrder} {courierId : UUID} (h : order.assign courierId = .ok after) :
    order.status = .created ∧ after = order.takenBy courierId := by
  unfold assign at h
  cases ht : order.transition .assigned with
  | error refused => simp [ht, bind, Except.bind] at h
  | ok assigned =>
    obtain ⟨allowed, rfl⟩ := transition_ok ht
    simp only [ht, bind, Except.bind] at h
    refine ⟨?_, (Except.ok.inj h).symm⟩
    revert allowed
    cases order.status <;> simp [OrderStateMachine.allows, allowedTransitions]

theorem assign_created {order : DeliveryOrder} (h : order.status = .created) (courierId : UUID) :
    order.assign courierId = .ok (order.takenBy courierId) := by
  simp [assign, transition, h, OrderStateMachine.allows, allowedTransitions, bind, Except.bind, pure,
    Except.pure, takenBy, movedTo]

/-- An accepted update changes addresses and weight and moves the version; nothing else. -/
theorem updateDetails_ok {folding : PyText.CaseFolding} {order after : DeliveryOrder}
    {changes : UpdateOrderCommand} (h : order.updateDetails folding changes = .ok after) :
    after = { order with
      pickupAddress := after.pickupAddress, destinationAddress := after.destinationAddress
      weightGrams := after.weightGrams, version := order.version + 1 } := by
  simp only [updateDetails] at h
  split_ifs at h
  rw [← Except.ok.inj h]

end DeliveryOrder

end DeliveryService
