import DeliveryService.Domain
import DeliveryService.PyJson

namespace DeliveryService

/-- The JSON values that integration payloads hold. -/
inductive JsonValue
  | null
  | int (n : Int)
  | float (x : PyJson.PyFloat)
  | str (text : String)
deriving DecidableEq

abbrev Payload := List (String × JsonValue)

def Payload.get? (payload : Payload) (name : String) : Option JsonValue :=
  (payload.find? fun field => field.1 = name).map Prod.snd

structure OrderCreated where
  eventId : UUID
  orderId : UUID
  customerId : UUID
  tenantId : UUID
  occurredAt : Datetime
  orderVersion : Int
deriving DecidableEq

def OrderCreated.fromOrder (eventId : UUID) (order : DeliveryOrder) : OrderCreated where
  eventId := eventId
  orderId := order.id
  customerId := order.customerId
  tenantId := order.tenantId
  occurredAt := order.createdAt
  orderVersion := order.version

def OrderCreated.integrationPayload (event : OrderCreated) : Payload :=
  [("schema_version", .int 1), ("event_id", .str event.eventId.str), ("event_type", .str "order.created"),
    ("aggregate_id", .str event.orderId.str), ("aggregate_version", .int event.orderVersion),
    ("tenant_id", .str event.tenantId.str), ("customer_id", .str event.customerId.str),
    ("occurred_at", .str event.occurredAt.isoformat)]

structure OrderStatusChanged where
  eventId : UUID
  orderId : UUID
  tenantId : UUID
  fromStatus : OrderStatus
  toStatus : OrderStatus
  orderVersion : Int
  actorId : UUID
  actorRole : String
  occurredAt : Datetime
  correlationId : String
deriving DecidableEq

def OrderStatusChanged.fromTransition (eventId : UUID) (before after : DeliveryOrder) (actorId : UUID)
    (actorRole : String) (occurredAt : Datetime) (correlationId : String) :
    Except Error OrderStatusChanged :=
  if before.id ≠ after.id ∨ after.version ≠ before.version + 1 then
    .error (.valueError "transition event requires one aggregate version step")
  else if before.status = after.status then
    .error (.valueError "transition event requires a changed status")
  else .ok {
    eventId, orderId := after.id, tenantId := after.tenantId, fromStatus := before.status
    toStatus := after.status, orderVersion := after.version, actorId, actorRole, occurredAt, correlationId }

def OrderStatusChanged.integrationPayload (event : OrderStatusChanged) : Payload :=
  [("schema_version", .int 1), ("event_id", .str event.eventId.str),
    ("event_type", .str "order.status_changed"), ("aggregate_id", .str event.orderId.str),
    ("aggregate_version", .int event.orderVersion), ("tenant_id", .str event.tenantId.str),
    ("from_status", .str event.fromStatus.value), ("to_status", .str event.toStatus.value),
    ("actor_id", .str event.actorId.str), ("actor_role", .str event.actorRole),
    ("occurred_at", .str event.occurredAt.isoformat), ("correlation_id", .str event.correlationId)]

theorem allows_ne {current target : OrderStatus} (h : OrderStateMachine.allows current target = true) :
    current ≠ target := by
  revert h
  cases current <;> cases target <;> simp [OrderStateMachine.allows, allowedTransitions]

theorem fromTransition_ok {eventId actorId : UUID} {before after : DeliveryOrder} {actorRole : String}
    {occurredAt : Datetime} {correlationId : String} (hid : after.id = before.id)
    (hv : after.version = before.version + 1) (hs : before.status ≠ after.status) :
    OrderStatusChanged.fromTransition eventId before after actorId actorRole occurredAt correlationId =
      .ok { eventId, orderId := after.id, tenantId := after.tenantId, fromStatus := before.status
            toStatus := after.status, orderVersion := after.version, actorId, actorRole, occurredAt
            correlationId } := by
  simp [OrderStatusChanged.fromTransition, hid, hv, hs]

theorem fromTransition_describes {before after : DeliveryOrder} {eventId actorId : UUID}
    {actorRole correlationId : String} {occurredAt : Datetime} {event : OrderStatusChanged}
    (h : OrderStatusChanged.fromTransition eventId before after actorId actorRole occurredAt correlationId =
      .ok event) :
    event.orderId = before.id ∧ event.fromStatus = before.status ∧ event.toStatus = after.status ∧
      event.orderVersion = after.version := by
  unfold OrderStatusChanged.fromTransition at h
  split_ifs at h with unrelated unchanged
  obtain rfl := Except.ok.inj h
  rw [not_or, not_not] at unrelated
  exact ⟨unrelated.1.symm, rfl, rfl, rfl⟩

/-- The audit fact of one step of an order. -/
def statusEvent (eventId : UUID) (before after : DeliveryOrder) (actorId : UUID) (actorRole : String)
    (occurredAt : Datetime) (correlationId : String) : OrderStatusChanged where
  eventId := eventId
  orderId := before.id
  tenantId := before.tenantId
  fromStatus := before.status
  toStatus := after.status
  orderVersion := before.version + 1
  actorId := actorId
  actorRole := actorRole
  occurredAt := occurredAt
  correlationId := correlationId

theorem fromTransition_statusEvent {before after : DeliveryOrder} {eventId actorId : UUID}
    {actorRole correlationId : String} {occurredAt : Datetime} (hid : after.id = before.id)
    (ht : after.tenantId = before.tenantId) (hv : after.version = before.version + 1)
    (hs : before.status ≠ after.status) :
    OrderStatusChanged.fromTransition eventId before after actorId actorRole occurredAt correlationId =
      .ok (statusEvent eventId before after actorId actorRole occurredAt correlationId) := by
  rw [fromTransition_ok hid hv hs, hid, ht, hv]
  rfl

end DeliveryService
