import DeliveryService.Messaging

namespace DeliveryService

structure OutboxEvent where
  id : UUID
  eventType : String
  payload : Payload
deriving DecidableEq

/-- What the relay publishes of a row. -/
def OutboxRow.event (row : OutboxRow) : OutboxEvent := ⟨row.id, row.eventType, row.payload⟩

/-- `payload[name]` -/
def Payload.item (payload : Payload) (name : String) : Except MessageError JsonValue :=
  match payload.get? name with
  | some value => .ok value
  | none => .error (.keyError name)

/-- `bool(value)` -/
def JsonValue.truthy : JsonValue → Bool
  | .null => false
  | .int n => n ≠ 0
  | .float x => x ≠ .finite 0
  | .str text => text ≠ ""

/-- `UUID(str(value))`; the text of `None` and of a float is never one of a UUID. -/
def uuidOfValue (value : JsonValue) : Except MessageError UUID :=
  let parsed := match value with
    | .str text => UUID.parse text.toList
    | .int n => UUID.parse (toString n).toList
    | .null | .float _ => none
  match parsed with
  | some id => .ok id
  | none => .error (.valueError "badly formed hexadecimal UUID string")

structure ProviderReceipt where
  messageId : String
deriving DecidableEq

structure SendRequest where
  recipient : String
  message : String
  idempotencyKey : String
deriving DecidableEq

/-- How a call of `NotificationProvider.send` ends; a provider may accept the message and its answer get lost. -/
inductive Sending
  | received (receipt : ProviderReceipt)
  | lost (receipt : ProviderReceipt) (message : String)
  | refused (message : String)
deriving DecidableEq

abbrev Consumer := Script MessageDatabase MessageLock SendRequest Sending MessageError

def createdMessage (orderId : UUID) : String := "Order " ++ orderId.str ++ " was created"

open Script in
def consumeOrderCreatedOnce (notificationId : UUID) (processedAt : Datetime) (event : OutboxEvent) :
    Consumer Bool := do
  match ← perform (claimInbox ⟨event.id, event.eventType, processedAt⟩) with
  | none => pure false
  | some _ =>
    if event.eventType ≠ "order.created" then raise (.valueError "unsupported outbox event")
    else
      let orderId ← ofResult (event.payload.item "order_id" >>= uuidOfValue)
      perform (insertNotification {
        id := notificationId, eventId := event.id, orderId, message := createdMessage orderId })
      pure true

/-- The ids that `dispatch_order_created_notification_once` reads from an event before it claims it. -/
def orderCreatedIds (eventType : String) (payload : Payload) : Except MessageError (UUID × UUID × UUID) := do
  if eventType ≠ "order.created" then .error (.valueError "unsupported notification event")
  let orderId ← match (payload.get? "aggregate_id").filter JsonValue.truthy with
    | some value => uuidOfValue value
    | none => payload.item "order_id" >>= uuidOfValue
  let tenantId ← payload.item "tenant_id" >>= uuidOfValue
  let customerId ← payload.item "customer_id" >>= uuidOfValue
  pure (orderId, tenantId, customerId)

/-- One delivery of an event, with the id that the default of `NotificationRow` generates. -/
structure NotificationDelivery where
  notificationId : UUID
  eventId : UUID
  eventType : String
  payload : Payload
  now : Datetime
  channel : String := "email"

namespace NotificationDelivery

variable (delivery : NotificationDelivery)

def notification (orderId : UUID) (enabled : Bool) : NotificationRow where
  id := delivery.notificationId
  eventId := delivery.eventId
  orderId := orderId
  message := createdMessage orderId
  channel := delivery.channel
  status := if enabled then .pending else .skipped

def sentNotification (orderId : UUID) (receipt : ProviderReceipt) : NotificationRow :=
  { delivery.notification orderId true with
    status := .sent, providerMessageId := some receipt.messageId, sentAt := some delivery.now }

def sendRequest (orderId customerId : UUID) : SendRequest where
  recipient := customerId.str
  message := (delivery.notification orderId true).message
  idempotencyKey := delivery.eventId.str

end NotificationDelivery

open Script in
/-- The call of the provider and the flush of its receipt. -/
def NotificationDelivery.send (delivery : NotificationDelivery) (orderId customerId : UUID) : Consumer Bool := do
  match ← request (delivery.sendRequest orderId customerId) with
  | .received receipt =>
    perform (updateNotification (delivery.notification orderId true) (delivery.sentNotification orderId receipt))
    pure true
  | .lost _ message => raise (.outside message)
  | .refused message => raise (.outside message)

open Script in
/-- What follows the claim of an event. -/
def NotificationDelivery.apply (delivery : NotificationDelivery) (orderId tenantId customerId : UUID) :
    Consumer Bool := do
  let preference ← perform (selectPreference tenantId customerId delivery.channel)
  let enabled := preference.all NotificationPreferenceRow.enabled
  perform (insertNotification (delivery.notification orderId enabled))
  if enabled = false then pure true
  else delivery.send orderId customerId

open Script in
def dispatchOrderCreatedNotificationOnce (delivery : NotificationDelivery) : Consumer Bool := do
  let (orderId, tenantId, customerId) ← ofResult (orderCreatedIds delivery.eventType delivery.payload)
  match ← perform (claimInbox ⟨delivery.eventId, delivery.eventType, delivery.now⟩) with
  | none => pure false
  | some _ => delivery.apply orderId tenantId customerId

/-- The delivery that a stored event leads to. -/
def OutboxRow.delivery (row : OutboxRow) (notificationId : UUID) (now : Datetime) : NotificationDelivery where
  notificationId := notificationId
  eventId := row.id
  eventType := row.eventType
  payload := row.payload
  now := now

open Script in
def processNotificationEvent (notificationId : UUID) (now : Datetime) (eventId : UUID) : Consumer Bool := do
  match ← perform (getOutboxRow eventId) with
  | none => raise (.permanentNotification "outbox event does not exist")
  | some row => dispatchOrderCreatedNotificationOnce (row.delivery notificationId now)

structure InMemoryIdempotentNotificationProvider where
  receipts : Dict String ProviderReceipt := .empty
  attempts : List String := []

namespace InMemoryIdempotentNotificationProvider

def send (request : SendRequest) (provider : InMemoryIdempotentNotificationProvider) :
    Sending × InMemoryIdempotentNotificationProvider :=
  let attempts := provider.attempts ++ [request.idempotencyKey]
  match provider.receipts.get? request.idempotencyKey with
  | some receipt => (.received receipt, { provider with attempts })
  | none =>
    let receipt := ⟨"local-" ++ request.idempotencyKey⟩
    (.received receipt, { receipts := provider.receipts.set request.idempotencyKey receipt, attempts })

end InMemoryIdempotentNotificationProvider

theorem fitsVarchar_around {limit : Nat} {before after : String} (id : UUID)
    (plain : Char.ofNat 0 ∉ before.toList ∧ Char.ofNat 0 ∉ after.toList)
    (short : before.toList.length + 36 + after.toList.length ≤ limit) :
    fitsVarchar limit (before ++ id.str ++ after) = true := by
  have inside : Char.ofNat 0 ∉ id.str.toList := by
    intro mem
    have null : UUID.plain (Char.ofNat 0) = false := by decide
    rw [UUID.str_plain id _ mem] at null
    cases null
  simp only [fitsVarchar, String.toList_append, List.length_append, UUID.str_length, Bool.and_eq_true,
    decide_eq_true_eq, List.mem_append, not_or]
  exact ⟨short, ⟨plain.1, inside⟩, plain.2⟩

theorem fits_createdMessage (orderId : UUID) : fitsVarchar 300 (createdMessage orderId) = true :=
  fitsVarchar_around orderId (by decide) (by decide)

theorem fits_local (eventId : UUID) : fitsVarchar 200 ("local-" ++ eventId.str) = true := by
  have fits : fitsVarchar 200 ("local-" ++ eventId.str ++ "") = true :=
    fitsVarchar_around eventId (by decide) (by decide)
  rwa [String.append_empty] at fits

theorem uuidOfValue_str (id : UUID) : uuidOfValue (.str id.str) = .ok id := by
  simp only [uuidOfValue, UUID.parse_str]

theorem truthy_str (id : UUID) : JsonValue.truthy (.str id.str) = true := by
  have nonempty : id.str ≠ "" := by
    intro empty
    have length := UUID.str_length id
    rw [empty] at length
    simp at length
  simp only [JsonValue.truthy, decide_eq_true_eq]
  exact nonempty

/-- The encoder writes the id of the order under `aggregate_id` and nothing under `order_id`. -/
theorem item_integrationPayload (event : OrderCreated) :
    event.integrationPayload.get? "aggregate_id" = some (.str event.orderId.str) ∧
      event.integrationPayload.item "order_id" = .error (.keyError "order_id") := by
  constructor
  · simp [OrderCreated.integrationPayload, Payload.get?, List.find?]
  · simp [OrderCreated.integrationPayload, Payload.item, Payload.get?, List.find?]

theorem orderCreatedIds_integrationPayload (event : OrderCreated) :
    orderCreatedIds "order.created" event.integrationPayload =
      .ok (event.orderId, event.tenantId, event.customerId) := by
  have tenant : event.integrationPayload.item "tenant_id" = .ok (.str event.tenantId.str) := by
    simp [OrderCreated.integrationPayload, Payload.item, Payload.get?, List.find?]
  have customer : event.integrationPayload.item "customer_id" = .ok (.str event.customerId.str) := by
    simp [OrderCreated.integrationPayload, Payload.item, Payload.get?, List.find?]
  simp only [orderCreatedIds, (item_integrationPayload event).1, tenant, customer, Option.filter, truthy_str]
  simp [uuidOfValue_str, bind, Except.bind, pure, Except.pure]

section

variable {db : MessageDatabase} {provider : InMemoryIdempotentNotificationProvider}

/-- A consumer takes an event: it does not raise and leaves a notification of the order. -/
def Accepted (answer : Except MessageError Bool × MessageDatabase × InMemoryIdempotentNotificationProvider)
    (eventId orderId : UUID) : Prop :=
  answer.1 = .ok true ∧ ∃ row ∈ answer.2.1.notificationsOf eventId, row.orderId = orderId

/-- The event that `record_created_event` leaves in the outbox. -/
def createdEvent (eventId : UUID) (order : DeliveryOrder) : OutboxEvent :=
  (SqlAlchemyOrderRepository.createdRow (OrderCreated.fromOrder eventId order)).event

theorem runAlone_claimInbox (provider : InMemoryIdempotentNotificationProvider) {r : ConsumerInboxRow}
    (fits : fitsVarchar 100 r.eventType = true) (unclaimed : db.inbox.get? r.eventId = none) :
    (Script.perform (claimInbox r) : Consumer (Option UUID)).runAlone InMemoryIdempotentNotificationProvider.send db
      provider = (.ok (some r.eventId), db.addInbox r, provider) := by
  simp [Script.runAlone_perform, claimInbox, fits, unclaimed]

/-- Whatever is stored, the decoder of the first consumer fails on what the encoder writes. -/
theorem consume_createdEvent (order : DeliveryOrder) {eventId : UUID} (notificationId : UUID) (processedAt : Datetime)
    (unclaimed : db.inbox.get? eventId = none) :
    (consumeOrderCreatedOnce notificationId processedAt (createdEvent eventId order)).transact
      InMemoryIdempotentNotificationProvider.send db provider = (.error (.keyError "order_id"), db, provider) := by
  have decoded : ((createdEvent eventId order).payload.item "order_id" >>= uuidOfValue) =
      .error (.keyError "order_id") := by
    simp only [createdEvent, OutboxRow.event, SqlAlchemyOrderRepository.createdRow, item_integrationPayload]
    rfl
  have fits : fitsVarchar 100 "order.created" = true := by decide
  have claimed := runAlone_claimInbox (r := ⟨eventId, "order.created", processedAt⟩) provider fits unclaimed
  have ended : (consumeOrderCreatedOnce notificationId processedAt (createdEvent eventId order)).runAlone
      InMemoryIdempotentNotificationProvider.send db provider =
        (.error (.keyError "order_id"), db.addInbox ⟨eventId, "order.created", processedAt⟩, provider) := by
    simp only [consumeOrderCreatedOnce, decoded]
    rw [Script.runAlone_bind, show (createdEvent eventId order).id = eventId from rfl,
      show (createdEvent eventId order).eventType = "order.created" from rfl, claimed]
    rfl
  simp only [Script.transact, ended]

theorem mem_notificationsOf {row : NotificationRow} {eventId : UUID} :
    row ∈ db.notificationsOf eventId ↔ db.notifications.get? row.id = some row ∧ row.eventId = eventId := by
  simp only [MessageDatabase.notificationsOf, List.mem_filter, Table.mem_toList, decide_eq_true_eq]

theorem runAlone_insertNotification (provider : InMemoryIdempotentNotificationProvider) {n : NotificationRow}
    (message : fitsVarchar 300 n.message = true) (channel : fitsVarchar 20 n.channel = true)
    (unused : db.notifications.get? n.id = none) (first : db.notificationsOf n.eventId = [])
    (claimed : (db.inbox.get? n.eventId).isSome = true) :
    (Script.perform (insertNotification n) : Consumer Unit).runAlone InMemoryIdempotentNotificationProvider.send db
      provider = (.ok (), db.addNotification n, provider) := by
  rw [Script.runAlone_perform, insertNotification, insertMessage_ok]
  simp [message, channel, unused, first, claimed]

theorem runAlone_send (delivery : NotificationDelivery) {orderId : UUID} (customerId : UUID)
    (stored : db.notifications.get? delivery.notificationId = some (delivery.notification orderId true))
    (receipts : ∀ receipt, provider.receipts.get? delivery.eventId.str = some receipt →
      fitsVarchar 200 receipt.messageId = true) :
    ∃ receipt provider', (delivery.send orderId customerId).runAlone InMemoryIdempotentNotificationProvider.send db
      provider = (.ok true, db.putNotification (delivery.notification orderId true)
        (delivery.sentNotification orderId receipt), provider') := by
  obtain ⟨receipt, provider', answered, fits⟩ : ∃ receipt provider',
      InMemoryIdempotentNotificationProvider.send (delivery.sendRequest orderId customerId) provider =
        (.received receipt, provider') ∧ fitsVarchar 200 receipt.messageId = true := by
    simp only [InMemoryIdempotentNotificationProvider.send, NotificationDelivery.sendRequest]
    split
    next receipt found => exact ⟨receipt, _, rfl, receipts receipt found⟩
    next => exact ⟨_, _, rfl, fits_local delivery.eventId⟩
  refine ⟨receipt, provider', ?_⟩
  have all : (delivery.sentNotification orderId receipt).providerMessageId.all (fitsVarchar 200) = true := fits
  have stored' : db.notifications.get? (delivery.notification orderId true).id =
      some (delivery.notification orderId true) := stored
  simp only [NotificationDelivery.send, Script.runAlone_bind, Script.runAlone_request, answered,
    Script.runAlone_perform, updateNotification, all, stored', Bool.true_eq_false, ↓reduceIte, Script.runAlone_pure]

theorem accepted_of_row {answer : Except MessageError Bool × MessageDatabase × InMemoryIdempotentNotificationProvider}
    (row : NotificationRow) (ok : answer.1 = .ok true) (stored : answer.2.1.notifications.get? row.id = some row) :
    Accepted answer row.eventId row.orderId :=
  ⟨ok, row, mem_notificationsOf.mpr ⟨stored, rfl⟩, rfl⟩

theorem Accepted.transact {consumer : Consumer Bool} {eventId orderId : UUID}
    (accepted : Accepted (consumer.runAlone InMemoryIdempotentNotificationProvider.send db provider) eventId orderId) :
    Accepted (consumer.transact InMemoryIdempotentNotificationProvider.send db provider) eventId orderId := by
  unfold Script.transact
  rcases ran : consumer.runAlone InMemoryIdempotentNotificationProvider.send db provider with ⟨answer, view, world⟩
  rw [ran] at accepted
  obtain ⟨ok, stored⟩ := accepted
  change answer = .ok true at ok
  subst ok
  exact ⟨rfl, stored⟩

theorem runAlone_apply (db : MessageDatabase) (delivery : NotificationDelivery) (orderId tenantId customerId : UUID)
    (channel : fitsVarchar 20 delivery.channel = true)
    (claimed : (db.inbox.get? delivery.eventId).isSome = true)
    (unused : db.notifications.get? delivery.notificationId = none) (first : db.notificationsOf delivery.eventId = [])
    (receipts : ∀ receipt, provider.receipts.get? delivery.eventId.str = some receipt →
      fitsVarchar 200 receipt.messageId = true) :
    Accepted ((delivery.apply orderId tenantId customerId).runAlone InMemoryIdempotentNotificationProvider.send db
      provider) delivery.eventId orderId := by
  have inserted := fun enabled => runAlone_insertNotification (n := delivery.notification orderId enabled) provider
    (fits_createdMessage orderId) channel unused first claimed
  have stored : ∀ enabled, (db.addNotification (delivery.notification orderId enabled)).notifications.get?
      delivery.notificationId = some (delivery.notification orderId enabled) := by
    intro enabled
    have absent : db.notifications.get? (delivery.notification orderId enabled).id = none := unused
    rw [MessageDatabase.addNotification, Table.insert_of_absent absent]
    exact Table.get?_put_self _ _
  have read : (Script.perform (selectPreference tenantId customerId delivery.channel) :
      Consumer (Option NotificationPreferenceRow)).runAlone InMemoryIdempotentNotificationProvider.send db provider =
        (.ok (db.preferenceOf tenantId customerId delivery.channel), db, provider) := rfl
  rw [NotificationDelivery.apply, Script.runAlone_bind, read]
  simp only
  cases (db.preferenceOf tenantId customerId delivery.channel).all NotificationPreferenceRow.enabled with
  | false =>
    rw [Script.runAlone_bind, inserted]
    exact accepted_of_row (delivery.notification orderId false) rfl (stored false)
  | true =>
    rw [Script.runAlone_bind, inserted]
    obtain ⟨receipt, provider', sent⟩ := runAlone_send delivery customerId (stored true) receipts
    simp only [Bool.true_eq_false, ↓reduceIte, sent]
    refine accepted_of_row (delivery.sentNotification orderId receipt) rfl ?_
    have found : (db.addNotification (delivery.notification orderId true)).notifications.get?
        (delivery.notification orderId true).id = some (delivery.notification orderId true) := stored true
    simp only [MessageDatabase.putNotification, found, ↓reduceIte]
    exact Table.get?_put_self _ _

theorem dispatch_createdEvent (order : DeliveryOrder) (delivery : NotificationDelivery)
    (type : delivery.eventType = "order.created")
    (payload : delivery.payload = (createdEvent delivery.eventId order).payload)
    (channel : fitsVarchar 20 delivery.channel = true) (unclaimed : db.inbox.get? delivery.eventId = none)
    (unused : db.notifications.get? delivery.notificationId = none) (first : db.notificationsOf delivery.eventId = [])
    (receipts : ∀ receipt, provider.receipts.get? delivery.eventId.str = some receipt →
      fitsVarchar 200 receipt.messageId = true) :
    Accepted ((dispatchOrderCreatedNotificationOnce delivery).transact InMemoryIdempotentNotificationProvider.send db
      provider) delivery.eventId order.id := by
  have ids : orderCreatedIds delivery.eventType delivery.payload =
      .ok (order.id, order.tenantId, order.customerId) := by
    rw [type, payload]
    exact orderCreatedIds_integrationPayload _
  have fits : fitsVarchar 100 delivery.eventType = true := by
    rw [type]
    decide
  let claim : ConsumerInboxRow := ⟨delivery.eventId, delivery.eventType, delivery.now⟩
  have claimed := runAlone_claimInbox (r := claim) provider fits unclaimed
  have mine : ((db.addInbox claim).inbox.get? delivery.eventId).isSome = true := by
    have absent : db.inbox.get? claim.eventId = none := unclaimed
    rw [MessageDatabase.addInbox, Table.insert_of_absent absent]
    exact congrArg Option.isSome (Table.get?_put_self _ _)
  have accepted := runAlone_apply (db.addInbox claim) delivery order.id order.tenantId order.customerId channel
    mine unused first receipts
  have ran : (dispatchOrderCreatedNotificationOnce delivery).runAlone InMemoryIdempotentNotificationProvider.send db
      provider = (delivery.apply order.id order.tenantId order.customerId).runAlone
        InMemoryIdempotentNotificationProvider.send (db.addInbox claim) provider := by
    rw [dispatchOrderCreatedNotificationOnce, ids, Script.runAlone_bind, Script.runAlone_ofResult]
    simp only
    rw [Script.runAlone_bind, claimed]
  rw [← ran] at accepted
  exact accepted.transact

/-- Both consumers accept the event of an order. -/
def ConsumedByAll (db : MessageDatabase) (provider : InMemoryIdempotentNotificationProvider) (order : DeliveryOrder)
    (eventId notificationId : UUID) (now : Datetime) : Prop :=
  let event := createdEvent eventId order
  Accepted ((consumeOrderCreatedOnce notificationId now event).transact
    InMemoryIdempotentNotificationProvider.send db provider) eventId order.id ∧
  Accepted ((dispatchOrderCreatedNotificationOnce
      { notificationId, eventId, eventType := event.eventType, payload := event.payload, now }).transact
    InMemoryIdempotentNotificationProvider.send db provider) eventId order.id

/-- No event that the service produces is taken by both consumers: the first one raises on each of them and
leaves nothing behind, while the second one accepts it. -/
theorem created_event_not_consumed_by_all (order : DeliveryOrder) {eventId : UUID} (notificationId : UUID)
    (now : Datetime) (unclaimed : db.inbox.get? eventId = none) :
    ¬ ConsumedByAll db provider order eventId notificationId now ∧
    (consumeOrderCreatedOnce notificationId now (createdEvent eventId order)).transact
      InMemoryIdempotentNotificationProvider.send db provider = (.error (.keyError "order_id"), db, provider) ∧
    (db.notifications.get? notificationId = none → db.notificationsOf eventId = [] →
      (∀ receipt, provider.receipts.get? eventId.str = some receipt → fitsVarchar 200 receipt.messageId = true) →
      Accepted ((dispatchOrderCreatedNotificationOnce { notificationId, eventId, eventType := "order.created"
                                                        payload := (createdEvent eventId order).payload, now }).transact
        InMemoryIdempotentNotificationProvider.send db provider) eventId order.id) := by
  have raised : (consumeOrderCreatedOnce notificationId now (createdEvent eventId order)).transact
      InMemoryIdempotentNotificationProvider.send db provider = (.error (.keyError "order_id"), db, provider) :=
    consume_createdEvent order notificationId now unclaimed
  have channel : fitsVarchar 20 "email" = true := by decide
  refine ⟨fun both => ?_, raised, fun unused first receipts => ?_⟩
  · have answered := both.1.1
    rw [raised] at answered
    cases answered
  · exact dispatch_createdEvent order _ rfl rfl channel unclaimed unused first receipts

end

def orderedOnce : DeliveryOrder where
  id := 1
  tenantId := 3
  customerId := 7
  pickupAddress := "Main Street 1"
  destinationAddress := "Side Street 2"
  weightGrams := 500
  status := .created
  courierId := none
  version := 1
  createdAt := (Generated.numbered 1).now

theorem created_event_not_consumed_at_first :
    ¬ ConsumedByAll .empty {} orderedOnce 2 4 (Generated.numbered 1).now ∧
    Accepted ((dispatchOrderCreatedNotificationOnce {
        notificationId := 4, eventId := 2, eventType := "order.created", payload := (createdEvent 2 orderedOnce).payload
        now := (Generated.numbered 1).now }).transact InMemoryIdempotentNotificationProvider.send .empty {}) 2 1 := by
  have refused := @created_event_not_consumed_by_all .empty {} orderedOnce 2 4 (Generated.numbered 1).now rfl
  exact ⟨refused.1, refused.2.2 rfl rfl (fun receipt held => by cases held)⟩

theorem first_consumer_refuses_created_event : ¬ ∀ db provider order eventId notificationId now,
    db.inbox.get? eventId = none → ConsumedByAll db provider order eventId notificationId now := by
  intro consumed
  have both := consumed .empty {} orderedOnce 2 4 (Generated.numbered 1).now rfl
  have answered := both.1.1
  rw [consume_createdEvent orderedOnce 4 (Generated.numbered 1).now rfl] at answered
  cases answered

end DeliveryService
