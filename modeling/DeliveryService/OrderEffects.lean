import DeliveryService.InMemoryRepository

namespace DeliveryService

open InMemoryOrderRepository

section

variable {folding : PyText.CaseFolding} {sha256 : String → String} {s s' : InMemoryOrderRepository}
  {gen : Generated}

theorem exec_save (order : DeliveryOrder) (expectedVersion : Int) (s : InMemoryOrderRepository) :
    InPlace.exec (save order expectedVersion) s =
      if (s.orders.get? order.id).map DeliveryOrder.version ≠ some expectedVersion then
        (.error (.concurrentUpdate "optimistic version conflict"), s)
      else if order.version ≠ expectedVersion + 1 then
        (.error (.valueError "domain state must advance version exactly once"), s)
      else (.ok (), s.put order) := by
  simp only [save, InPlace.exec_bind, InPlace.exec_get]
  split_ifs <;> rfl

theorem exec_saveTransition (order : DeliveryOrder) (expectedVersion : Int) (event : OrderStatusChanged)
    (s : InMemoryOrderRepository) : InPlace.exec (saveTransition order expectedVersion event) s =
      if event.orderId ≠ order.id ∨ event.orderVersion ≠ order.version then
        (.error (.valueError "transition event does not describe the persisted order"), s)
      else if (s.orders.get? order.id).map DeliveryOrder.version ≠ some expectedVersion then
        (.error (.concurrentUpdate "optimistic version conflict"), s)
      else if order.version ≠ expectedVersion + 1 then
        (.error (.valueError "domain state must advance version exactly once"), s)
      else (.ok (), (s.put order).appendTransition event) := by
  simp only [saveTransition]
  by_cases described : event.orderId ≠ order.id ∨ event.orderVersion ≠ order.version
  · simp only [if_pos described]
    rfl
  · simp only [if_neg described, InPlace.exec_bind, exec_save]
    split_ifs <;> rfl

theorem exec_idempotentOrder (scope requestFingerprint : String) (s : InMemoryOrderRepository) :
    InPlace.exec (idempotentOrder scope requestFingerprint) s =
      match s.idempotency.get? scope with
      | none => (.ok none, s)
      | some (saved, snapshot) =>
        if saved ≠ requestFingerprint then
          (.error (.idempotencyConflict "idempotency key was already used for another request"), s)
        else (.ok (some snapshot), s) := by
  simp only [idempotentOrder, InPlace.exec_bind, InPlace.exec_get]
  cases s.idempotency.get? scope with
  | none => rfl
  | some record =>
    simp only
    split_ifs <;> rfl

/-- What a successful creation writes. -/
def InMemoryOrderRepository.insertCreated (s : InMemoryOrderRepository) (order : DeliveryOrder)
    (eventId : UUID) (record : Option (String × String)) : InMemoryOrderRepository :=
  { s.put order with
    outbox := s.outbox ++ [(OrderCreated.fromOrder eventId order).integrationPayload]
    idempotency := match record with
      | some (scope, fingerprint) => s.idempotency.set scope (fingerprint, order)
      | none => s.idempotency }

theorem get?_insertCreated (s : InMemoryOrderRepository) (order : DeliveryOrder) (eventId : UUID)
    (record : Option (String × String)) (id : UUID) :
    (s.insertCreated order eventId record).orders.get? id =
      if id = order.id then some order else s.orders.get? id :=
  get?_put s order id

/-- The scope and the fingerprint of a creation with a non-empty key. -/
def creationRecord (sha256 : String → String) (command : CreateOrderCommand) (key : Option String)
    (tenantId : UUID) : Option (String × String) :=
  (key.filter (· ≠ "")).map fun key =>
    (idempotencyScope tenantId command.customerId key, sha256 command.canonicalRequest)

/-- The record a creation finds for its scope, if it has one. -/
def InMemoryOrderRepository.recordFor (s : InMemoryOrderRepository) (record : Option (String × String)) :
    Option (String × DeliveryOrder) :=
  record.bind fun r => s.idempotency.get? r.1

theorem exec_replay (command : CreateOrderCommand) (key : Option String) (tenantId : UUID)
    (s : InMemoryOrderRepository) :
    InPlace.exec (OrderService.replay inMemoryOrderRepository sha256 command key tenantId) s =
      match creationRecord sha256 command key tenantId with
      | none => (.ok (none, none), s)
      | some (scope, fingerprint) =>
        match s.idempotency.get? scope with
        | none => (.ok (some (scope, fingerprint), none), s)
        | some (saved, snapshot) =>
          if saved ≠ fingerprint then
            (.error (.idempotencyConflict "idempotency key was already used for another request"), s)
          else (.ok (some (scope, fingerprint), some snapshot), s) := by
  cases key with
  | none => rfl
  | some key =>
    by_cases empty : key = ""
    · subst empty
      rfl
    · have record : creationRecord sha256 command (some key) tenantId =
          some (idempotencyScope tenantId command.customerId key, sha256 command.canonicalRequest) := by
        simp [creationRecord, empty]
      simp only [record, OrderService.replay, if_neg empty, inMemoryOrderRepository, InPlace.exec_bind,
        exec_idempotentOrder]
      cases s.idempotency.get? (idempotencyScope tenantId command.customerId key) with
      | none => rfl
      | some record =>
        simp only
        split_ifs <;> rfl

/-- Creation in one piece: conflict, replay, refused weight or a new order. -/
theorem exec_create (command : CreateOrderCommand) (key : Option String) (tenantId : UUID)
    (s : InMemoryOrderRepository) :
    OrderOp.exec folding sha256 s gen (.create command key tenantId) =
      match s.recordFor (creationRecord sha256 command key tenantId) with
      | some (saved, snapshot) =>
        if some saved ≠ (creationRecord sha256 command key tenantId).map Prod.snd then
          (.error (.idempotencyConflict "idempotency key was already used for another request"), s)
        else (.ok (some snapshot), s)
      | none =>
        match DeliveryOrder.create gen.orderId tenantId command.customerId command.pickupAddress
            command.destinationAddress command.weightGrams gen.now with
        | .error refused => (.error refused, s)
        | .ok order =>
          (.ok (some order), s.insertCreated order gen.eventId (creationRecord sha256 command key tenantId)) := by
  simp only [OrderOp.exec, OrderOp.run, InPlace.exec_map, OrderService.create, InPlace.exec_bind,
    exec_replay, recordFor]
  cases creationRecord sha256 command key tenantId with
  | none =>
    simp only [Option.bind_none]
    cases DeliveryOrder.create gen.orderId tenantId command.customerId command.pickupAddress
        command.destinationAddress command.weightGrams gen.now with
    | error refused => rfl
    | ok order => rfl
  | some record =>
    obtain ⟨scope, fingerprint⟩ := record
    simp only [Option.bind_some, Option.map_some]
    cases s.idempotency.get? scope with
    | none =>
      simp only
      cases DeliveryOrder.create gen.orderId tenantId command.customerId command.pickupAddress
          command.destinationAddress command.weightGrams gen.now with
      | error refused => rfl
      | ok order => rfl
    | some found =>
      obtain ⟨saved, snapshot⟩ := found
      by_cases same : saved = fingerprint
      · simp [same]
        rfl
      · simp [same]
        rfl

end

section

variable (folding : PyText.CaseFolding) (sha256 : String → String) (s : InMemoryOrderRepository)
  (gen : Generated)

/-- Everything one call of an order use case can do to the in-memory adapter. -/
inductive OrderEffect : OrderOp → Except Error (Option DeliveryOrder) → InMemoryOrderRepository → Prop
  | failed {op} (error : Error) : OrderEffect op (.error error) s
  | replayed {command key tenantId fingerprint snapshot} :
      s.recordFor (creationRecord sha256 command key tenantId) = some (fingerprint, snapshot) →
      OrderEffect (.create command key tenantId) (.ok (some snapshot)) s
  | created {command key tenantId order} :
      s.recordFor (creationRecord sha256 command key tenantId) = none →
      DeliveryOrder.create gen.orderId tenantId command.customerId command.pickupAddress
        command.destinationAddress command.weightGrams gen.now = .ok order →
      OrderEffect (.create command key tenantId) (.ok (some order))
        (s.insertCreated order gen.eventId (creationRecord sha256 command key tenantId))
  | idle {courierId tenantId correlationId} : s.candidates tenantId = [] →
      OrderEffect (.claimNext courierId tenantId correlationId) (.ok none) s
  | updated {orderId command before after} : s.orders.get? orderId = some before →
      before.updateDetails folding command = .ok after →
      OrderEffect (.update orderId command before.version) (.ok (some after)) (s.put after)
  | assigned {orderId courierId before} : s.orders.get? orderId = some before →
      before.status = .created →
      OrderEffect (.assign orderId courierId) (.ok (some (before.takenBy courierId)))
        ((s.put (before.takenBy courierId)).appendTransition (statusEvent gen.eventId before
          (before.takenBy courierId) courierId "courier" gen.now "assignment"))
  | claimed {courierId tenantId correlationId before rest} : s.busy courierId tenantId = false →
      s.candidates tenantId = before :: rest →
      OrderEffect (.claimNext courierId tenantId correlationId) (.ok (some (before.takenBy courierId)))
        ((s.put (before.takenBy courierId)).appendTransition (statusEvent gen.eventId before
          (before.takenBy courierId) courierId "courier" gen.now correlationId))
  | transitioned {orderId before} {command : TransitionOrderCommand} :
      s.orders.get? orderId = some before → before.version = command.expectedVersion →
      OrderStateMachine.allows before.status command.target = true →
      OrderEffect (.transition orderId command) (.ok (some (before.movedTo command.target)))
        ((s.put (before.movedTo command.target)).appendTransition (statusEvent gen.eventId before
          (before.movedTo command.target) command.actorId command.actorRole gen.now command.correlationId))

end

section

variable {folding : PyText.CaseFolding} {sha256 : String → String} {s s' : InMemoryOrderRepository}
  {gen : Generated}

theorem mem_candidates {tenantId : UUID} {order : DeliveryOrder} :
    order ∈ s.candidates tenantId ↔
      s.orders.get? order.id = some order ∧ order.tenantId = tenantId ∧ order.status = .created := by
  simp only [candidates, List.mem_insertionSort, List.mem_filter, Bool.and_eq_true, decide_eq_true_eq,
    Dict.mem_values_iff]
  constructor
  · rintro ⟨⟨id, stored⟩, rest⟩
    exact ⟨(s.keyed id order stored).symm ▸ stored, rest⟩
  · rintro ⟨stored, rest⟩
    exact ⟨⟨order.id, stored⟩, rest⟩

theorem exec_get_order (orderId : UUID) (s : InMemoryOrderRepository) :
    InPlace.exec (OrderService.get inMemoryOrderRepository orderId) s =
      match s.orders.get? orderId with
      | none => (.error (.orderNotFound orderId), s)
      | some order => (.ok order, s) := by
  simp only [OrderService.get, inMemoryOrderRepository, InMemoryOrderRepository.get, InPlace.exec_bind,
    InPlace.exec_get, InPlace.exec_pure]
  cases s.orders.get? orderId <;> rfl

theorem exec_saveTransition_step (before after : DeliveryOrder) (eventId actorId : UUID)
    (actorRole : String) (occurredAt : Datetime) (correlationId : String)
    (stored : s.orders.get? before.id = some before) (hid : after.id = before.id)
    (hv : after.version = before.version + 1) :
    InPlace.exec (saveTransition after before.version
        (statusEvent eventId before after actorId actorRole occurredAt correlationId)) s =
      (.ok (), (s.put after).appendTransition
        (statusEvent eventId before after actorId actorRole occurredAt correlationId)) := by
  rw [exec_saveTransition]
  simp [statusEvent, hid, hv, stored]

theorem create_effect (command : CreateOrderCommand) (key : Option String) (tenantId : UUID) :
    OrderEffect folding sha256 s gen (.create command key tenantId)
      (OrderOp.exec folding sha256 s gen (.create command key tenantId)).1
      (OrderOp.exec folding sha256 s gen (.create command key tenantId)).2 := by
  rw [exec_create]
  split
  next saved snapshot found =>
    split
    next => exact .failed _
    next => exact .replayed found
  next free =>
    split
    next => exact .failed _
    next order made => exact .created free made

theorem update_effect (orderId : UUID) (command : UpdateOrderCommand) (expectedVersion : Int) :
    OrderEffect folding sha256 s gen (.update orderId command expectedVersion)
      (OrderOp.exec folding sha256 s gen (.update orderId command expectedVersion)).1
      (OrderOp.exec folding sha256 s gen (.update orderId command expectedVersion)).2 := by
  simp only [OrderOp.exec, OrderOp.run, InPlace.exec_map, OrderService.update, InPlace.exec_bind,
    exec_get_order]
  cases stored : s.orders.get? orderId with
  | none => exact .failed _
  | some before =>
    have key := s.keyed orderId before stored
    by_cases stale : before.version ≠ expectedVersion
    · simp only [if_pos stale]
      exact .failed _
    · simp only [if_neg stale, InPlace.exec_bind, InPlace.exec_ofExcept]
      obtain rfl := not_not.mp stale
      cases ok : before.updateDetails folding command with
      | error refused => exact .failed _
      | ok after =>
        have shape := DeliveryOrder.updateDetails_ok ok
        have hid : after.id = before.id := by rw [shape]
        have hv : after.version = before.version + 1 := by rw [shape]
        have saved : InPlace.exec (save after before.version) s = (.ok (), s.put after) := by
          rw [exec_save]
          simp [hid, hv, key, stored]
        simp only [inMemoryOrderRepository, saved]
        exact .updated stored ok

theorem exec_transition_allowed {orderId : UUID} {command : TransitionOrderCommand} {before : DeliveryOrder}
    (stored : s.orders.get? orderId = some before) (current : before.version = command.expectedVersion)
    (allowed : OrderStateMachine.allows before.status command.target = true) :
    OrderOp.exec folding sha256 s gen (.transition orderId command) =
      (.ok (some (before.movedTo command.target)), (s.put (before.movedTo command.target)).appendTransition
        (statusEvent gen.eventId before (before.movedTo command.target) command.actorId command.actorRole
          gen.now command.correlationId)) := by
  have key := s.keyed orderId before stored
  have moved : before.transition command.target = .ok (before.movedTo command.target) := if_pos allowed
  have event : OrderStatusChanged.fromTransition gen.eventId before (before.movedTo command.target)
      command.actorId command.actorRole gen.now command.correlationId = .ok (statusEvent gen.eventId
      before (before.movedTo command.target) command.actorId command.actorRole gen.now
      command.correlationId) := fromTransition_statusEvent rfl rfl rfl (allows_ne allowed)
  have saved := exec_saveTransition_step before (before.movedTo command.target) gen.eventId
    command.actorId command.actorRole gen.now command.correlationId (key.symm ▸ stored) rfl rfl
  rw [current] at saved
  simp only [OrderOp.exec, OrderOp.run, InPlace.exec_map, OrderService.transition, InPlace.exec_bind,
    exec_get_order, stored, if_neg (not_not.mpr current), InPlace.exec_ofExcept, moved, event]
  simp only [inMemoryOrderRepository, saved]
  rfl

theorem transition_effect (orderId : UUID) (command : TransitionOrderCommand) :
    OrderEffect folding sha256 s gen (.transition orderId command)
      (OrderOp.exec folding sha256 s gen (.transition orderId command)).1
      (OrderOp.exec folding sha256 s gen (.transition orderId command)).2 := by
  cases stored : s.orders.get? orderId with
  | none =>
    simp only [OrderOp.exec, OrderOp.run, InPlace.exec_map, OrderService.transition, InPlace.exec_bind,
      exec_get_order, stored]
    exact .failed _
  | some before =>
    by_cases current : before.version = command.expectedVersion
    · cases ok : before.transition command.target with
      | error refused =>
        simp only [OrderOp.exec, OrderOp.run, InPlace.exec_map, OrderService.transition, InPlace.exec_bind,
          exec_get_order, stored, if_neg (not_not.mpr current), InPlace.exec_ofExcept, ok]
        exact .failed _
      | ok after =>
        have allowed := (DeliveryOrder.transition_ok ok).1
        rw [exec_transition_allowed stored current allowed]
        exact .transitioned stored current allowed
    · simp only [OrderOp.exec, OrderOp.run, InPlace.exec_map, OrderService.transition, InPlace.exec_bind,
        exec_get_order, stored, if_pos current]
      exact .failed _

theorem created_ne_assigned {order : DeliveryOrder} (h : order.status = .created) (courierId : UUID) :
    order.status ≠ (order.takenBy courierId).status := by
  rw [h]
  exact OrderStatus.noConfusion

theorem exec_assign_created {orderId courierId : UUID} {before : DeliveryOrder}
    (stored : s.orders.get? orderId = some before) (created : before.status = .created) :
    OrderOp.exec folding sha256 s gen (.assign orderId courierId) =
      (.ok (some (before.takenBy courierId)), (s.put (before.takenBy courierId)).appendTransition
        (statusEvent gen.eventId before (before.takenBy courierId) courierId "courier" gen.now
          "assignment")) := by
  have key := s.keyed orderId before stored
  have event : OrderStatusChanged.fromTransition gen.eventId before (before.takenBy courierId)
      courierId "courier" gen.now "assignment" = .ok (statusEvent gen.eventId before
      (before.takenBy courierId) courierId "courier" gen.now "assignment") :=
    fromTransition_statusEvent rfl rfl rfl (created_ne_assigned created courierId)
  have saved := exec_saveTransition_step before (before.takenBy courierId) gen.eventId courierId
    "courier" gen.now "assignment" (key.symm ▸ stored) rfl rfl
  simp only [OrderOp.exec, OrderOp.run, InPlace.exec_map, OrderService.assign, InPlace.exec_bind,
    exec_get_order, stored, InPlace.exec_ofExcept, DeliveryOrder.assign_created created, event]
  simp only [inMemoryOrderRepository, saved]
  rfl

theorem assign_effect (orderId courierId : UUID) :
    OrderEffect folding sha256 s gen (.assign orderId courierId)
      (OrderOp.exec folding sha256 s gen (.assign orderId courierId)).1
      (OrderOp.exec folding sha256 s gen (.assign orderId courierId)).2 := by
  cases stored : s.orders.get? orderId with
  | none =>
    simp only [OrderOp.exec, OrderOp.run, InPlace.exec_map, OrderService.assign, InPlace.exec_bind,
      exec_get_order, stored]
    exact .failed _
  | some before =>
    cases ok : before.assign courierId with
    | error refused =>
      simp only [OrderOp.exec, OrderOp.run, InPlace.exec_map, OrderService.assign, InPlace.exec_bind,
        exec_get_order, stored, InPlace.exec_ofExcept, ok]
      exact .failed _
    | ok after =>
      have created := (DeliveryOrder.assign_ok ok).1
      rw [exec_assign_created stored created]
      exact .assigned stored created

/-- A claim in one piece: the courier is busy, the queue is empty, or its first order is taken. -/
theorem exec_claimNext {courierId tenantId : UUID} {correlationId : String} :
    OrderOp.exec folding sha256 s gen (.claimNext courierId tenantId correlationId) =
      if s.busy courierId tenantId then
        (.error (.courierAlreadyBusy "courier already has an active assignment"), s)
      else match s.candidates tenantId with
        | [] => (.ok none, s)
        | before :: _ => (.ok (some (before.takenBy courierId)), (s.put (before.takenBy courierId)).appendTransition
            (statusEvent gen.eventId before (before.takenBy courierId) courierId "courier" gen.now correlationId)) := by
  simp only [OrderOp.exec, OrderOp.run, OrderService.claimNext, inMemoryOrderRepository,
    claimNextCreatedOrder, InPlace.exec_bind, InPlace.exec_get]
  split_ifs
  · rfl
  · cases queue : s.candidates tenantId with
    | nil => rfl
    | cons before rest =>
      have created := (mem_candidates.mp (queue ▸ List.mem_cons_self)).2.2
      have event : OrderStatusChanged.fromTransition gen.eventId before (before.takenBy courierId)
          courierId "courier" gen.now correlationId = .ok (statusEvent gen.eventId before
          (before.takenBy courierId) courierId "courier" gen.now correlationId) :=
        fromTransition_statusEvent rfl rfl rfl (created_ne_assigned created courierId)
      simp only [InPlace.exec_bind, InPlace.exec_ofExcept, DeliveryOrder.assign_created created,
        InPlace.exec_modify, event, InPlace.exec_pure]

theorem claimNext_effect (courierId tenantId : UUID) (correlationId : String) :
    OrderEffect folding sha256 s gen (.claimNext courierId tenantId correlationId)
      (OrderOp.exec folding sha256 s gen (.claimNext courierId tenantId correlationId)).1
      (OrderOp.exec folding sha256 s gen (.claimNext courierId tenantId correlationId)).2 := by
  rw [exec_claimNext]
  cases free : s.busy courierId tenantId with
  | true => exact .failed _
  | false =>
    cases queue : s.candidates tenantId with
    | nil => exact .idle queue
    | cons before rest => exact .claimed free queue

theorem exec_effect (op : OrderOp) : OrderEffect folding sha256 s gen op
    (OrderOp.exec folding sha256 s gen op).1 (OrderOp.exec folding sha256 s gen op).2 := by
  cases op with
  | create command key tenantId => exact create_effect command key tenantId
  | assign orderId courierId => exact assign_effect orderId courierId
  | claimNext courierId tenantId correlationId => exact claimNext_effect courierId tenantId correlationId
  | update orderId command expectedVersion => exact update_effect orderId command expectedVersion
  | transition orderId command => exact transition_effect orderId command

theorem OrderEffect.unchanged_of_error {op : OrderOp} {error : Error}
    (effect : OrderEffect folding sha256 s gen op (.error error) s') : s' = s := by
  cases effect
  rfl

theorem OrderCall.effect (folding : PyText.CaseFolding) (sha256 : String → String)
    (s : InMemoryOrderRepository) (call : OrderCall) : OrderEffect folding sha256 s call.gen call.op
      (call.result folding sha256 s) (call.after folding sha256 s) :=
  exec_effect call.op

end

end DeliveryService
