import DeliveryService.Exec
import DeliveryService.OrderEffects

namespace DeliveryService

open InMemoryOrderRepository

/-- The audit facts of one order, in the order in which they were appended. -/
def historyOf (s : InMemoryOrderRepository) (id : UUID) : List OrderStatusChanged :=
  s.transitionHistory.filter fun event => event.orderId = id

/-- The integration messages of one order. -/
def outboxOf (s : InMemoryOrderRepository) (id : UUID) : List Payload :=
  s.outbox.filter fun payload => payload.get? "aggregate_id" = some (.str id.str)

/-- The events lead from one status to another along edges of the state machine. -/
def StatusChain (source : OrderStatus) : List OrderStatusChanged → OrderStatus → Prop
  | [], target => source = target
  | event :: rest, target => event.fromStatus = source ∧
      OrderStateMachine.allows event.fromStatus event.toStatus = true ∧
      StatusChain event.toStatus rest target

/-- History, outbox and state of one stored order agree. -/
structure Audited (s : InMemoryOrderRepository) (order : DeliveryOrder) (updates : Nat) : Prop where
  chain : StatusChain .created (historyOf s order.id) order.status
  increasing : ((historyOf s order.id).map OrderStatusChanged.orderVersion).Pairwise (· < ·)
  bounded : ∀ event ∈ historyOf s order.id, 1 < event.orderVersion ∧ event.orderVersion ≤ order.version
  version : order.version = 1 + (historyOf s order.id).length + updates
  outbox : ∃ created : OrderCreated, created.orderId = order.id ∧
    outboxOf s order.id = created.integrationPayload ::
      (historyOf s order.id).map OrderStatusChanged.integrationPayload

/-- A call that was answered and changed the details of the order. -/
def acceptedUpdate (id : UUID) (result : Except Error (Option DeliveryOrder)) : OrderOp → Bool
  | .update orderId _ _ => orderId = id && result.isOk
  | _ => false

/-- A creation draws an id that no stored order has. -/
def OrderCall.Fresh (s : InMemoryOrderRepository) (call : OrderCall) : Prop :=
  ∀ command key tenantId, call.op = .create command key tenantId → s.orders.get? call.gen.orderId = none

/-- Every stored order is audited and no trace of an unknown order exists. -/
structure Consistent (s : InMemoryOrderRepository) (updates : UUID → Nat) : Prop where
  audited : ∀ id order, s.orders.get? id = some order → Audited s order (updates id)
  unknown : ∀ id, s.orders.get? id = none → historyOf s id = [] ∧ outboxOf s id = [] ∧ updates id = 0

/-- The shape that every change of status has. -/
structure StatusMove (s : InMemoryOrderRepository) (before after : DeliveryOrder)
    (event : OrderStatusChanged) : Prop where
  stored : s.orders.get? before.id = some before
  id_eq : after.id = before.id
  version_eq : after.version = before.version + 1
  orderId_eq : event.orderId = before.id
  from_eq : event.fromStatus = before.status
  to_eq : event.toStatus = after.status
  orderVersion_eq : event.orderVersion = before.version + 1
  allowed : OrderStateMachine.allows before.status after.status = true

variable {folding : PyText.CaseFolding} {sha256 : String → String} {s s' : InMemoryOrderRepository}
  {updates : UUID → Nat}

theorem StatusChain.append {source middle target : OrderStatus} {events : List OrderStatusChanged}
    {event : OrderStatusChanged} (chain : StatusChain source events middle)
    (hf : event.fromStatus = middle) (ht : event.toStatus = target)
    (allowed : OrderStateMachine.allows middle target = true) :
    StatusChain source (events ++ [event]) target := by
  induction events generalizing source with
  | nil =>
    obtain rfl : source = middle := chain
    exact ⟨hf, hf ▸ ht ▸ allowed, ht⟩
  | cons first rest ih => exact ⟨chain.1, chain.2.1, ih chain.2.2⟩

theorem get?_aggregate_statusChanged (event : OrderStatusChanged) :
    event.integrationPayload.get? "aggregate_id" = some (.str event.orderId.str) := rfl

theorem get?_aggregate_created (event : OrderCreated) :
    event.integrationPayload.get? "aggregate_id" = some (.str event.orderId.str) := rfl

@[simp]
theorem historyOf_put (s : InMemoryOrderRepository) (order : DeliveryOrder) (id : UUID) :
    historyOf (s.put order) id = historyOf s id := rfl

@[simp]
theorem outboxOf_put (s : InMemoryOrderRepository) (order : DeliveryOrder) (id : UUID) :
    outboxOf (s.put order) id = outboxOf s id := rfl

theorem historyOf_appendTransition (s : InMemoryOrderRepository) (event : OrderStatusChanged) (id : UUID) :
    historyOf (s.appendTransition event) id =
      historyOf s id ++ if event.orderId = id then [event] else [] := by
  simp only [historyOf, appendTransition, List.filter_append, List.filter_singleton, Bool.cond_decide]

theorem outboxOf_append (s : InMemoryOrderRepository) {payload : Payload} {orderId : UUID}
    (h : payload.get? "aggregate_id" = some (.str orderId.str)) (id : UUID) :
    (s.outbox ++ [payload]).filter (fun payload => payload.get? "aggregate_id" = some (.str id.str)) =
      outboxOf s id ++ if orderId = id then [payload] else [] := by
  simp only [outboxOf, List.filter_append, List.filter_singleton, h, Option.some.injEq,
    JsonValue.str.injEq, UUID.str_injective.eq_iff, Bool.cond_decide]

theorem outboxOf_appendTransition (s : InMemoryOrderRepository) (event : OrderStatusChanged) (id : UUID) :
    outboxOf (s.appendTransition event) id =
      outboxOf s id ++ if event.orderId = id then [event.integrationPayload] else [] :=
  outboxOf_append s (get?_aggregate_statusChanged event) id

theorem outboxOf_insertCreated (s : InMemoryOrderRepository) (order : DeliveryOrder) (eventId : UUID)
    (record : Option (String × String)) (id : UUID) :
    outboxOf (s.insertCreated order eventId record) id = outboxOf s id ++
      if order.id = id then [(OrderCreated.fromOrder eventId order).integrationPayload] else [] :=
  outboxOf_append s (get?_aggregate_created (OrderCreated.fromOrder eventId order)) id

theorem Audited.congr {order : DeliveryOrder} {n : Nat} (audit : Audited s order n)
    (hh : historyOf s' order.id = historyOf s order.id) (ho : outboxOf s' order.id = outboxOf s order.id) :
    Audited s' order n := by
  obtain ⟨chain, increasing, bounded, version, created, outbox⟩ := audit
  exact ⟨hh ▸ chain, hh ▸ increasing, hh ▸ bounded, hh ▸ version, created, hh ▸ ho ▸ outbox⟩

theorem Audited.one_le_version {order : DeliveryOrder} {n : Nat} (audit : Audited s order n) :
    1 ≤ order.version := by
  have := audit.version
  omega

theorem consistent_created (consistent : Consistent s updates) {order : DeliveryOrder} {eventId : UUID}
    {record : Option (String × String)} (fresh : s.orders.get? order.id = none)
    (hs : order.status = .created) (hv : order.version = 1) :
    Consistent (s.insertCreated order eventId record) updates := by
  obtain ⟨noHistory, noOutbox, noUpdates⟩ := consistent.unknown _ fresh
  have history : ∀ id, historyOf (s.insertCreated order eventId record) id = historyOf s id := fun _ => rfl
  constructor
  · intro id found stored
    rw [get?_insertCreated] at stored
    split at stored
    next same =>
      obtain rfl := Option.some.inj stored
      rw [same]
      have empty := (history order.id).trans noHistory
      refine ⟨?_, ?_, ?_, ?_, OrderCreated.fromOrder eventId order, rfl, ?_⟩
      · rw [empty, hs]
        rfl
      · simp [empty]
      · simp [empty]
      · simp [empty, noUpdates, hv]
      · rw [outboxOf_insertCreated, noOutbox, empty, if_pos rfl]
        rfl
    next other =>
      have key := s.keyed id found stored
      refine (consistent.audited id found stored).congr (history _) ?_
      rw [outboxOf_insertCreated, key, if_neg (Ne.symm other), List.append_nil]
  · intro id missing
    rw [get?_insertCreated] at missing
    split at missing
    next => simp at missing
    next other =>
      obtain ⟨hh, ho, hn⟩ := consistent.unknown id missing
      refine ⟨(history id).trans hh, ?_, hn⟩
      rw [outboxOf_insertCreated, ho, if_neg (Ne.symm other)]
      rfl

theorem consistent_updated (consistent : Consistent s updates) {before after : DeliveryOrder}
    (stored : s.orders.get? before.id = some before) (hid : after.id = before.id)
    (hs : after.status = before.status) (hv : after.version = before.version + 1) :
    Consistent (s.put after) (fun id => updates id + if before.id = id then 1 else 0) := by
  constructor
  · intro id found stored'
    rw [get?_put, hid] at stored'
    split at stored'
    next same =>
      obtain rfl := Option.some.inj stored'
      have audit := consistent.audited _ _ stored
      have version := audit.version
      refine ⟨?_, ?_, ?_, ?_, ?_⟩
      · simpa [hid, hs] using audit.chain
      · simpa [hid] using audit.increasing
      · intro event hm
        have bound := audit.bounded event (by simpa [hid] using hm)
        omega
      · simp [hid, same]
        omega
      · simpa [hid] using audit.outbox
    next other =>
      rw [if_neg (Ne.symm other)]
      exact (consistent.audited id found stored').congr rfl rfl
  · intro id missing
    rw [get?_put, hid] at missing
    split at missing
    next => simp at missing
    next other =>
      obtain ⟨hh, ho, hn⟩ := consistent.unknown id missing
      exact ⟨hh, ho, by simp [hn, Ne.symm other]⟩

theorem Audited.moved {before after : DeliveryOrder} {event : OrderStatusChanged} {n : Nat}
    (audit : Audited s before n) (move : StatusMove s before after event) :
    Audited ((s.put after).appendTransition event) after n := by
  have history : historyOf ((s.put after).appendTransition event) after.id = historyOf s before.id ++ [event] := by
    rw [historyOf_appendTransition, historyOf_put, move.id_eq, move.orderId_eq, if_pos rfl]
  obtain ⟨created, hc, outbox⟩ := audit.outbox
  have version := audit.version
  have hv := move.version_eq
  have he := move.orderVersion_eq
  refine ⟨?_, ?_, ?_, ?_, created, hc.trans move.id_eq.symm, ?_⟩
  · rw [history]
    exact audit.chain.append move.from_eq move.to_eq move.allowed
  · rw [history, List.map_append, List.pairwise_append]
    refine ⟨audit.increasing, by simp, ?_⟩
    intro v hv' w hw
    obtain ⟨earlier, old, rfl⟩ := List.mem_map.mp hv'
    obtain rfl := List.mem_singleton.mp hw
    have := (audit.bounded earlier old).2
    omega
  · rw [history]
    intro e hm
    rcases List.mem_append.mp hm with old | last
    · have := audit.bounded e old
      omega
    · obtain rfl := List.mem_singleton.mp last
      have := audit.one_le_version
      omega
  · rw [history, List.length_append, List.length_singleton]
    omega
  · rw [history, outboxOf_appendTransition, outboxOf_put, move.id_eq, outbox, move.orderId_eq, if_pos rfl]
    simp

theorem consistent_moved (consistent : Consistent s updates) {before after : DeliveryOrder}
    {event : OrderStatusChanged} (move : StatusMove s before after event) :
    Consistent ((s.put after).appendTransition event) updates := by
  constructor
  · intro id found stored'
    rw [orders_appendTransition, get?_put, move.id_eq] at stored'
    split at stored'
    next same =>
      obtain rfl := Option.some.inj stored'
      rw [same]
      exact (consistent.audited _ _ move.stored).moved move
    next other =>
      have key := s.keyed id found stored'
      have elsewhere : event.orderId ≠ found.id := by
        rw [move.orderId_eq, key]
        exact Ne.symm other
      refine (consistent.audited id found stored').congr ?_ ?_
      · simp [historyOf_appendTransition, elsewhere]
      · simp [outboxOf_appendTransition, elsewhere]
  · intro id missing
    rw [orders_appendTransition, get?_put, move.id_eq] at missing
    split at missing
    next => simp at missing
    next other =>
      obtain ⟨hh, ho, hn⟩ := consistent.unknown id missing
      have elsewhere : event.orderId ≠ id := by
        rw [move.orderId_eq]
        exact Ne.symm other
      refine ⟨?_, ?_, hn⟩
      · simp [historyOf_appendTransition, elsewhere, hh]
      · simp [outboxOf_appendTransition, elsewhere, ho]

theorem statusMove_statusEvent (before after : DeliveryOrder)
    (stored : s.orders.get? before.id = some before) (hid : after.id = before.id)
    (hv : after.version = before.version + 1) (allowed : OrderStateMachine.allows before.status after.status = true)
    (eventId actorId : UUID) (actorRole : String) (occurredAt : Datetime) (correlationId : String) :
    StatusMove s before after
      (statusEvent eventId before after actorId actorRole occurredAt correlationId) :=
  ⟨stored, hid, hv, rfl, rfl, rfl, rfl, allowed⟩

theorem takenBy_allowed {order : DeliveryOrder} (h : order.status = .created) (courierId : UUID) :
    OrderStateMachine.allows order.status (order.takenBy courierId).status = true := by
  rw [h]
  rfl

/-- Each effect of a call keeps the collections consistent and counts an accepted update once. -/
theorem consistent_effect {gen : Generated} {op : OrderOp} {result : Except Error (Option DeliveryOrder)}
    (consistent : Consistent s updates) (fresh : OrderCall.Fresh s ⟨gen, op⟩)
    (effect : OrderEffect folding sha256 s gen op result s') :
    Consistent s' (fun id => updates id + if acceptedUpdate id result op then 1 else 0) := by
  cases effect with
  | failed error =>
    cases op <;> simpa [acceptedUpdate, Except.isOk, Except.toBool] using consistent
  | replayed _ => simpa [acceptedUpdate] using consistent
  | idle _ => simpa [acceptedUpdate] using consistent
  | @created command key tenantId order _ made =>
    obtain rfl := DeliveryOrder.create_ok made
    simpa [acceptedUpdate] using consistent_created consistent (fresh _ _ _ rfl) rfl rfl
  | @updated orderId command before after stored ok =>
    have key := s.keyed orderId before stored
    have shape := DeliveryOrder.updateDetails_ok ok
    have hid : after.id = before.id := by rw [shape]
    have hs : after.status = before.status := by rw [shape]
    have hv : after.version = before.version + 1 := by rw [shape]
    have kept := consistent_updated consistent (key.symm ▸ stored) hid hs hv
    simpa [acceptedUpdate, Except.isOk, Except.toBool, key] using kept
  | @assigned orderId courierId before stored created =>
    have key := s.keyed orderId before stored
    simpa [acceptedUpdate] using consistent_moved consistent (statusMove_statusEvent before (before.takenBy courierId)
      (key.symm ▸ stored) rfl rfl (takenBy_allowed created courierId) gen.eventId courierId "courier" gen.now
      "assignment")
  | @claimed courierId tenantId correlationId before rest _ queue =>
    obtain ⟨stored, _, created⟩ := mem_candidates.mp (queue ▸ List.mem_cons_self)
    simpa [acceptedUpdate] using consistent_moved consistent (statusMove_statusEvent before (before.takenBy courierId)
      stored rfl rfl (takenBy_allowed created courierId) gen.eventId courierId "courier" gen.now correlationId)
  | @transitioned orderId before command stored _ allowed =>
    have key := s.keyed orderId before stored
    simpa [acceptedUpdate] using consistent_moved consistent (statusMove_statusEvent before
      (before.movedTo command.target) (key.symm ▸ stored) rfl rfl allowed gen.eventId command.actorId command.actorRole
        gen.now command.correlationId)

/-- The updates of an order that a run accepted. -/
def acceptedUpdates (folding : PyText.CaseFolding) (sha256 : String → String)
    (trace : List (Transition InMemoryOrderRepository OrderCall)) (id : UUID) : Nat :=
  trace.countP fun t => acceptedUpdate id (t.label.result folding sha256 t.pre) t.label.op

theorem acceptedUpdates_append (trace : List (Transition InMemoryOrderRepository OrderCall))
    (t : Transition InMemoryOrderRepository OrderCall) (id : UUID) :
    acceptedUpdates folding sha256 (trace ++ [t]) id = acceptedUpdates folding sha256 trace id +
      if acceptedUpdate id (t.label.result folding sha256 t.pre) t.label.op then 1 else 0 := by
  simp [acceptedUpdates, List.countP_append, List.countP_cons]

theorem consistent_empty : Consistent .empty (fun _ => 0) := by
  refine ⟨?_, fun _ _ => ⟨rfl, rfl, rfl⟩⟩
  intro id order stored
  simp [InMemoryOrderRepository.empty] at stored

theorem consistent_run {trace : List (Transition InMemoryOrderRepository OrderCall)}
    (run : Exec (OrderStep folding sha256) .empty trace s) (fresh : ∀ t ∈ trace, t.label.Fresh t.pre) :
    Consistent s (acceptedUpdates folding sha256 trace) := by
  induction run with
  | start => exact consistent_empty
  | @next trace s call s' _ taken ih =>
    obtain rfl := taken
    have before := ih (fun t ht => fresh t (by simp [ht]))
    have after := consistent_effect before (fresh ⟨s, call, call.after folding sha256 s⟩ (by simp))
      (call.effect folding sha256 s)
    rw [funext (acceptedUpdates_append trace _)]
    exact after

theorem result_error_unchanged {call : OrderCall} {error : Error}
    (h : call.result folding sha256 s = .error error) : call.after folding sha256 s = s := by
  have effect := call.effect folding sha256 s
  rw [h] at effect
  exact effect.unchanged_of_error

/-- Along every run with fresh order ids, history, outbox and version of each stored order tell one
story, and a call that raises changes nothing. -/
theorem audit_agrees_along_runs {trace : List (Transition InMemoryOrderRepository OrderCall)}
    (run : Exec (OrderStep folding sha256) .empty trace s) (fresh : ∀ t ∈ trace, t.label.Fresh t.pre) :
    (∀ id order, s.orders.get? id = some order →
      Audited s order (acceptedUpdates folding sha256 trace id)) ∧
    ∀ t ∈ trace, ∀ error, t.label.result folding sha256 t.pre = .error error → t.post = t.pre := by
  refine ⟨(consistent_run run fresh).audited, ?_⟩
  intro t ht error raised
  exact (run.step_of_mem ht).trans (result_error_unchanged raised)

/-- An order is created, updated and assigned. -/
def assignedAfterUpdate : List OrderCall :=
  [⟨.numbered 1, .create ⟨7, "Main Street 1", "Side Street 2", 500⟩ none defaultTenantId⟩,
    ⟨.numbered 2, .update 1 ⟨none, none, some 700⟩ 1⟩,
    ⟨.numbered 3, .assign 1 9⟩]

theorem audit_agrees_assigned_after_update :
    ∃ (s : InMemoryOrderRepository) (order : DeliveryOrder), s.orders.get? 1 = some order ∧
      order.status = .assigned ∧ order.version = 3 ∧ Audited s order 1 := by
  have run := Exec.ofLabels .empty assignedAfterUpdate fun s call _ => orderStep_after PyText.asciiFolding id s call
  have fresh : ∀ t ∈ Exec.traceOf (OrderCall.after PyText.asciiFolding id) .empty assignedAfterUpdate,
      t.label.Fresh t.pre := by
    intro t ht command key tenantId op
    simp only [assignedAfterUpdate, Exec.traceOf, List.mem_cons, List.not_mem_nil, or_false] at ht
    rcases ht with rfl | rfl | rfl
    · rfl
    · simp at op
    · simp at op
  exact ⟨_, _, rfl, rfl, rfl, (audit_agrees_along_runs run fresh).1 1 _ rfl⟩

end DeliveryService
