import Mathlib.Data.Bool.AllAny
import DeliveryService.Couriers
import DeliveryService.Endpoints

namespace DeliveryService

open InMemoryOrderRepository

/-- The statuses of an order that has left the queue and was not cancelled. -/
def UnderDelivery (status : OrderStatus) : Prop :=
  status = .assigned ∨ status = .pickedUp ∨ status = .delivered

/-- Every order under delivery has a courier. -/
def Staffed (s : InMemoryOrderRepository) : Prop :=
  ∀ id order, s.orders.get? id = some order → UnderDelivery order.status → order.courierId ≠ none

/-- A dispatcher moves a queued order of the own tenant to `assigned` by the generic transition. -/
def MovesToAssigned {folding : PyText.CaseFolding} (s : InMemoryOrderRepository)
    (call : OrderHttpCall folding) : Prop :=
  ∃ orderId version correlationId order, call.request = .transitionOrder orderId .assigned version correlationId ∧
    s.orders.get? orderId = some order ∧ order.status = .created ∧ order.version = version.version ∧
    call.actor.role = .dispatcher ∧ call.actor.tenantId = order.tenantId

section

variable {folding : PyText.CaseFolding} {sha256 : String → String} {s s' : InMemoryOrderRepository}

theorem staffed_put {after : DeliveryOrder} (staffed : Staffed s)
    (h : UnderDelivery after.status → after.courierId ≠ none) : Staffed (s.put after) := by
  intro id order stored underway
  rw [get?_put] at stored
  split at stored
  next =>
    obtain rfl := Option.some.inj stored
    exact h underway
  next => exact staffed id order stored underway

theorem staffed_effect {gen : Generated} {op : OrderOp} {result : Except Error (Option DeliveryOrder)}
    (staffed : Staffed s) (effect : OrderEffect folding sha256 s gen op result s')
    (guarded : ∀ orderId command order, op = .transition orderId command → s.orders.get? orderId = some order →
      order.version = command.expectedVersion → order.status = .created → command.target ≠ .assigned) :
    Staffed s' := by
  cases effect with
  | failed | replayed | idle => exact staffed
  | created _ made =>
    refine staffed_put staffed fun underway => ?_
    simp [UnderDelivery, (created_unclaimed made).2.1] at underway
  | @updated orderId command before after stored ok =>
    have shape := DeliveryOrder.updateDetails_ok ok
    refine staffed_put staffed fun underway => ?_
    rw [shape] at underway ⊢
    exact staffed orderId before stored underway
  | assigned _ _ => exact staffed_put staffed fun _ => Option.some_ne_none _
  | claimed _ _ => exact staffed_put staffed fun _ => Option.some_ne_none _
  | @transitioned orderId before command stored current allowed =>
    refine staffed_put staffed fun underway => ?_
    change UnderDelivery command.target at underway
    have kept := staffed orderId before stored
    cases status : before.status with
    | created =>
      have target := guarded orderId command before rfl stored current status
      revert allowed underway target
      cases command.target <;> simp [status, OrderStateMachine.allows, allowedTransitions, UnderDelivery]
    | assigned => exact kept (.inl status)
    | pickedUp => exact kept (.inr (.inl status))
    | delivered => simp [status, OrderStateMachine.allows, allowedTransitions] at allowed
    | cancelled => simp [status, OrderStateMachine.allows, allowedTransitions] at allowed

theorem authorize_transition {call : OrderHttpCall folding} {orderId : UUID} {command : TransitionOrderCommand}
    (h : call.authorize s = .ok (.transition orderId command)) : ∃ version correlationId current,
      call.request = .transitionOrder orderId command.target version correlationId ∧
      version.version = command.expectedVersion ∧ s.orders.get? orderId = some current ∧
      ownsOrder call.actor current = true ∧ (call.actor.role = .customer → command.target = .cancelled) := by
  cases call.authorized_of_authorize h with
  | transition request stored owner restricted =>
    exact ⟨_, _, _, request, rfl, stored, owner, fun customer => (restricted customer).2⟩

theorem movesToAssigned_authorize {call : OrderHttpCall folding} (moves : MovesToAssigned s call) :
    ∃ orderId command order, call.authorize s = .ok (.transition orderId command) ∧
      s.orders.get? orderId = some order ∧ order.status = .created ∧
      order.version = command.expectedVersion ∧ command.target = .assigned := by
  obtain ⟨orderId, version, correlationId, order, request, stored, created, current, role, tenant⟩ := moves
  refine ⟨orderId, ⟨.assigned, version.version, call.actor.userId, call.actor.role.value, correlationId⟩, order,
    ?_, stored, created, current, rfl⟩
  simp [OrderHttpCall.authorize, request, stored, ownsOrder, canAccessOrder, role, tenant]

theorem queuedUnclaimed_http (queued : QueuedUnclaimed s) (call : OrderHttpCall folding) :
    QueuedUnclaimed (call.exec sha256 s).2 := by
  rw [call.exec_eq]
  cases call.authorize s with
  | error refused => exact queued
  | ok op => exact queuedUnclaimed_effect queued (exec_effect op)

/-- Only a dispatcher reaches the edge from `created` to `assigned`: a customer may only cancel and a
queued order has no courier who could own it. -/
theorem dispatcher_of_created {actor : Actor} {order : DeliveryOrder} {target : OrderStatus}
    (owner : ownsOrder actor order = true) (unclaimed : order.courierId = none)
    (restricted : actor.role = .customer → target = .cancelled) (assigned : target = .assigned) :
    actor.role = .dispatcher ∧ actor.tenantId = order.tenantId := by
  unfold ownsOrder canAccessOrder at owner
  split_ifs at owner with tenant
  refine ⟨?_, not_not.mp tenant⟩
  cases role : actor.role with
  | dispatcher => rfl
  | customer => simp [assigned] at restricted; exact absurd role restricted
  | courier => simp [role, unclaimed] at owner

theorem staffed_http {call : OrderHttpCall folding} (queued : QueuedUnclaimed s) (staffed : Staffed s)
    (guarded : ¬ MovesToAssigned s call) : Staffed (call.exec sha256 s).2 := by
  rw [call.exec_eq]
  cases authorized : call.authorize s with
  | error refused => exact staffed
  | ok op =>
    refine staffed_effect staffed (exec_effect op) ?_
    rintro orderId command order rfl stored current created assigned
    obtain ⟨version, correlationId, found, request, hv, stored', owner, restricted⟩ :=
      authorize_transition authorized
    obtain rfl := Option.some.inj (stored.symm.trans stored')
    have dispatcher := dispatcher_of_created owner (queued orderId order stored created) restricted assigned
    exact guarded ⟨orderId, version, correlationId, order, assigned ▸ request, stored, created,
      current.trans hv.symm, dispatcher⟩

theorem movesToAssigned_breaks {call : OrderHttpCall folding} (queued : QueuedUnclaimed s)
    (moves : MovesToAssigned s call) : ¬ Staffed (call.exec sha256 s).2 := by
  obtain ⟨orderId, command, order, authorized, stored, created, current, assigned⟩ :=
    movesToAssigned_authorize moves
  have allowed : OrderStateMachine.allows order.status command.target = true := by
    rw [created, assigned]
    rfl
  intro staffed
  rw [call.exec_eq, authorized] at staffed
  simp only [exec_transition_allowed stored current allowed] at staffed
  refine staffed order.id (order.movedTo command.target) ?_ (.inl assigned) (queued orderId order stored created)
  rw [orders_appendTransition, get?_put]
  exact if_pos rfl

/-- Along a run of the order endpoints every order under delivery has a courier exactly when no
dispatcher moves a queued order to `assigned` without naming one. -/
theorem staffed_iff_not_moved_to_assigned
    {trace : List (Transition InMemoryOrderRepository (OrderHttpCall folding))}
    (run : Exec (OrderHttpStep sha256) .empty trace s) :
    (∀ t ∈ trace, Staffed t.post) ↔ ∀ t ∈ trace, ¬ MovesToAssigned t.pre t.label := by
  refine run.good_iff_steps QueuedUnclaimed Staffed (fun s call => ¬ MovesToAssigned s call) ?_ ?_ ?_ ?_
  · intro id order stored
    simp [InMemoryOrderRepository.empty] at stored
  · intro id order stored
    simp [InMemoryOrderRepository.empty] at stored
  · rintro s call _ queued rfl
    exact queuedUnclaimed_http queued call
  · rintro s call _ queued staffed rfl
    constructor
    · intro still moves
      exact movesToAssigned_breaks queued moves still
    · exact staffed_http queued staffed

end

def mainStreet : Address := ⟨"Main Street 1", ⟨"Main  Street 1", by decide +kernel⟩, by decide +kernel⟩

def sideStreet : Address := ⟨"Side Street 2", ⟨" Side Street 2", by decide +kernel⟩, by decide +kernel⟩

def customerSeven : Actor := ⟨7, .customer, defaultTenantId⟩

def dispatcherTwo : Actor := ⟨2, .dispatcher, defaultTenantId⟩

/-- A customer creates an order, a dispatcher moves it to `assigned`. -/
def assignedByDispatcher : List (OrderHttpCall PyText.asciiFolding) :=
  [⟨customerSeven, .numbered 1, .createOrder ⟨7, mainStreet, sideStreet, ⟨500, by decide⟩, by decide +kernel⟩
      ⟨"key-0001", by decide +kernel, List.all_iff_forall_prop.mp (by decide +kernel)⟩⟩,
    ⟨dispatcherTwo, .numbered 2, .transitionOrder 1 .assigned ⟨1, by decide⟩ "request-2"⟩]

theorem orderHttpStep_exec {folding : PyText.CaseFolding} (sha256 : String → String)
    (s : InMemoryOrderRepository) (call : OrderHttpCall folding) :
    OrderHttpStep sha256 s call (call.exec sha256 s).2 := rfl

def courierFive : Actor := ⟨5, .courier, defaultTenantId⟩

/-- The order is created, claimed by a courier and picked up. -/
def pickedUpByCourier : List (OrderHttpCall PyText.asciiFolding) :=
  assignedByDispatcher.take 1 ++ [⟨courierFive, .numbered 2, .claimNextOrder "request-2"⟩,
    ⟨courierFive, .numbered 3, .transitionOrder 1 .pickedUp ⟨2, by decide⟩ "request-3"⟩]

theorem staffed_when_claimed :
    ∃ (trace : List (Transition InMemoryOrderRepository (OrderHttpCall PyText.asciiFolding))) (s : _),
      Exec (OrderHttpStep id) .empty trace s ∧
      (s.orders.get? 1).map (fun order => (order.status, order.courierId)) = some (.pickedUp, some 5) ∧
      ∀ t ∈ trace, Staffed t.post := by
  have run := Exec.ofLabels .empty pickedUpByCourier fun s call _ => orderHttpStep_exec id s call
  refine ⟨_, _, run, rfl, (staffed_iff_not_moved_to_assigned run).mpr ?_⟩
  rintro t ht ⟨orderId, version, correlationId, order, request, _⟩
  simp only [pickedUpByCourier, assignedByDispatcher, List.take, List.cons_append, List.nil_append, Exec.traceOf,
    List.mem_cons, List.not_mem_nil, or_false] at ht
  rcases ht with rfl | rfl | rfl
  · simp at request
  · simp at request
  · simp at request

theorem assigned_without_courier :
    ¬ ∀ (folding : PyText.CaseFolding) (sha256 : String → String)
      (trace : List (Transition InMemoryOrderRepository (OrderHttpCall folding))) s,
      Exec (OrderHttpStep sha256) .empty trace s → Staffed s := by
  intro all
  have run := Exec.ofLabels .empty assignedByDispatcher fun s call _ => orderHttpStep_exec id s call
  have staffed := all PyText.asciiFolding id _ _ run
  exact staffed 1 _ rfl (.inl rfl) rfl

end DeliveryService
