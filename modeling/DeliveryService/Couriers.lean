import DeliveryService.Exec
import DeliveryService.OrderEffects

namespace DeliveryService

open InMemoryOrderRepository

/-- The courier is on the way with the order. -/
def ActiveFor (courierId tenantId : UUID) (order : DeliveryOrder) : Prop :=
  order.tenantId = tenantId ∧ order.courierId = some courierId ∧
    (order.status = .assigned ∨ order.status = .pickedUp)

/-- Within one tenant no courier is on the way with two orders. -/
def OneActiveOrder (s : InMemoryOrderRepository) : Prop :=
  ∀ courierId tenantId id id' order order', s.orders.get? id = some order →
    s.orders.get? id' = some order' → ActiveFor courierId tenantId order →
    ActiveFor courierId tenantId order' → id = id'

/-- An order that waits in the queue has no courier yet. -/
def QueuedUnclaimed (s : InMemoryOrderRepository) : Prop :=
  ∀ id order, s.orders.get? id = some order → order.status = .created → order.courierId = none

/-- A call that hands a queued order to a courier directly finds that courier free. -/
def AssignsFreeCourier (s : InMemoryOrderRepository) (call : OrderCall) : Prop :=
  ∀ orderId courierId order, call.op = .assign orderId courierId → s.orders.get? orderId = some order →
    order.status = .created → s.busy courierId order.tenantId = false

section

variable {folding : PyText.CaseFolding} {sha256 : String → String} {s s' : InMemoryOrderRepository}

theorem busy_iff {courierId tenantId : UUID} : s.busy courierId tenantId = true ↔
    ∃ id order, s.orders.get? id = some order ∧ ActiveFor courierId tenantId order := by
  simp only [busy, List.any_eq_true, Dict.mem_values_iff, Bool.and_eq_true, Bool.or_eq_true,
    decide_eq_true_eq, ActiveFor, and_assoc]
  constructor
  · rintro ⟨order, ⟨id, stored⟩, active⟩
    exact ⟨id, order, stored, active⟩
  · rintro ⟨id, order, stored, active⟩
    exact ⟨order, ⟨id, stored⟩, active⟩

theorem queuedUnclaimed_put {after : DeliveryOrder} (queued : QueuedUnclaimed s)
    (h : after.status = .created → after.courierId = none) : QueuedUnclaimed (s.put after) := by
  intro id order stored created
  rw [get?_put] at stored
  split at stored
  next =>
    obtain rfl := Option.some.inj stored
    exact h created
  next => exact queued id order stored created

/-- Storing an order is safe when whoever is on the way with it already was, or was free. -/
theorem oneActiveOrder_put {after : DeliveryOrder} (one : OneActiveOrder s)
    (h : ∀ courierId tenantId, ActiveFor courierId tenantId after →
      (∃ before, s.orders.get? after.id = some before ∧ ActiveFor courierId tenantId before) ∨
        s.busy courierId tenantId = false) : OneActiveOrder (s.put after) := by
  have others : ∀ courierId tenantId id order, ActiveFor courierId tenantId after → id ≠ after.id →
      s.orders.get? id = some order → ¬ ActiveFor courierId tenantId order := by
    intro courierId tenantId id order active other stored active'
    rcases h courierId tenantId active with ⟨before, stored', was⟩ | free
    · exact other (one _ _ _ _ _ _ stored stored' active' was)
    · simp [busy_iff.mpr ⟨id, order, stored, active'⟩] at free
  intro courierId tenantId id id' order order' stored stored' active active'
  rw [get?_put] at stored stored'
  split at stored
  next here =>
    obtain rfl := Option.some.inj stored
    split at stored'
    next here' => rw [here, here']
    next other' => exact absurd active' (others _ _ _ _ active other' stored')
  next other =>
    split at stored'
    next here' =>
      obtain rfl := Option.some.inj stored'
      exact absurd active (others _ _ _ _ active' other stored)
    next => exact one _ _ _ _ _ _ stored stored' active active'

theorem movedTo_not_created {order : DeliveryOrder} {target : OrderStatus}
    (allowed : OrderStateMachine.allows order.status target = true) : (order.movedTo target).status ≠ .created := by
  change target ≠ .created
  rintro rfl
  simp [allows_created] at allowed

theorem created_unclaimed {id tenantId customerId : UUID} {pickup destination : String} {weight : Int}
    {createdAt : Datetime} {order : DeliveryOrder}
    (made : DeliveryOrder.create id tenantId customerId pickup destination weight createdAt = .ok order) :
    order.id = id ∧ order.status = .created ∧ order.courierId = none := by
  rw [DeliveryOrder.create_ok made]
  exact ⟨rfl, rfl, rfl⟩

theorem queuedUnclaimed_effect {gen : Generated} {op : OrderOp} {result : Except Error (Option DeliveryOrder)}
    (queued : QueuedUnclaimed s) (effect : OrderEffect folding sha256 s gen op result s') :
    QueuedUnclaimed s' := by
  cases effect with
  | failed | replayed | idle => exact queued
  | created _ made => exact queuedUnclaimed_put queued fun _ => (created_unclaimed made).2.2
  | @updated orderId command before after stored ok =>
    have shape := DeliveryOrder.updateDetails_ok ok
    refine queuedUnclaimed_put queued fun created => ?_
    rw [shape] at created ⊢
    exact queued orderId before stored created
  | assigned _ _ => exact queuedUnclaimed_put queued OrderStatus.noConfusion
  | claimed _ _ => exact queuedUnclaimed_put queued OrderStatus.noConfusion
  | transitioned _ _ allowed =>
    exact queuedUnclaimed_put queued fun created => absurd created (movedTo_not_created allowed)

theorem activeFor_of_movedTo {order : DeliveryOrder} {target : OrderStatus} {courierId tenantId : UUID}
    (allowed : OrderStateMachine.allows order.status target = true)
    (unclaimed : order.status = .created → order.courierId = none)
    (active : ActiveFor courierId tenantId (order.movedTo target)) : ActiveFor courierId tenantId order := by
  obtain ⟨ht, hc, hs⟩ := active
  refine ⟨ht, hc, ?_⟩
  change order.courierId = some courierId at hc
  change target = .assigned ∨ target = .pickedUp at hs
  cases status : order.status with
  | created => simp [unclaimed status] at hc
  | assigned => exact .inl rfl
  | pickedUp => exact .inr rfl
  | delivered => simp [status, OrderStateMachine.allows, allowedTransitions] at allowed
  | cancelled => simp [status, OrderStateMachine.allows, allowedTransitions] at allowed

theorem activeFor_takenBy {order : DeliveryOrder} {courierId courierId' tenantId : UUID} :
    ActiveFor courierId' tenantId (order.takenBy courierId) ↔
      courierId' = courierId ∧ tenantId = order.tenantId := by
  simp [ActiveFor, DeliveryOrder.takenBy, DeliveryOrder.movedTo, eq_comm, and_comm]

theorem oneActiveOrder_takenBy {before : DeliveryOrder} {courierId : UUID} (one : OneActiveOrder s)
    (free : s.busy courierId before.tenantId = false) : OneActiveOrder (s.put (before.takenBy courierId)) := by
  refine oneActiveOrder_put one fun courier tenant active => .inr ?_
  obtain ⟨rfl, rfl⟩ := activeFor_takenBy.mp active
  exact free

theorem oneActiveOrder_effect {gen : Generated} {op : OrderOp} {result : Except Error (Option DeliveryOrder)}
    (queued : QueuedUnclaimed s) (one : OneActiveOrder s) (free : AssignsFreeCourier s ⟨gen, op⟩)
    (effect : OrderEffect folding sha256 s gen op result s') : OneActiveOrder s' := by
  cases effect with
  | failed | replayed | idle => exact one
  | created _ made =>
    refine oneActiveOrder_put one fun courier tenant active => ?_
    simp [ActiveFor, (created_unclaimed made).2.2] at active
  | @updated orderId command before after stored ok =>
    have shape := DeliveryOrder.updateDetails_ok ok
    have key := s.keyed orderId before stored
    refine oneActiveOrder_put one fun courier tenant active => .inl ⟨before, ?_, ?_⟩
    · rw [shape, key]
      exact stored
    · rw [shape] at active
      exact active
  | assigned stored created => exact oneActiveOrder_takenBy one (free _ _ _ rfl stored created)
  | claimed idle queue =>
    obtain ⟨_, rfl, _⟩ := mem_candidates.mp (queue ▸ List.mem_cons_self)
    exact oneActiveOrder_takenBy one idle
  | @transitioned orderId before command stored _ allowed =>
    have key := s.keyed orderId before stored
    refine oneActiveOrder_put one fun courier tenant active => .inl ⟨before, key.symm ▸ stored, ?_⟩
    exact activeFor_of_movedTo allowed (queued orderId before stored) active

theorem assign_busy_breaks {gen : Generated} {orderId courierId : UUID} {before : DeliveryOrder}
    (stored : s.orders.get? orderId = some before) (created : before.status = .created)
    (taken : s.busy courierId before.tenantId = true) :
    ¬ OneActiveOrder (OrderCall.after folding sha256 s ⟨gen, .assign orderId courierId⟩) := by
  obtain ⟨id, order, stored', active⟩ := busy_iff.mp taken
  have key := s.keyed orderId before stored
  have other : id ≠ before.id := by
    rintro rfl
    obtain rfl := Option.some.inj (stored'.symm.trans (key.symm ▸ stored))
    simp [ActiveFor, created] at active
  intro one
  rw [OrderCall.after, exec_assign_created stored created] at one
  refine other (one courierId before.tenantId id before.id order (before.takenBy courierId) ?_ ?_ active
    (activeFor_takenBy.mpr ⟨rfl, rfl⟩))
  · rw [orders_appendTransition, get?_put]
    exact (if_neg other).trans stored'
  · rw [orders_appendTransition, get?_put]
    exact if_pos rfl

theorem oneActiveOrder_step_iff {call : OrderCall} (queued : QueuedUnclaimed s) (one : OneActiveOrder s) :
    OneActiveOrder (call.after folding sha256 s) ↔ AssignsFreeCourier s call := by
  constructor
  · rintro still orderId courierId order shape stored created
    obtain ⟨gen, op⟩ := call
    obtain rfl : op = _ := shape
    by_contra taken
    exact assign_busy_breaks stored created (Bool.eq_true_of_not_eq_false taken) still
  · intro free
    exact oneActiveOrder_effect queued one free (call.effect folding sha256 s)

/-- A run keeps at most one active order per courier and tenant exactly when each direct assignment
of a queued order names a courier without an active order. -/
theorem one_active_order_iff_assigns_free {trace : List (Transition InMemoryOrderRepository OrderCall)}
    (run : Exec (OrderStep folding sha256) .empty trace s) :
    (∀ t ∈ trace, OneActiveOrder t.post) ↔ ∀ t ∈ trace, AssignsFreeCourier t.pre t.label := by
  refine run.good_iff_steps QueuedUnclaimed OneActiveOrder AssignsFreeCourier ?_ ?_ ?_ ?_
  · intro id order stored
    simp [InMemoryOrderRepository.empty] at stored
  · intro _ _ id id' order order' stored
    simp [InMemoryOrderRepository.empty] at stored
  · rintro s call _ queued rfl
    exact queuedUnclaimed_effect queued (call.effect folding sha256 s)
  · rintro s call _ queued one rfl
    exact oneActiveOrder_step_iff queued one

end

/-- Two orders are created; the courier claims one and is then handed the other. -/
def handedSecondOrder : List OrderCall :=
  [⟨.numbered 1, .create ⟨7, "Main Street 1", "Side Street 2", 500⟩ none defaultTenantId⟩,
    ⟨.numbered 2, .create ⟨7, "Main Street 1", "Side Street 2", 500⟩ none defaultTenantId⟩,
    ⟨.numbered 3, .claimNext 9 defaultTenantId "queue-claim"⟩,
    ⟨.numbered 4, .assign 2 9⟩]

theorem one_active_order_single_claim : ∃ trace s, Exec (OrderStep PyText.asciiFolding id) .empty trace s ∧
    s.busy 9 defaultTenantId = true ∧ ∀ t ∈ trace, OneActiveOrder t.post := by
  have run := Exec.ofLabels .empty (handedSecondOrder.take 3) fun s call _ =>
    orderStep_after PyText.asciiFolding id s call
  refine ⟨_, _, run, rfl, (one_active_order_iff_assigns_free run).mpr ?_⟩
  intro t ht orderId courierId order shape
  simp only [handedSecondOrder, List.take, Exec.traceOf, List.mem_cons, List.not_mem_nil, or_false] at ht
  rcases ht with rfl | rfl | rfl <;> simp at shape

theorem second_order_for_busy_courier :
    ¬ ∀ (folding : PyText.CaseFolding) (sha256 : String → String) trace s,
      Exec (OrderStep folding sha256) .empty trace s → OneActiveOrder s := by
  intro all
  have run := Exec.ofLabels .empty handedSecondOrder fun s call _ => orderStep_after PyText.asciiFolding id s call
  have one := all PyText.asciiFolding id _ _ run
  have same := one 9 defaultTenantId 1 2 _ _ rfl rfl ⟨rfl, rfl, .inl rfl⟩ ⟨rfl, rfl, .inl rfl⟩
  exact absurd same (by decide)

end DeliveryService
