import DeliveryService.Staffing

namespace DeliveryService

open InMemoryOrderRepository

variable {folding : PyText.CaseFolding}

/-- A creation draws an id that no stored order has. -/
def OrderHttpCall.Fresh (s : InMemoryOrderRepository) (call : OrderHttpCall folding) : Prop :=
  ∀ body key, call.request = .createOrder body key → s.orders.get? call.gen.orderId = none

/-- A courier takes a queued order of the own tenant and carries it from then on. -/
structure OrderHttpCall.Claims (call : OrderHttpCall folding) (before after : DeliveryOrder) : Prop where
  requested : ∃ correlationId, call.request = .claimNextOrder correlationId
  courier : call.actor.role = .courier
  tenant : call.actor.tenantId = before.tenantId
  queued : before.status = .created
  assigned : after.status = .assigned
  carried : after.courierId = some call.actor.userId

/-- The event reports a step of the order that the actor was entitled to. -/
structure OrderHttpCall.EntitledTo (call : OrderHttpCall folding) (before after : DeliveryOrder)
    (event : OrderStatusChanged) : Prop where
  actorId : event.actorId = call.actor.userId
  actorRole : event.actorRole = call.actor.role.value
  source : event.fromStatus = before.status
  target : event.toStatus = after.status
  tenant : call.actor.tenantId = before.tenantId
  customer : event.actorRole = "customer" → event.actorId = before.customerId ∧ event.toStatus = .cancelled
  courier : event.actorRole = "courier" → before.courierId = some event.actorId ∨ call.Claims before after

section

variable {sha256 : String → String} {s s' : InMemoryOrderRepository} {call : OrderHttpCall folding}

theorem tenant_of_owner {actor : Actor} {order : DeliveryOrder} (owner : ownsOrder actor order = true) :
    actor.tenantId = order.tenantId := by
  unfold ownsOrder canAccessOrder at owner
  split_ifs at owner with tenant
  exact not_not.mp tenant

theorem carrier_of_owner {actor : Actor} {order : DeliveryOrder} (owner : ownsOrder actor order = true)
    (courier : actor.role = .courier) : order.courierId = some actor.userId := by
  unfold ownsOrder canAccessOrder at owner
  split_ifs at owner
  simpa [courier] using owner

/-- What an endpoint does to the history and to the stored orders. -/
inductive OrderHttpCall.Outcome (s : InMemoryOrderRepository) (call : OrderHttpCall folding)
    (s' : InMemoryOrderRepository) : Prop
  | silent : s'.transitionHistory = s.transitionHistory →
      (∀ id before after, s.orders.get? id = some before → s'.orders.get? id = some after → after ≠ before →
        ownsOrder call.actor before = true) → Outcome s call s'
  | moved (before after : DeliveryOrder) (event : OrderStatusChanged) : event.orderId = before.id →
      after.id = before.id →
      s.orders.get? before.id = some before → s' = (s.put after).appendTransition event →
      call.EntitledTo before after event → (ownsOrder call.actor before = true ∨ call.Claims before after) →
      Outcome s call s'

theorem OrderHttpCall.outcome (fresh : call.Fresh s) : call.Outcome s (call.exec sha256 s).2 := by
  have same (id : UUID) (before after : DeliveryOrder) (stored : s.orders.get? id = some before)
      (stored' : s.orders.get? id = some after) (changed : after ≠ before) : ownsOrder call.actor before = true :=
    absurd (Option.some.inj (stored'.symm.trans stored)) changed
  rw [call.exec_eq]
  cases allowed : call.authorize s with
  | error refused => exact .silent rfl same
  | ok op =>
    have effect : OrderEffect folding sha256 s call.gen op _ _ := exec_effect op
    change call.Outcome s (op.exec folding sha256 s call.gen).2
    generalize (op.exec folding sha256 s call.gen).1 = result at effect
    generalize (op.exec folding sha256 s call.gen).2 = after at effect ⊢
    cases call.authorized_of_authorize allowed with
    | @create body key command request own =>
      cases effect with
      | failed | replayed => exact .silent rfl same
      | @created _ _ _ order missing made =>
        refine .silent rfl fun id before after stored stored' changed => ?_
        have new : order.id = call.gen.orderId := by rw [DeliveryOrder.create_ok made]
        rw [get?_insertCreated, new] at stored'
        split_ifs at stored' with here
        · rw [here, fresh body key request] at stored
          cases stored
        · exact same id before after stored stored' changed
    | @update orderId body version command current request stored owner =>
      generalize version.version = expected at effect
      cases effect with
      | failed => exact .silent rfl same
      | @updated _ _ before updated found accepted =>
        obtain rfl := Option.some.inj (stored.symm.trans found)
        have own : updated.id = current.id := by rw [DeliveryOrder.updateDetails_ok accepted]
        have key := s.keyed orderId current stored
        refine .silent rfl fun id before after stored stored' changed => ?_
        rw [get?_put] at stored'
        split_ifs at stored' with here
        · rw [here, own, key, found] at stored
          exact Option.some.inj stored ▸ owner
        · exact same id before after stored stored' changed
    | @transition orderId status version correlationId current request stored owner restricted =>
      cases effect with
      | failed => exact .silent rfl same
      | @transitioned _ before _ found current' permitted =>
        obtain rfl := Option.some.inj (stored.symm.trans found)
        have key := s.keyed orderId current stored
        refine .moved current (current.movedTo status) _ rfl rfl (key.symm ▸ stored) rfl ?_ (.inl owner)
        refine ⟨rfl, rfl, rfl, rfl, tenant_of_owner owner, fun role => ?_, fun role => ?_⟩
        · have customer : call.actor.role = .customer := by
            cases h : call.actor.role <;> simp [statusEvent, h, Role.value] at role ⊢
          exact restricted customer
        · have courier : call.actor.role = .courier := by
            cases h : call.actor.role <;> simp [statusEvent, h, Role.value] at role ⊢
          exact .inl (carrier_of_owner owner courier)
    | @claimNext correlationId request courier =>
      cases effect with
      | failed | idle => exact .silent rfl same
      | @claimed _ _ _ before rest free queue =>
        obtain ⟨stored, tenant, queued⟩ := mem_candidates.mp (queue ▸ List.mem_cons_self)
        have claims : call.Claims before (before.takenBy call.actor.userId) :=
          ⟨⟨_, request⟩, courier, tenant.symm, queued, rfl, rfl⟩
        refine .moved before (before.takenBy call.actor.userId) _ rfl rfl stored rfl ?_ (.inr claims)
        refine ⟨rfl, by rw [courier]; rfl, rfl, rfl, tenant.symm, fun role => ?_, fun _ => .inr claims⟩
        simp [statusEvent] at role

theorem transitions_of_outcome (outcome : call.Outcome s s') (event : OrderStatusChanged)
    (mem : event ∈ s'.transitionHistory) : event ∈ s.transitionHistory ∨
      s'.transitionHistory = s.transitionHistory ++ [event] ∧ ∃ before after,
        s.orders.get? event.orderId = some before ∧ s'.orders.get? event.orderId = some after ∧
        call.EntitledTo before after event := by
  cases outcome with
  | silent same _ => exact .inl (same ▸ mem)
  | moved before after reported own kept stored shape entitled _ =>
    subst shape
    rcases List.mem_append.mp mem with old | new
    · exact .inl old
    · obtain rfl := List.mem_singleton.mp new
      refine .inr ⟨rfl, before, after, own ▸ stored, ?_, entitled⟩
      rw [orders_appendTransition, get?_put]
      exact if_pos (own.trans kept.symm)

theorem changes_of_outcome (outcome : call.Outcome s s') {id : UUID} {before after : DeliveryOrder}
    (stored : s.orders.get? id = some before) (stored' : s'.orders.get? id = some after) (changed : after ≠ before) :
    ownsOrder call.actor before = true ∨ call.Claims before after := by
  cases outcome with
  | silent _ owned => exact .inl (owned id before after stored stored' changed)
  | moved current moved event own kept found shape _ allowed =>
    subst shape
    rw [orders_appendTransition, get?_put] at stored'
    split_ifs at stored' with here
    · rw [here, kept, found] at stored
      obtain rfl := Option.some.inj stored
      obtain rfl := Option.some.inj stored'
      exact allowed
    · exact absurd (Option.some.inj (stored'.symm.trans stored)) changed

/-- Along every run of the order endpoints each event of the history was due to an actor who was entitled to
it, and an order is only changed by an actor who could access it or by the courier who claims it. -/
theorem transitions_authorized {trace : List (Transition InMemoryOrderRepository (OrderHttpCall folding))}
    (run : Exec (OrderHttpStep sha256) .empty trace s) (fresh : ∀ t ∈ trace, t.label.Fresh t.pre) :
    (∀ event ∈ s.transitionHistory, ∃ t ∈ trace,
      t.post.transitionHistory = t.pre.transitionHistory ++ [event] ∧ ∃ before after,
        t.pre.orders.get? event.orderId = some before ∧ t.post.orders.get? event.orderId = some after ∧
        t.label.EntitledTo before after event) ∧
    ∀ t ∈ trace, ∀ id before after, t.pre.orders.get? id = some before → t.post.orders.get? id = some after →
      after ≠ before →
        canAccessOrder t.label.actor before.tenantId before.customerId before.courierId = true ∨
          t.label.Claims before after := by
  have outcomes : ∀ t ∈ trace, t.label.Outcome t.pre t.post := by
    intro t ht
    rw [run.step_of_mem ht]
    exact OrderHttpCall.outcome (fresh t ht)
  refine ⟨?_, fun t ht id before after => changes_of_outcome (outcomes t ht)⟩
  clear fresh
  -- an event that the last request did not add was there before it
  induction run with
  | start => simp [InMemoryOrderRepository.empty]
  | @next trace s call s' previous step ih =>
    intro event mem
    rcases transitions_of_outcome (outcomes ⟨s, call, s'⟩ (by simp)) event mem with old | new
    · obtain ⟨t, ht, found⟩ := ih (fun t ht => outcomes t (List.mem_append_left _ ht)) event old
      exact ⟨t, List.mem_append_left _ ht, found⟩
    · exact ⟨⟨s, call, s'⟩, by simp, new⟩

end

/-- A customer creates an order, a courier claims it. -/
def claimedByCourier : List (OrderHttpCall PyText.asciiFolding) :=
  assignedByDispatcher.take 1 ++ [⟨⟨9, .courier, defaultTenantId⟩, .numbered 2, .claimNextOrder "request-2"⟩]

theorem transitions_authorized_claimed :
    ∃ (trace : List (Transition InMemoryOrderRepository (OrderHttpCall PyText.asciiFolding))) (s : _),
      Exec (OrderHttpStep id) .empty trace s ∧ s.transitionHistory.length = 1 ∧
      ∀ event ∈ s.transitionHistory, ∃ t ∈ trace, ∃ before after, t.label.EntitledTo before after event := by
  have run := Exec.ofLabels .empty claimedByCourier fun s call _ => orderHttpStep_exec id s call
  have authorized := transitions_authorized run (by
    intro t ht body key request
    simp only [claimedByCourier, assignedByDispatcher, List.take, List.cons_append, List.nil_append, Exec.traceOf,
      List.mem_cons, List.not_mem_nil, or_false] at ht
    rcases ht with rfl | rfl
    · rfl
    · cases request)
  refine ⟨_, _, run, by decide +kernel, fun event mem => ?_⟩
  obtain ⟨t, ht, -, before, after, -, -, entitled⟩ := authorized.1 event mem
  exact ⟨t, ht, before, after, entitled⟩

end DeliveryService
