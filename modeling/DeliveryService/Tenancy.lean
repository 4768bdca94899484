import DeliveryService.Authorization
import DeliveryService.LifecycleEdits
import DeliveryService.Visibility

namespace DeliveryService

open InMemoryOrderRepository

/-- The query parameters of `list_orders` after validation. -/
structure ListParameters where
  limit : Int
  offset : Int
  sort : String
  statusFilter : Option String
  sized : 1 ≤ limit ∧ limit ≤ 100
  started : 0 ≤ offset
  sortable : sort ∈ ["created_at", "status"]
  known : ∀ text ∈ statusFilter, (OrderStatus.ofValue text).isSome = true

def listOrders (actor : Actor) (parameters : ListParameters) : InMemory (List OrderRead) := do
  let orders ← listVisible (actor.query parameters.sort parameters.statusFilter parameters.limit parameters.offset)
  pure (orders.map OrderRead.ofOrder)

/-- A request to an endpoint of the order resource. -/
inductive EndpointRequest (folding : PyText.CaseFolding)
  | order (request : OrderRequest folding)
  | listOrders (parameters : ListParameters)

inductive EndpointAnswer
  | order (answer : OrderAnswer)
  | listed (orders : List OrderRead)
deriving DecidableEq

variable {folding : PyText.CaseFolding}

/-- The order that a request names in its path. -/
def EndpointRequest.orderId? : EndpointRequest folding → Option UUID
  | .order (.updateOrder orderId _ _) => some orderId
  | .order (.transitionOrder orderId _ _ _) => some orderId
  | _ => none

structure EndpointCall (folding : PyText.CaseFolding) where
  actor : Actor
  gen : Generated
  request : EndpointRequest folding

def EndpointCall.exec (sha256 : String → String) (s : InMemoryOrderRepository) (call : EndpointCall folding) :
    Except Error EndpointAnswer × InMemoryOrderRepository :=
  match call.request with
  | .order request =>
    let outcome := OrderHttpCall.exec sha256 s ⟨call.actor, call.gen, request⟩
    (outcome.1.map .order, outcome.2)
  | .listOrders parameters =>
    let outcome := InPlace.exec (listOrders call.actor parameters) s
    (outcome.1.map .listed, outcome.2)

/-- A creation draws an id that no stored order has. -/
def EndpointCall.Fresh (s : InMemoryOrderRepository) (call : EndpointCall folding) : Prop :=
  ∀ body key, call.request = .order (.createOrder body key) → s.orders.get? call.gen.orderId = none

/-- The stored order, if it belongs to the tenant. -/
def InMemoryOrderRepository.orderWithin (s : InMemoryOrderRepository) (tenantId id : UUID) : Option DeliveryOrder :=
  (s.orders.get? id).filter fun order => order.tenantId = tenantId

/-- Two states that a tenant cannot tell apart: they agree on its orders and on the records of its scopes. -/
structure SameTenant (tenantId : UUID) (s s' : InMemoryOrderRepository) : Prop where
  orders : ∀ id, s.orderWithin tenantId id = s'.orderWithin tenantId id
  records : ∀ customerId key, s.idempotency.get? (idempotencyScope tenantId customerId key) =
    s'.idempotency.get? (idempotencyScope tenantId customerId key)

/-- The orders of all other tenants are as before. -/
def OthersKept (tenantId : UUID) (s s' : InMemoryOrderRepository) : Prop :=
  ∀ id order, order.tenantId ≠ tenantId → (s'.orders.get? id = some order ↔ s.orders.get? id = some order)

/-- The id is an order of the tenant in both states, or of nobody. -/
def OwnOrAbsent (tenantId id : UUID) (s s' : InMemoryOrderRepository) : Prop :=
  ((s.orderWithin tenantId id).isSome = true ∧ (s'.orderWithin tenantId id).isSome = true) ∨
    s.orders.get? id = none ∧ s'.orders.get? id = none

section

variable {sha256 : String → String} {s s' : InMemoryOrderRepository} {tenantId : UUID} {gen : Generated}

theorem orderWithin_eq_some {id : UUID} {order : DeliveryOrder} :
    s.orderWithin tenantId id = some order ↔ s.orders.get? id = some order ∧ order.tenantId = tenantId := by
  simp [orderWithin, Option.filter_eq_some_iff]

theorem SameTenant.stored (same : SameTenant tenantId s s') {id : UUID} {order : DeliveryOrder}
    (own : order.tenantId = tenantId) : s.orders.get? id = some order ↔ s'.orders.get? id = some order := by
  have here : s.orderWithin tenantId id = some order ↔ s'.orderWithin tenantId id = some order := by rw [same.orders id]
  simpa [orderWithin_eq_some, own] using here

theorem SameTenant.named (same : SameTenant tenantId s s') {id : UUID} (named : OwnOrAbsent tenantId id s s') :
    s.orders.get? id = s'.orders.get? id := by
  rcases named with ⟨own, -⟩ | ⟨none, none'⟩
  · obtain ⟨order, found⟩ := Option.isSome_iff_exists.mp own
    obtain ⟨stored, tenant⟩ := orderWithin_eq_some.mp found
    rw [stored, (same.stored tenant).mp stored]
  · rw [none, none']

theorem SameTenant.filter_perm (same : SameTenant tenantId s s') {p : DeliveryOrder → Bool}
    (inside : ∀ order, p order = true → order.tenantId = tenantId) :
    (s.orders.values.filter p).Perm (s'.orders.values.filter p) := by
  have nodup := (Dict.nodup_values s.keyed).filter p
  have nodup' := (Dict.nodup_values s'.keyed).filter p
  refine (List.perm_ext_iff_of_nodup nodup nodup').mpr fun order => ?_
  rw [List.mem_filter, List.mem_filter, Dict.mem_values_iff, Dict.mem_values_iff]
  refine and_congr_left fun selected => exists_congr fun id => ?_
  exact same.stored (inside order selected)

theorem SameTenant.busy (same : SameTenant tenantId s s') (courierId : UUID) :
    s.busy courierId tenantId = s'.busy courierId tenantId := by
  have perm := same.filter_perm (p := fun order => order.tenantId = tenantId && order.courierId = some courierId &&
    (order.status = .assigned || order.status = .pickedUp)) (by simp; tauto)
  rw [Bool.eq_iff_iff]
  unfold InMemoryOrderRepository.busy
  rw [List.any_eq_true, List.any_eq_true]
  refine exists_congr fun order => ?_
  have mem := perm.mem_iff (a := order)
  rw [List.mem_filter, List.mem_filter] at mem
  exact mem

/-- Orders with different ids are sorted alike, whatever their order in the dictionary. -/
theorem SameTenant.sortedBy {κ : Type} [LinearOrder κ] (same : SameTenant tenantId s s') {p : DeliveryOrder → Bool}
    (inside : ∀ order, p order = true → order.tenantId = tenantId) {key : DeliveryOrder → κ}
    (distinct : ∀ a b, key a = key b → a.id = b.id) :
    (s.orders.values.filter p).sortedBy key = (s'.orders.values.filter p).sortedBy key := by
  refine (same.filter_perm inside).sortedBy_eq key fun a ha b hb equal => ?_
  have stored := stored_of_mem_values (List.mem_of_mem_filter ha)
  rw [distinct a b equal, stored_of_mem_values (List.mem_of_mem_filter hb)] at stored
  exact (Option.some.inj stored).symm

theorem SameTenant.candidates (same : SameTenant tenantId s s') : s.candidates tenantId = s'.candidates tenantId :=
  same.sortedBy (by simp; tauto) fun _ _ equal => congrArg (fun key => (ofLex key).2) equal

theorem SameTenant.visibleIn (same : SameTenant tenantId s s') {query : OrderQuery} (own : query.tenantId = tenantId) :
    visibleIn query s.orders.values = visibleIn query s'.orders.values := by
  have inside (order : DeliveryOrder) (seen : (isVisible query order &&
      query.statusFilter.all fun status => order.status.value = status) = true) : order.tenantId = tenantId := by
    simp only [isVisible, Bool.and_eq_true, decide_eq_true_eq] at seen
    exact seen.1.1.trans own
  unfold DeliveryService.visibleIn
  split_ifs
  · exact same.sortedBy inside fun _ _ equal => congrArg (fun key => (ofLex key).2) equal
  · exact same.sortedBy inside fun _ _ equal => congrArg (fun key => (ofLex key).2) equal

theorem SameTenant.put (same : SameTenant tenantId s s') (order : DeliveryOrder) :
    SameTenant tenantId (s.put order) (s'.put order) := by
  refine ⟨fun id => ?_, same.records⟩
  simp only [orderWithin, get?_put]
  split_ifs
  · rfl
  · exact same.orders id

theorem SameTenant.appendTransition (same : SameTenant tenantId s s') (event : OrderStatusChanged) :
    SameTenant tenantId (s.appendTransition event) (s'.appendTransition event) :=
  ⟨same.orders, same.records⟩

theorem SameTenant.insertCreated (same : SameTenant tenantId s s') (order : DeliveryOrder) (eventId : UUID)
    (record : Option (String × String)) :
    SameTenant tenantId (s.insertCreated order eventId record) (s'.insertCreated order eventId record) := by
  refine ⟨(same.put order).orders, fun customerId key => ?_⟩
  cases record with
  | none => exact same.records customerId key
  | some record =>
    simp only [InMemoryOrderRepository.insertCreated, Dict.get?_set]
    split_ifs
    · rfl
    · exact same.records customerId key

theorem SameTenant.putEdit (same : SameTenant tenantId s s') (outcome : DeliveryOrder × Option OrderStatusChanged) :
    SameTenant tenantId (s.putEdit outcome) (s'.putEdit outcome) := by
  cases event : outcome.2 with
  | none => simpa [InMemoryOrderRepository.putEdit, event] using same.put outcome.1
  | some event' => simpa [InMemoryOrderRepository.putEdit, event] using (same.put outcome.1).appendTransition event'

theorem othersKept_refl (tenantId : UUID) (s : InMemoryOrderRepository) : OthersKept tenantId s s :=
  fun _ _ _ => Iff.rfl

theorem othersKept_put {order : DeliveryOrder} (own : order.tenantId = tenantId)
    (place : ∀ stored, s.orders.get? order.id = some stored → stored.tenantId = tenantId) :
    OthersKept tenantId s (s.put order) := by
  intro id other foreign
  rw [get?_put]
  split_ifs with here
  · subst here
    constructor
    · intro same
      exact absurd (Option.some.inj same ▸ own) foreign
    · intro stored
      exact absurd (place other stored) foreign
  · rfl

/-- What a use case does for the tenant of the caller is the same in both states and leaves the rest alone. -/
def TenantBound (tenantId : UUID) (s : InMemoryOrderRepository)
    (outcome outcome' : Except Error (Option DeliveryOrder) × InMemoryOrderRepository) : Prop :=
  outcome.1 = outcome'.1 ∧ SameTenant tenantId outcome.2 outcome'.2 ∧ OthersKept tenantId s outcome.2

theorem create_bound (same : SameTenant tenantId s s') (command : CreateOrderCommand) (key : Option String)
    (fresh : s.orders.get? gen.orderId = none) :
    TenantBound tenantId s (OrderOp.exec folding sha256 s gen (.create command key tenantId))
      (OrderOp.exec folding sha256 s' gen (.create command key tenantId)) := by
  have record : s.recordFor (creationRecord sha256 command key tenantId) =
      s'.recordFor (creationRecord sha256 command key tenantId) := by
    unfold creationRecord
    cases key.filter (· ≠ "") with
    | none => rfl
    | some key => exact same.records command.customerId key
  rw [exec_create, exec_create, record]
  cases s'.recordFor (creationRecord sha256 command key tenantId) with
  | some found =>
    obtain ⟨saved, snapshot⟩ := found
    simp only
    split_ifs
    · exact ⟨rfl, same, othersKept_refl _ _⟩
    · exact ⟨rfl, same, othersKept_refl _ _⟩
  | none =>
    simp only
    cases made : DeliveryOrder.create gen.orderId tenantId command.customerId command.pickupAddress
        command.destinationAddress command.weightGrams gen.now with
    | error refused => exact ⟨rfl, same, othersKept_refl _ _⟩
    | ok order =>
      have shape := DeliveryOrder.create_ok made
      have kept : OthersKept tenantId s (s.put order) := by
        refine othersKept_put (by rw [shape]) fun stored found => ?_
        rw [shape, fresh] at found
        cases found
      exact ⟨rfl, same.insertCreated order gen.eventId _, kept⟩

theorem claimNext_bound (same : SameTenant tenantId s s') (courierId : UUID) (correlationId : String) :
    TenantBound tenantId s (OrderOp.exec folding sha256 s gen (.claimNext courierId tenantId correlationId))
      (OrderOp.exec folding sha256 s' gen (.claimNext courierId tenantId correlationId)) := by
  rw [exec_claimNext, exec_claimNext, same.busy, ← same.candidates]
  split_ifs
  · exact ⟨rfl, same, othersKept_refl _ _⟩
  · cases queue : s.candidates tenantId with
    | nil => exact ⟨rfl, same, othersKept_refl _ _⟩
    | cons before rest =>
      obtain ⟨stored, own, -⟩ := mem_candidates.mp (queue ▸ List.mem_cons_self)
      refine ⟨rfl, (same.put _).appendTransition _, othersKept_put own fun other found => ?_⟩
      rw [← Option.some.inj (stored.symm.trans found)]
      exact own

theorem edit_bound (same : SameTenant tenantId s s') {op : OrderOp} {orderId : UUID} {change : Edit}
    (edits : OrderJob.edit? folding (.call ⟨gen, op⟩) = some (orderId, change, gen))
    (named : s.orders.get? orderId = s'.orders.get? orderId) {current : DeliveryOrder}
    (stored : s.orders.get? orderId = some current) (own : current.tenantId = tenantId)
    (keeps : ∀ outcome, change.change current = .ok outcome → outcome.1.tenantId = current.tenantId) :
    TenantBound tenantId s (op.exec folding sha256 s gen) (op.exec folding sha256 s' gen) := by
  have ran : op.exec folding sha256 s gen = _ := exec_edit sha256 edits s
  have ran' : op.exec folding sha256 s' gen = _ := exec_edit sha256 edits s'
  rw [ran, ran', ← named, stored]
  simp only
  cases changed : change.change current with
  | error refused => exact ⟨rfl, same, othersKept_refl _ _⟩
  | ok outcome =>
    have key := s.keyed orderId current stored
    have id := (change.lawful current outcome.1 outcome.2 changed).1
    have kept : OthersKept tenantId s (s.put outcome.1) := by
      refine othersKept_put ((keeps outcome changed).trans own) fun other found => ?_
      rw [id, key, stored] at found
      exact Option.some.inj found ▸ own
    refine ⟨rfl, same.putEdit outcome, ?_⟩
    obtain ⟨order, event⟩ := outcome
    cases event with
    | none => exact kept
    | some event => exact kept

theorem updateEdit_tenant {current : DeliveryOrder} {command : UpdateOrderCommand} {version : Int}
    {outcome : DeliveryOrder × Option OrderStatusChanged}
    (changed : (updateEdit folding command version).change current = .ok outcome) :
    outcome.1.tenantId = current.tenantId := by
  simp only [updateEdit] at changed
  split_ifs at changed
  obtain ⟨updated, accepted, rest⟩ := bind_ok changed
  obtain rfl := Except.ok.inj rest
  simp only
  rw [DeliveryOrder.updateDetails_ok accepted]

theorem transitionEdit_tenant {current : DeliveryOrder} {command : TransitionOrderCommand}
    {outcome : DeliveryOrder × Option OrderStatusChanged}
    (changed : (transitionEdit command gen).change current = .ok outcome) :
    outcome.1.tenantId = current.tenantId := by
  simp only [transitionEdit] at changed
  split_ifs at changed
  have moved : current.transition command.target = .ok outcome.1 := moved_of_reporting changed
  rw [(DeliveryOrder.transition_ok moved).2]
  rfl

/-- The checks of an endpoint read nothing but the order that its request names. -/
theorem authorize_congr {actor : Actor} {request : OrderRequest folding}
    (named : ∀ id, (EndpointRequest.order request).orderId? = some id → s.orders.get? id = s'.orders.get? id) :
    OrderHttpCall.authorize s ⟨actor, gen, request⟩ = OrderHttpCall.authorize s' ⟨actor, gen, request⟩ := by
  cases request with
  | createOrder body key => rfl
  | claimNextOrder correlationId => rfl
  | updateOrder orderId body version => simp only [OrderHttpCall.authorize, named orderId rfl]
  | transitionOrder orderId status version correlationId => simp only [OrderHttpCall.authorize, named orderId rfl]

theorem order_bound {actor : Actor} {request : OrderRequest folding} (same : SameTenant actor.tenantId s s')
    (fresh : ∀ body key, request = .createOrder body key → s.orders.get? gen.orderId = none)
    (named : ∀ id, (EndpointRequest.order request).orderId? = some id → s.orders.get? id = s'.orders.get? id)
    {op : OrderOp} (authorized : OrderHttpCall.authorize s ⟨actor, gen, request⟩ = .ok op) :
    TenantBound actor.tenantId s (op.exec folding sha256 s gen) (op.exec folding sha256 s' gen) := by
  cases OrderHttpCall.authorized_of_authorize authorized with
  | @create body key command request' _ => exact create_bound same command _ (fresh body key request')
  | @claimNext correlationId _ _ => exact claimNext_bound same actor.userId correlationId
  | @update orderId body version command current request' stored owner =>
    have same_order := named orderId (by rw [show request = _ from request']; rfl)
    exact edit_bound same rfl same_order stored (tenant_of_owner owner).symm fun _ => updateEdit_tenant
  | @transition orderId status version correlationId current request' stored owner _ =>
    have same_order := named orderId (by rw [show request = _ from request']; rfl)
    exact edit_bound same rfl same_order stored (tenant_of_owner owner).symm fun _ => transitionEdit_tenant

theorem exec_listOrders (actor : Actor) (parameters : ListParameters) (s : InMemoryOrderRepository) :
    InPlace.exec (listOrders actor parameters) s = (.ok ((pySlice (visibleIn (actor.query parameters.sort
      parameters.statusFilter parameters.limit parameters.offset) s.orders.values) parameters.offset
      (parameters.offset + parameters.limit)).map OrderRead.ofOrder), s) := by
  have sortable : (actor.query parameters.sort parameters.statusFilter parameters.limit parameters.offset).sort ∈
      ["created_at", "status"] := parameters.sortable
  rw [listOrders, InPlace.exec_bind, exec_listVisible, if_neg (not_not.mpr sortable)]
  rfl

theorem foreign_order_denied {call : EndpointCall folding} {id : UUID} {order : DeliveryOrder}
    (named : call.request.orderId? = some id) (stored : s.orders.get? id = some order)
    (foreign : order.tenantId ≠ call.actor.tenantId) :
    call.exec sha256 s = (.error (forbidden "order access denied"), s) := by
  obtain ⟨actor, gen, request⟩ := call
  have denied : ownsOrder actor order = false := by
    by_contra owner
    exact foreign (tenant_of_owner (Bool.not_eq_false _ ▸ owner)).symm
  cases request with
  | listOrders parameters => cases named
  | order request =>
    have refused : OrderHttpCall.authorize s ⟨actor, gen, request⟩ = .error (forbidden "order access denied") := by
      cases request with
      | createOrder body key => cases named
      | claimNextOrder correlationId => cases named
      | updateOrder orderId body version =>
        obtain rfl := Option.some.inj named
        simp [OrderHttpCall.authorize, stored, denied]
      | transitionOrder orderId status version correlationId =>
        obtain rfl := Option.some.inj named
        simp [OrderHttpCall.authorize, stored, denied]
    simp only [EndpointCall.exec, OrderHttpCall.exec_eq, refused]
    rfl

/-- What an actor sees and does through the order endpoints depends on the own tenant only and stays inside it. -/
theorem tenants_do_not_interfere (sha256 : String → String) (call : EndpointCall folding) :
    (∀ s s', SameTenant call.actor.tenantId s s' → call.Fresh s → call.Fresh s' →
      (∀ id, call.request.orderId? = some id → OwnOrAbsent call.actor.tenantId id s s') →
      (call.exec sha256 s).1 = (call.exec sha256 s').1 ∧
      SameTenant call.actor.tenantId (call.exec sha256 s).2 (call.exec sha256 s').2 ∧
      OthersKept call.actor.tenantId s (call.exec sha256 s).2 ∧
      OthersKept call.actor.tenantId s' (call.exec sha256 s').2) ∧
    ∀ s id order, call.request.orderId? = some id → s.orders.get? id = some order →
      order.tenantId ≠ call.actor.tenantId →
      call.exec sha256 s = (.error (forbidden "order access denied"), s) := by
  refine ⟨fun s s' same fresh fresh' named => ?_, fun s id order => foreign_order_denied⟩
  obtain ⟨actor, gen, request⟩ := call
  cases request with
  | listOrders parameters =>
    have listed : visibleIn (actor.query parameters.sort parameters.statusFilter parameters.limit parameters.offset)
        s.orders.values = visibleIn _ s'.orders.values := same.visibleIn rfl
    simp only [EndpointCall.exec, exec_listOrders, listed]
    exact ⟨trivial, same, othersKept_refl _ _, othersKept_refl _ _⟩
  | order request =>
    have named' := fun id name => same.named (named id name)
    have checked : OrderHttpCall.authorize s ⟨actor, gen, request⟩ = OrderHttpCall.authorize s' ⟨actor, gen, request⟩ :=
      authorize_congr named'
    simp only [EndpointCall.exec, OrderHttpCall.exec_eq]
    cases authorized : OrderHttpCall.authorize s ⟨actor, gen, request⟩ with
    | error refused =>
      rw [← checked, authorized]
      exact ⟨rfl, same, othersKept_refl _ _, othersKept_refl _ _⟩
    | ok op =>
      have fresh₁ := fun body key (h : request = .createOrder body key) => fresh body key (by rw [h])
      have fresh₂ := fun body key (h : request = .createOrder body key) => fresh' body key (by rw [h])
      obtain ⟨answer, after, kept⟩ : TenantBound actor.tenantId s (op.exec folding sha256 s gen)
          (op.exec folding sha256 s' gen) := order_bound same fresh₁ named' authorized
      have back : SameTenant actor.tenantId s' s :=
        ⟨fun id => (same.orders id).symm, fun c k => (same.records c k).symm⟩
      obtain ⟨-, -, kept'⟩ : TenantBound actor.tenantId s' (op.exec folding sha256 s' gen)
          (op.exec folding sha256 s gen) :=
        order_bound back fresh₂ (fun id name => (named' id name).symm) (checked ▸ authorized)
      rw [← checked, authorized]
      exact ⟨congrArg (fun answer => (answer.map request.present).map EndpointAnswer.order) answer, after, kept, kept'⟩

end

def foreignOrder : DeliveryOrder := { listedOrder 2 with tenantId := 5 }

/-- A customer who lists the own orders. -/
def listingCall : EndpointCall PyText.asciiFolding :=
  ⟨customerSeven, .numbered 3, .listOrders ⟨20, 0, "created_at", none, by decide, by decide, by simp, by simp⟩⟩

theorem tenants_do_not_interfere_listing :
    (listingCall.exec id ((InMemoryOrderRepository.empty.put (listedOrder 1)).put foreignOrder)).1 =
      (listingCall.exec id (InMemoryOrderRepository.empty.put (listedOrder 1))).1 := by
  have same : SameTenant defaultTenantId ((InMemoryOrderRepository.empty.put (listedOrder 1)).put foreignOrder)
      (InMemoryOrderRepository.empty.put (listedOrder 1)) := by
    refine ⟨fun id => ?_, fun _ _ => rfl⟩
    by_cases here : id = foreignOrder.id
    · subst here
      rfl
    · simp only [orderWithin, get?_put, if_neg here]
  exact ((tenants_do_not_interfere id listingCall).1 _ _ same (fun _ _ h => by cases h) (fun _ _ h => by cases h)
    (fun _ h => by cases h)).1

end DeliveryService
