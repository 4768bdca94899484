import DeliveryService.Authorization

namespace DeliveryService

open InMemoryOrderRepository

variable {folding : PyText.CaseFolding} {sha256 : String → String} {s s' : InMemoryOrderRepository}

/-- An address as the request schemas leave it. -/
structure AddressRule (text : String) : Prop where
  sized : 5 ≤ text.length ∧ text.length ≤ 300
  tidy : PyText.Tidy text.toList

/-- The business constraints of a stored order. -/
structure DeliveryOrder.WithinRules (folding : PyText.CaseFolding) (order : DeliveryOrder) : Prop where
  weight : 1 ≤ order.weightGrams ∧ order.weightGrams ≤ 100000
  pickup : AddressRule order.pickupAddress
  destination : AddressRule order.destinationAddress
  differ : folding.casefold order.pickupAddress.toList ≠ folding.casefold order.destinationAddress.toList
  version : 1 ≤ order.version

/-- The fields of an order that are given once. -/
def DeliveryOrder.identity (order : DeliveryOrder) : UUID × UUID × UUID × Datetime :=
  (order.id, order.tenantId, order.customerId, order.createdAt)

/-- What the request schemas promise about the arguments of a use case. -/
def OrderOp.Validated (folding : PyText.CaseFolding) : OrderOp → Prop
  | .create command _ _ => AddressRule command.pickupAddress ∧ AddressRule command.destinationAddress ∧
      folding.casefold command.pickupAddress.toList ≠ folding.casefold command.destinationAddress.toList ∧
      (0 < command.weightGrams ∧ command.weightGrams ≤ 100000)
  | .update _ command _ => (∀ text ∈ command.pickupAddress, AddressRule text) ∧
      (∀ text ∈ command.destinationAddress, AddressRule text) ∧
      ∀ grams ∈ command.weightGrams, 0 < grams ∧ grams ≤ 100000
  | _ => True

theorem Address.rule (address : Address) : AddressRule address.text where
  sized := address.sized
  tidy := by
    obtain ⟨value, normal⟩ := address.normal
    rw [← normal, normalizeAddress, String.toList_ofList]
    exact PyText.tidy_intercalate fun word mem => PyText.mem_words mem

theorem OrderHttpCall.validated_of_authorize {call : OrderHttpCall folding} {op : OrderOp}
    (h : call.authorize s = .ok op) : op.Validated folding := by
  unfold OrderHttpCall.authorize at h
  split at h
  next body key request =>
    split_ifs at h
    cases h
    exact ⟨body.pickupAddress.rule, body.destinationAddress.rule, body.addressesDiffer, body.weightGrams.range⟩
  next orderId body version request =>
    split at h
    next => cases h
    next =>
      split_ifs at h
      cases h
      simp only [OrderOp.Validated, Option.mem_map]
      refine ⟨?_, ?_, ?_⟩
      · rintro _ ⟨address, -, rfl⟩
        exact address.rule
      · rintro _ ⟨address, -, rfl⟩
        exact address.rule
      · rintro _ ⟨weight, -, rfl⟩
        exact weight.range
  next =>
    split at h
    next => cases h
    next =>
      split_ifs at h
      cases h
      trivial
  next =>
    split_ifs at h
    cases h
    trivial

/-- The order that a use case stores: a new one, an edited one, or one that moved on. -/
inductive OrderOp.Stores (folding : PyText.CaseFolding) (s : InMemoryOrderRepository) (gen : Generated) :
    OrderOp → DeliveryOrder → Prop
  | created {command key tenantId order} :
      DeliveryOrder.create gen.orderId tenantId command.customerId command.pickupAddress
        command.destinationAddress command.weightGrams gen.now = .ok order →
      Stores folding s gen (.create command key tenantId) order
  | edited {orderId command expectedVersion before after} : s.orders.get? after.id = some before →
      before.updateDetails folding command = .ok after →
      Stores folding s gen (.update orderId command expectedVersion) after
  | moved {op before} (status : OrderStatus) (courierId : Option UUID) : s.orders.get? before.id = some before →
      Stores folding s gen op { before with status, courierId, version := before.version + 1 }

theorem OrderEffect.stores {gen : Generated} {op : OrderOp} {result : Except Error (Option DeliveryOrder)}
    (effect : OrderEffect folding sha256 s gen op result s') : s'.orders = s.orders ∨
      ∃ order, s'.orders = (s.put order).orders ∧ op.Stores folding s gen order := by
  cases effect with
  | failed | replayed | idle => exact .inl rfl
  | created _ made => exact .inr ⟨_, rfl, .created made⟩
  | @updated orderId command before after stored accepted =>
    have key := s.keyed orderId before stored
    have own : after.id = before.id := by rw [DeliveryOrder.updateDetails_ok accepted]
    exact .inr ⟨after, rfl, .edited (by rw [own, key]; exact stored) accepted⟩
  | @assigned orderId courierId before stored _ =>
    have key := s.keyed orderId before stored
    exact .inr ⟨_, rfl, .moved .assigned (some courierId) (key.symm ▸ stored)⟩
  | @claimed courierId _ _ before _ _ queue =>
    have stored := (mem_candidates.mp (queue ▸ List.mem_cons_self)).1
    exact .inr ⟨_, rfl, .moved .assigned (some courierId) stored⟩
  | @transitioned orderId before command stored _ _ =>
    have key := s.keyed orderId before stored
    exact .inr ⟨_, rfl, .moved command.target before.courierId (key.symm ▸ stored)⟩

theorem DeliveryOrder.create_within {command : CreateOrderCommand} {key : Option String} {id tenantId : UUID}
    {now : Datetime} {order : DeliveryOrder} (valid : (OrderOp.create command key tenantId).Validated folding)
    (made : create id tenantId command.customerId command.pickupAddress command.destinationAddress
      command.weightGrams now = .ok order) : order.WithinRules folding := by
  obtain ⟨pickup, destination, differ, weight⟩ := valid
  obtain rfl := create_ok made
  exact ⟨weight, pickup, destination, differ, by simp⟩

/-- The half of the order that a partial update leaves alone keeps its rules, and the two halves are compared. -/
theorem DeliveryOrder.updateDetails_within {orderId : UUID} {command : UpdateOrderCommand} {expectedVersion : Int}
    {before after : DeliveryOrder} (valid : (OrderOp.update orderId command expectedVersion).Validated folding)
    (rules : before.WithinRules folding) (accepted : before.updateDetails folding command = .ok after) :
    after.WithinRules folding := by
  obtain ⟨pickup, destination, -⟩ := valid
  have version := rules.version
  simp only [updateDetails] at accepted
  split_ifs at accepted with same weight
  obtain rfl := Except.ok.inj accepted
  refine ⟨weight, ?_, ?_, same, by simp only; omega⟩
  · cases given : command.pickupAddress with
    | none => exact rules.pickup
    | some text => exact pickup text given
  · cases given : command.destinationAddress with
    | none => exact rules.destination
    | some text => exact destination text given

theorem OrderOp.Stores.within {gen : Generated} {op : OrderOp} {order : DeliveryOrder}
    (stores : op.Stores folding s gen order) (valid : op.Validated folding)
    (rules : ∀ id order, s.orders.get? id = some order → order.WithinRules folding) : order.WithinRules folding := by
  cases stores with
  | created made => exact DeliveryOrder.create_within valid made
  | edited stored accepted => exact DeliveryOrder.updateDetails_within valid (rules _ _ stored) accepted
  | moved status courierId stored =>
    obtain ⟨weight, pickup, destination, differ, version⟩ := rules _ _ stored
    exact ⟨weight, pickup, destination, differ, by simp only; omega⟩

/-- A request writes no order, or one that its use case stores. -/
theorem OrderHttpCall.stores (call : OrderHttpCall folding) (s : InMemoryOrderRepository) :
    (call.exec sha256 s).2.orders = s.orders ∨ ∃ op order, call.authorize s = .ok op ∧
      (call.exec sha256 s).2.orders = (s.put order).orders ∧ op.Stores folding s call.gen order := by
  rw [call.exec_eq]
  cases allowed : call.authorize s with
  | error refused => exact .inl rfl
  | ok op =>
    rcases (exec_effect op : OrderEffect folding sha256 s call.gen op _ _).stores with same | ⟨order, wrote, stores⟩
    · exact .inl same
    · exact .inr ⟨op, order, rfl, wrote, stores⟩

theorem rules_step {call : OrderHttpCall folding} (step : OrderHttpStep sha256 s call s')
    (rules : ∀ id order, s.orders.get? id = some order → order.WithinRules folding) :
    ∀ id order, s'.orders.get? id = some order → order.WithinRules folding := by
  intro id order stored
  rw [step] at stored
  rcases call.stores s with same | ⟨op, written, allowed, wrote, stores⟩
  · exact rules id order (same ▸ stored)
  · rw [wrote, get?_put] at stored
    split_ifs at stored with here
    · obtain rfl := Option.some.inj stored
      exact stores.within (call.validated_of_authorize allowed) rules
    · exact rules id order stored

theorem identity_of_stores {call : OrderHttpCall folding} {op : OrderOp} {before after : DeliveryOrder}
    (fresh : call.Fresh s) (allowed : call.authorize s = .ok op) (stores : op.Stores folding s call.gen after)
    (stored : s.orders.get? after.id = some before) : after.identity = before.identity := by
  cases stores with
  | created made =>
    cases call.authorized_of_authorize allowed with
    | create request own =>
      rw [DeliveryOrder.create_ok made, fresh _ _ request] at stored
      cases stored
  | edited found accepted =>
    obtain rfl := Option.some.inj (found.symm.trans stored)
    rw [DeliveryOrder.updateDetails_ok accepted]
    rfl
  | moved status courierId found =>
    obtain rfl := Option.some.inj (found.symm.trans stored)
    rfl

/-- An order that was stored with this identity still is. -/
def StoredAs (s : InMemoryOrderRepository) (order : DeliveryOrder) : Prop :=
  ∃ current, s.orders.get? order.id = some current ∧ current.identity = order.identity

theorem storedAs_step {call : OrderHttpCall folding} {order : DeliveryOrder} (step : OrderHttpStep sha256 s call s')
    (fresh : call.Fresh s) (kept : StoredAs s order) : StoredAs s' order := by
  obtain ⟨before, stored, own⟩ := kept
  rw [step]
  rcases call.stores s with same | ⟨op, written, allowed, wrote, stores⟩
  · exact ⟨before, same ▸ stored, own⟩
  · simp only [StoredAs, wrote, get?_put]
    split_ifs with here
    · rw [here] at stored
      exact ⟨written, rfl, (identity_of_stores fresh allowed stores stored).trans own⟩
    · exact ⟨before, stored, own⟩

/-- In every run of the order endpoints each stored order is within the business rules, and an order that is
stored stays stored under the identity it was created with. -/
theorem orders_within_rules {trace : List (Transition InMemoryOrderRepository (OrderHttpCall folding))}
    (run : Exec (OrderHttpStep sha256) .empty trace s) :
    (∀ id order, s.orders.get? id = some order → order.WithinRules folding) ∧
    ((∀ t ∈ trace, t.label.Fresh t.pre) → ∀ t ∈ trace, ∀ id order, t.post.orders.get? id = some order →
      ∃ current, s.orders.get? id = some current ∧ current.identity = order.identity) := by
  refine ⟨run.invariant (by simp [InMemoryOrderRepository.empty]) fun _ _ _ rules step => rules_step step rules, ?_⟩
  intro fresh t ht id order stored
  -- the run after the request that left the order there
  obtain ⟨earlier, later, rfl⟩ := List.append_of_mem ht
  obtain ⟨-, -, rest⟩ := run.split
  have own := t.post.keyed id order stored
  have base : StoredAs t.post order := ⟨order, own.symm ▸ stored, rfl⟩
  have kept := rest.carried (P := fun s => StoredAs s order) base fun u hu =>
    storedAs_step (rest.step_of_mem hu) (fresh u (by simp [hu]))
  exact own ▸ rest.final_of_posts (P := fun s => StoredAs s order) base fun u hu => (kept u hu).2

theorem firstVersion_positive : (1 : Int) ≤ 1 := Int.le_refl 1

def firstVersion : ExpectedVersion := ⟨1, firstVersion_positive⟩

def reweighed : OrderHttpCall PyText.asciiFolding :=
  ⟨customerSeven, .numbered 2, .updateOrder 1 ⟨none, none, some ⟨900, by decide⟩⟩ firstVersion⟩

/-- A customer creates an order and then corrects its weight. -/
def editedByCustomer : List (OrderHttpCall PyText.asciiFolding) := assignedByDispatcher.take 1 ++ [reweighed]

theorem orders_within_rules_edited :
    ∃ (trace : List (Transition InMemoryOrderRepository (OrderHttpCall PyText.asciiFolding))) (s : _),
      Exec (OrderHttpStep id) .empty trace s ∧ (s.orders.get? 1).map DeliveryOrder.weightGrams = some 900 ∧
      (∀ id order, s.orders.get? id = some order → order.WithinRules PyText.asciiFolding) ∧
      ∀ t ∈ trace, ∀ id order, t.post.orders.get? id = some order →
        ∃ current, s.orders.get? id = some current ∧ current.identity = order.identity := by
  have run := Exec.ofLabels .empty editedByCustomer fun s call _ => orderHttpStep_exec id s call
  have fresh : ∀ t ∈ Exec.traceOf (fun s call => (call.exec id s).2) .empty editedByCustomer,
      t.label.Fresh t.pre := by
    intro t ht body key request
    simp only [editedByCustomer, reweighed, assignedByDispatcher, List.take, List.cons_append, List.nil_append,
      Exec.traceOf, List.mem_cons, List.not_mem_nil, or_false] at ht
    rcases ht with rfl | rfl
    · rfl
    · cases request
  obtain ⟨rules, identities⟩ := orders_within_rules run
  exact ⟨_, _, run, by decide +kernel, rules, identities fresh⟩

end DeliveryService
