import DeliveryService.OrderEffects
import DeliveryService.Schemas

universe u

namespace DeliveryService

def ownsOrder (actor : Actor) (order : DeliveryOrder) : Bool :=
  canAccessOrder actor order.tenantId order.customerId order.courierId

def forbidden (detail : String) : Error := .http ⟨403, detail, []⟩

/-- The answers of the order endpoints other than errors. -/
inductive OrderAnswer
  | created (order : OrderRead) (location : String)
  | order (order : OrderRead)
  | noContent
deriving DecidableEq

section

variable {m : Type → Type u} [Monad m] [MonadExcept Error m] (repository : OrderRepository m)
  (folding : PyText.CaseFolding) (sha256 : String → String)

def createOrder (actor : Actor) (command : OrderCreate folding) (idempotencyKey : IdempotencyKey)
    (gen : Generated) : m OrderAnswer :=
  if actor.role ≠ .customer ∨ actor.userId ≠ command.customerId then
    throw (forbidden "cannot create an order for another customer")
  else do
    let order ← OrderService.create repository sha256
      ⟨command.customerId, command.pickupAddress.text, command.destinationAddress.text, command.weightGrams.grams⟩
      (some idempotencyKey.text) actor.tenantId gen
    pure (.created (.ofOrder order) ("/api/v1/orders/" ++ order.id.str))

def updateOrder (actor : Actor) (orderId : UUID) (command : OrderUpdate) (expectedVersion : ExpectedVersion)
    (gen : Generated) : m OrderAnswer := do
  let current ← OrderService.get repository orderId
  if ¬ ownsOrder actor current then throw (forbidden "order access denied")
  else
    let order ← OrderService.update repository folding orderId
      ⟨command.pickupAddress.map Address.text, command.destinationAddress.map Address.text,
        command.weightGrams.map WeightGrams.grams⟩ expectedVersion.version gen
    pure (.order (.ofOrder order))

def transitionOrder (actor : Actor) (orderId : UUID) (status : OrderStatus) (expectedVersion : ExpectedVersion)
    (correlationId : String) (gen : Generated) : m OrderAnswer := do
  let current ← OrderService.get repository orderId
  if ¬ ownsOrder actor current then throw (forbidden "order access denied")
  else if actor.role = .customer ∧ (actor.userId ≠ current.customerId ∨ status ≠ .cancelled) then
    throw (forbidden "customer may only cancel an own order")
  else
    let order ← OrderService.transition repository orderId
      ⟨status, expectedVersion.version, actor.userId, actor.role.value, correlationId⟩ gen
    pure (.order (.ofOrder order))

def claimNextOrder (actor : Actor) (correlationId : String) (gen : Generated) : m OrderAnswer :=
  if actor.role ≠ .courier then throw (forbidden "only couriers may claim orders")
  else do
    match ← OrderService.claimNext repository actor.userId actor.tenantId correlationId gen with
    | none => pure .noContent
    | some claimed => pure (.order (.ofOrder claimed))

end

/-- A request to one of the order endpoints whose body and headers passed validation. -/
inductive OrderRequest (folding : PyText.CaseFolding)
  | createOrder (command : OrderCreate folding) (idempotencyKey : IdempotencyKey)
  | updateOrder (orderId : UUID) (command : OrderUpdate) (expectedVersion : ExpectedVersion)
  | transitionOrder (orderId : UUID) (status : OrderStatus) (expectedVersion : ExpectedVersion)
      (correlationId : String)
  | claimNextOrder (correlationId : String)

/-- A request with the authenticated actor who sends it and what its handler draws. -/
structure OrderHttpCall (folding : PyText.CaseFolding) where
  actor : Actor
  gen : Generated
  request : OrderRequest folding

def OrderHttpCall.run {m : Type → Type u} [Monad m] [MonadExcept Error m] (repository : OrderRepository m)
    {folding : PyText.CaseFolding} (sha256 : String → String) (call : OrderHttpCall folding) : m OrderAnswer :=
  match call.request with
  | .createOrder command key => createOrder repository folding sha256 call.actor command key call.gen
  | .updateOrder orderId command version =>
    updateOrder repository folding call.actor orderId command version call.gen
  | .transitionOrder orderId status version correlationId =>
    transitionOrder repository call.actor orderId status version correlationId call.gen
  | .claimNextOrder correlationId => claimNextOrder repository call.actor correlationId call.gen

/-- One request against the in-memory adapter: its answer and the state it leaves. -/
def OrderHttpCall.exec {folding : PyText.CaseFolding} (sha256 : String → String) (s : InMemoryOrderRepository)
    (call : OrderHttpCall folding) : Except Error OrderAnswer × InMemoryOrderRepository :=
  InPlace.exec (call.run inMemoryOrderRepository sha256) s

/-- Requests do not interleave over the in-memory adapter. -/
def OrderHttpStep {folding : PyText.CaseFolding} (sha256 : String → String) (s : InMemoryOrderRepository)
    (call : OrderHttpCall folding) (s' : InMemoryOrderRepository) : Prop :=
  s' = (call.exec sha256 s).2

section

variable {folding : PyText.CaseFolding} {sha256 : String → String} {s s' : InMemoryOrderRepository}

/-- The use case that the checks of an endpoint let through. -/
def OrderHttpCall.authorize (s : InMemoryOrderRepository) (call : OrderHttpCall folding) : Except Error OrderOp :=
  match call.request with
  | .createOrder command key =>
    if call.actor.role ≠ .customer ∨ call.actor.userId ≠ command.customerId then
      .error (forbidden "cannot create an order for another customer")
    else .ok (.create ⟨command.customerId, command.pickupAddress.text, command.destinationAddress.text,
      command.weightGrams.grams⟩ (some key.text) call.actor.tenantId)
  | .updateOrder orderId command version =>
    match s.orders.get? orderId with
    | none => .error (.orderNotFound orderId)
    | some current =>
      if ¬ ownsOrder call.actor current then .error (forbidden "order access denied")
      else .ok (.update orderId ⟨command.pickupAddress.map Address.text,
        command.destinationAddress.map Address.text, command.weightGrams.map WeightGrams.grams⟩ version.version)
  | .transitionOrder orderId status version correlationId =>
    match s.orders.get? orderId with
    | none => .error (.orderNotFound orderId)
    | some current =>
      if ¬ ownsOrder call.actor current then .error (forbidden "order access denied")
      else if call.actor.role = .customer ∧ (call.actor.userId ≠ current.customerId ∨ status ≠ .cancelled) then
        .error (forbidden "customer may only cancel an own order")
      else .ok (.transition orderId
        ⟨status, version.version, call.actor.userId, call.actor.role.value, correlationId⟩)
  | .claimNextOrder correlationId =>
    if call.actor.role ≠ .courier then .error (forbidden "only couriers may claim orders")
    else .ok (.claimNext call.actor.userId call.actor.tenantId correlationId)

/-- What the checks of an endpoint let through, and for whom. -/
inductive OrderHttpCall.Authorized (s : InMemoryOrderRepository) (call : OrderHttpCall folding) : OrderOp → Prop
  | create {body key command} : call.request = .createOrder body key → command.customerId = call.actor.userId →
      Authorized s call (.create command (some key.text) call.actor.tenantId)
  | update {orderId body version command current} : call.request = .updateOrder orderId body version →
      s.orders.get? orderId = some current → ownsOrder call.actor current = true →
      Authorized s call (.update orderId command version.version)
  | transition {orderId status version correlationId current} :
      call.request = .transitionOrder orderId status version correlationId →
      s.orders.get? orderId = some current → ownsOrder call.actor current = true →
      (call.actor.role = .customer → call.actor.userId = current.customerId ∧ status = .cancelled) →
      Authorized s call (.transition orderId
        ⟨status, version.version, call.actor.userId, call.actor.role.value, correlationId⟩)
  | claimNext {correlationId} : call.request = .claimNextOrder correlationId → call.actor.role = .courier →
      Authorized s call (.claimNext call.actor.userId call.actor.tenantId correlationId)

theorem OrderHttpCall.authorized_of_authorize {call : OrderHttpCall folding} {op : OrderOp}
    (h : call.authorize s = .ok op) : call.Authorized s op := by
  unfold OrderHttpCall.authorize at h
  split at h
  next body key request =>
    split_ifs at h with denied
    cases h
    rw [not_or, not_not, not_not] at denied
    exact .create request denied.2.symm
  next orderId body version request =>
    split at h
    next => cases h
    next current stored =>
      split_ifs at h with owner
      cases h
      exact .update request stored owner
  next orderId status version correlationId request =>
    split at h
    next => cases h
    next current stored =>
      split_ifs at h with owner restricted
      cases h
      refine .transition request stored owner fun customer => ?_
      simpa [customer] using restricted
  next correlationId request =>
    split_ifs at h with denied
    cases h
    exact .claimNext request (not_not.mp denied)

/-- How an endpoint presents the answer of its use case. -/
def OrderRequest.present (request : OrderRequest folding) : Option DeliveryOrder → OrderAnswer
  | none => .noContent
  | some order => match request with
    | .createOrder _ _ => .created (.ofOrder order) ("/api/v1/orders/" ++ order.id.str)
    | _ => .order (.ofOrder order)

/-- An endpoint either refuses and writes nothing or runs the one use case it authorized. -/
theorem OrderHttpCall.exec_eq (call : OrderHttpCall folding) (s : InMemoryOrderRepository) :
    call.exec sha256 s = match call.authorize s with
      | .error refused => (.error refused, s)
      | .ok op => ((op.exec folding sha256 s call.gen).1.map call.request.present,
          (op.exec folding sha256 s call.gen).2) := by
  obtain ⟨actor, gen, request⟩ := call
  cases request with
  | createOrder command key =>
    simp only [exec, run, createOrder, authorize]
    split_ifs with denied
    · rfl
    · simp only [OrderOp.exec, OrderOp.run, InPlace.exec_map, bind_pure_comp]
      cases (InPlace.exec (OrderService.create inMemoryOrderRepository sha256 _ _ _ gen) s).1 <;> rfl
  | updateOrder orderId command version =>
    simp only [exec, run, updateOrder, authorize, InPlace.exec_bind, exec_get_order]
    cases s.orders.get? orderId with
    | none => rfl
    | some current =>
      simp only
      split_ifs with owner
      · simp only [OrderOp.exec, OrderOp.run, InPlace.exec_map, bind_pure_comp]
        cases (InPlace.exec (OrderService.update inMemoryOrderRepository folding orderId _ _ gen) s).1 <;> rfl
      · rfl
  | transitionOrder orderId status version correlationId =>
    simp only [exec, run, transitionOrder, authorize, InPlace.exec_bind, exec_get_order]
    cases s.orders.get? orderId with
    | none => rfl
    | some current =>
      simp only
      split_ifs with owner restricted
      · rfl
      · simp only [OrderOp.exec, OrderOp.run, InPlace.exec_map, bind_pure_comp]
        cases (InPlace.exec (OrderService.transition inMemoryOrderRepository orderId _ gen) s).1 <;> rfl
      · rfl
  | claimNextOrder correlationId =>
    simp only [exec, run, claimNextOrder, authorize]
    split_ifs with denied
    · rfl
    · simp only [OrderOp.exec, OrderOp.run, InPlace.exec_bind]
      rcases InPlace.exec (OrderService.claimNext inMemoryOrderRepository actor.userId actor.tenantId
        correlationId gen) s with ⟨_ | _ | _, _⟩ <;> rfl

end

end DeliveryService
