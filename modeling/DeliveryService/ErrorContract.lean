import DeliveryService.BusinessRules
import DeliveryService.CourierRelease
import DeliveryService.LifecycleEdits

namespace DeliveryService

/-- The public description of one class of failures. -/
structure ErrorSpec where
  statusCode : Nat
  errorCode : String
  message : String
deriving DecidableEq

namespace ErrorSpec

def orderNotFound : ErrorSpec := ⟨404, "order_not_found", "Order was not found"⟩

def concurrentUpdate : ErrorSpec := ⟨409, "concurrent_update", "Order was changed by another request"⟩

def courierAlreadyBusy : ErrorSpec := ⟨409, "courier_already_busy", "Courier already has an active assignment"⟩

def idempotencyConflict : ErrorSpec :=
  ⟨409, "idempotency_conflict", "Idempotency-Key was already used for another request"⟩

def invalidTransition : ErrorSpec := ⟨409, "invalid_transition", "Order transition is not allowed"⟩

def internalError : ErrorSpec := ⟨500, "internal_error", "The service could not complete the request"⟩

end ErrorSpec

def httpErrorSpecs : List ErrorSpec :=
  [⟨400, "request_invalid", "Request could not be understood"⟩,
    ⟨401, "authentication_required", "Authentication is required"⟩,
    ⟨403, "access_denied", "Access is denied"⟩,
    ⟨404, "resource_not_found", "Resource was not found"⟩,
    ⟨405, "method_not_allowed", "Method is not allowed for this resource"⟩,
    ⟨409, "request_conflict", "Request conflicts with current state"⟩,
    ⟨413, "payload_too_large", "Request payload is too large"⟩,
    ⟨429, "rate_limited", "Too many requests"⟩,
    ⟨503, "service_unavailable", "Service is temporarily unavailable"⟩]

/-- `http_exception_handler` -/
def httpErrorSpec (statusCode : Nat) : ErrorSpec :=
  (httpErrorSpecs.find? fun spec => spec.statusCode = statusCode).getD
    ⟨statusCode, "http_error", "Request could not be completed"⟩

/-- What the handler registered for the class of an exception answers; `none` where only the handler for
`Exception` applies. -/
def ownHandler : Error → Option ErrorSpec
  | .orderNotFound _ => some .orderNotFound
  | .concurrentUpdate _ => some .concurrentUpdate
  | .courierAlreadyBusy _ => some .courierAlreadyBusy
  | .idempotencyConflict _ => some .idempotencyConflict
  | .invalidTransition _ _ => some .invalidTransition
  | .http answer => some (httpErrorSpec answer.statusCode)
  | .valueError _ | .runtimeError _ | .integrityError _ | .dataError _ | .staleData _ => none

/-- The answer to a request that ended in an exception. -/
def errorAnswer (error : Error) : ErrorSpec := (ownHandler error).getD .internalError

/-- The exception has a handler of its own, which blames the request. -/
def ClientError (error : Error) : Prop :=
  ∃ spec, ownHandler error = some spec ∧ errorAnswer error = spec ∧ 400 ≤ spec.statusCode ∧ spec.statusCode < 500

/-- A success, or an exception with a handler of its own. -/
def Answered {α : Type} (outcome : Except Error α) : Prop := ∀ error, outcome = .error error → ClientError error

theorem httpErrorSpec_statusCode (statusCode : Nat) : (httpErrorSpec statusCode).statusCode = statusCode := by
  unfold httpErrorSpec
  cases found : httpErrorSpecs.find? fun spec => spec.statusCode = statusCode with
  | none => rfl
  | some spec => simpa using List.find?_some found

theorem clientError_forbidden (detail : String) : ClientError (forbidden detail) :=
  ⟨_, rfl, rfl, by simp [httpErrorSpec_statusCode]⟩

theorem not_clientError_valueError (message : String) : ¬ ClientError (.valueError message) := by
  rintro ⟨spec, own, -⟩
  cases own

theorem answered_ok {α : Type} (value : α) : Answered (.ok value : Except Error α) := by
  intro error failed
  cases failed

theorem answered_error_iff {α : Type} {error : Error} :
    Answered (.error error : Except Error α) ↔ ClientError error := by
  constructor
  · exact fun answered => answered error rfl
  · intro client other failed
    exact Except.error.inj failed ▸ client

theorem answered_map_iff {α β : Type} {outcome : Except Error α} (f : α → β) :
    Answered (outcome.map f) ↔ Answered outcome := by
  cases outcome with
  | error error => exact answered_error_iff.trans answered_error_iff.symm
  | ok value => exact iff_of_true (answered_ok _) (answered_ok _)

/-- Every refusal of an endpoint itself has a handler of its own. -/
theorem OrderHttpCall.clientError_of_authorize {folding : PyText.CaseFolding} {s : InMemoryOrderRepository}
    {call : OrderHttpCall folding} {error : Error} (h : call.authorize s = .error error) : ClientError error := by
  have missing (orderId : UUID) : ClientError (.orderNotFound orderId) := ⟨_, rfl, rfl, by decide, by decide⟩
  unfold OrderHttpCall.authorize at h
  split at h
  next =>
    split_ifs at h
    exact Except.error.inj h ▸ clientError_forbidden _
  next =>
    split at h
    next => exact Except.error.inj h ▸ missing _
    next =>
      split_ifs at h
      exact Except.error.inj h ▸ clientError_forbidden _
  next =>
    split at h
    next => exact Except.error.inj h ▸ missing _
    next =>
      split_ifs at h
      · exact Except.error.inj h ▸ clientError_forbidden _
      · exact Except.error.inj h ▸ clientError_forbidden _
  next =>
    split_ifs at h
    exact Except.error.inj h ▸ clientError_forbidden _

section

variable {folding : PyText.CaseFolding} {sha256 : String → String} {s : InMemoryOrderRepository} {gen : Generated}

theorem create_answered {command : CreateOrderCommand} {key : Option String} {tenantId : UUID}
    (valid : (OrderOp.create command key tenantId).Validated folding) :
    Answered (OrderOp.exec folding sha256 s gen (.create command key tenantId)).1 := by
  have weight := valid.2.2.2
  have conflict (message : String) : ClientError (.idempotencyConflict message) := ⟨_, rfl, rfl, by decide, by decide⟩
  rw [exec_create]
  cases s.recordFor (creationRecord sha256 command key tenantId) with
  | none =>
    simp only [DeliveryOrder.create, if_pos weight]
    exact answered_ok _
  | some record =>
    simp only
    split_ifs
    · exact answered_error_iff.mpr (conflict _)
    · exact answered_ok _

theorem claimNext_answered (courierId tenantId : UUID) (correlationId : String) :
    Answered (OrderOp.exec folding sha256 s gen (.claimNext courierId tenantId correlationId)).1 := by
  rw [exec_claimNext]
  split_ifs
  · exact answered_error_iff.mpr ⟨_, rfl, rfl, by decide, by decide⟩
  · cases s.candidates tenantId with
    | nil => exact answered_ok _
    | cons before rest => exact answered_ok _

theorem stale_answered (message : String) : ClientError (.concurrentUpdate message) :=
  ⟨_, rfl, rfl, by decide, by decide⟩

theorem transition_answered {orderId : UUID} {command : TransitionOrderCommand} {current : DeliveryOrder}
    (stored : s.orders.get? orderId = some current) :
    Answered (OrderOp.exec folding sha256 s gen (.transition orderId command)).1 := by
  have edits : OrderJob.edit? folding (.call ⟨gen, .transition orderId command⟩) =
      some (orderId, transitionEdit command gen, gen) := rfl
  have edit := exec_edit sha256 edits s
  simp only [stored] at edit
  rw [edit, answered_map_iff, transitionEdit_change]
  split_ifs
  · exact answered_error_iff.mpr (stale_answered _)
  · exact answered_ok _
  · exact answered_error_iff.mpr ⟨_, rfl, rfl, by decide, by decide⟩

/-- The addresses that the update would leave differ at most in case. -/
def UpdateOrderCommand.Collides (folding : PyText.CaseFolding) (command : UpdateOrderCommand)
    (order : DeliveryOrder) : Prop :=
  folding.casefold (command.pickupAddress.getD order.pickupAddress).toList =
    folding.casefold (command.destinationAddress.getD order.destinationAddress).toList

theorem updateDetails_answered_iff {orderId : UUID} {command : UpdateOrderCommand} {expectedVersion : Int}
    {current : DeliveryOrder} (valid : (OrderOp.update orderId command expectedVersion).Validated folding)
    (rules : current.WithinRules folding) :
    Answered (current.updateDetails folding command) ↔ ¬ command.Collides folding current := by
  have weight : 0 < command.weightGrams.getD current.weightGrams ∧
      command.weightGrams.getD current.weightGrams ≤ 100000 := by
    cases given : command.weightGrams with
    | none => exact rules.weight
    | some grams => exact valid.2.2 grams given
  simp only [DeliveryOrder.updateDetails, if_pos weight]
  split_ifs with same
  · refine iff_of_false ?_ (not_not.mpr same)
    exact fun answered => not_clientError_valueError _ (answered_error_iff.mp answered)
  · exact iff_of_true (answered_ok _) same

theorem update_answered_iff {orderId : UUID} {command : UpdateOrderCommand} {expectedVersion : Int}
    {current : DeliveryOrder} (stored : s.orders.get? orderId = some current)
    (valid : (OrderOp.update orderId command expectedVersion).Validated folding)
    (rules : current.WithinRules folding) :
    Answered (OrderOp.exec folding sha256 s gen (.update orderId command expectedVersion)).1 ↔
      ¬ (current.version = expectedVersion ∧ command.Collides folding current) := by
  have edits : OrderJob.edit? folding (.call ⟨gen, .update orderId command expectedVersion⟩) =
      some (orderId, updateEdit folding command expectedVersion, gen) := rfl
  have edit := exec_edit sha256 edits s
  simp only [stored] at edit
  rw [edit, answered_map_iff]
  simp only [updateEdit]
  by_cases fresh : current.version = expectedVersion
  · rw [if_neg (not_not.mpr fresh), bind_pure_comp]
    refine (answered_map_iff _).trans ((updateDetails_answered_iff valid rules).trans ?_)
    simp [fresh]
  · rw [if_pos fresh]
    exact iff_of_true (answered_error_iff.mpr (stale_answered _)) fun h => fresh h.1

/-- The command that an update body stands for. -/
def OrderUpdate.command (body : OrderUpdate) : UpdateOrderCommand :=
  ⟨body.pickupAddress.map Address.text, body.destinationAddress.map Address.text,
    body.weightGrams.map WeightGrams.grams⟩

/-- An update of an order that the actor may change, at its current version, whose new addresses are equal to each
other or to the stored ones up to case. -/
def OrderHttpCall.Collides (s : InMemoryOrderRepository) (call : OrderHttpCall folding) : Prop :=
  ∃ orderId body version order, call.request = .updateOrder orderId body version ∧
    s.orders.get? orderId = some order ∧ ownsOrder call.actor order = true ∧ order.version = version.version ∧
    body.command.Collides folding order

theorem OrderHttpCall.authorize_update {call : OrderHttpCall folding} {orderId : UUID} {body : OrderUpdate}
    {version : ExpectedVersion} {order : DeliveryOrder} (request : call.request = .updateOrder orderId body version)
    (stored : s.orders.get? orderId = some order) (owner : ownsOrder call.actor order = true) :
    call.authorize s = .ok (.update orderId body.command version.version) := by
  simp [authorize, request, stored, owner, OrderUpdate.command]

theorem OrderHttpCall.collides_iff {call : OrderHttpCall folding} {orderId : UUID} {body : OrderUpdate}
    {version : ExpectedVersion} {order : DeliveryOrder} (request : call.request = .updateOrder orderId body version)
    (stored : s.orders.get? orderId = some order) (owner : ownsOrder call.actor order = true) :
    call.Collides s ↔ order.version = version.version ∧ body.command.Collides folding order := by
  constructor
  · rintro ⟨_, _, _, other, request', stored', -, collision⟩
    rw [request] at request'
    cases request'
    exact Option.some.inj (stored'.symm.trans stored) ▸ collision
  · exact fun collision => ⟨orderId, body, version, order, request, stored, owner, collision⟩

/-- In every state that the order endpoints can reach, a valid request is answered with a success or by a handler
of its own exactly when it is not an update that makes the two addresses of its order equal up to case. -/
theorem requests_answered_iff {trace : List (Transition InMemoryOrderRepository (OrderHttpCall folding))}
    (run : Exec (OrderHttpStep sha256) .empty trace s) (call : OrderHttpCall folding) :
    Answered (call.exec sha256 s).1 ↔ ¬ call.Collides s := by
  have rules : ∀ id order, s.orders.get? id = some order → order.WithinRules folding :=
    run.invariant (by simp [InMemoryOrderRepository.empty]) fun _ _ _ rules step => rules_step step rules
  have noUpdate (other : ∀ orderId body version, call.request ≠ .updateOrder orderId body version) :
      ¬ call.Collides s := by
    rintro ⟨orderId, body, version, _, request, -⟩
    exact other orderId body version request
  rw [call.exec_eq]
  cases allowed : call.authorize s with
  | error refused =>
    refine iff_of_true (answered_error_iff.mpr (call.clientError_of_authorize allowed)) ?_
    rintro ⟨orderId, body, version, order, request, stored, owner, -⟩
    rw [call.authorize_update request stored owner] at allowed
    cases allowed
  | ok op =>
    have valid := call.validated_of_authorize allowed
    refine (answered_map_iff _).trans ?_
    cases call.authorized_of_authorize allowed with
    | create request own => exact iff_of_true (create_answered valid) (noUpdate (by simp [request]))
    | update request stored owner =>
      rw [call.authorize_update request stored owner] at allowed
      cases allowed
      rw [call.collides_iff request stored owner]
      exact update_answered_iff stored valid (rules _ _ stored)
    | transition request stored owner restricted =>
      exact iff_of_true (transition_answered stored) (noUpdate (by simp [request]))
    | claimNext request courier => exact iff_of_true (claimNext_answered _ _ _) (noUpdate (by simp [request]))

end

/-- The customer asks to deliver the order to the address it is picked up from. -/
def deliveredToPickup : OrderHttpCall PyText.asciiFolding :=
  ⟨customerSeven, .numbered 2, .updateOrder 1 ⟨none, some mainStreet, none⟩ firstVersion⟩

theorem requests_answered_other_address :
    ∃ (trace : List (Transition InMemoryOrderRepository (OrderHttpCall PyText.asciiFolding))) (s : _)
      (call : OrderHttpCall PyText.asciiFolding), Exec (OrderHttpStep id) .empty trace s ∧
      ¬ call.Collides s ∧ (call.exec id s).1.isOk = true ∧ Answered (call.exec id s).1 := by
  have run := Exec.ofLabels .empty (assignedByDispatcher.take 1) fun s call _ => orderHttpStep_exec id s call
  have apart : ¬ reweighed.Collides
      ((assignedByDispatcher.take 1).foldl (fun s call => (call.exec id s).2) .empty) := by
    rintro ⟨orderId, body, version, order, request, stored, -, -, same⟩
    cases request
    obtain rfl := Option.some.inj stored
    have differ : PyText.asciiFolding.casefold mainStreet.text.toList ≠
        PyText.asciiFolding.casefold sideStreet.text.toList := by decide +kernel
    exact differ same
  exact ⟨_, _, reweighed, run, apart, by decide +kernel, (requests_answered_iff run reweighed).mpr apart⟩

theorem delivery_to_pickup_unanswered :
    ¬ ∀ (folding : PyText.CaseFolding) (sha256 : String → String)
      (trace : List (Transition InMemoryOrderRepository (OrderHttpCall folding))) s (call : OrderHttpCall folding),
      Exec (OrderHttpStep sha256) .empty trace s → Answered (call.exec sha256 s).1 := by
  intro all
  have run := Exec.ofLabels .empty (assignedByDispatcher.take 1) fun s call _ => orderHttpStep_exec id s call
  have outcome : (deliveredToPickup.exec id
      ((assignedByDispatcher.take 1).foldl (fun s call => (call.exec id s).2) .empty)).1 = .error addressError := by
    rfl
  have answered := all _ id _ _ deliveredToPickup run
  rw [outcome] at answered
  exact not_clientError_valueError _ (answered_error_iff.mp answered)

end DeliveryService
