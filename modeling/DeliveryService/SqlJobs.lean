import DeliveryService.SqlSpecs

namespace DeliveryService

open Database SqlAlchemyOrderRepository

/-- What a transaction does between reading an order and saving it: it may refuse, it may report a status
change, and it follows the state machine. -/
structure Edit where
  change : DeliveryOrder → Except Error (DeliveryOrder × Option OrderStatusChanged)
  lawful : ∀ current updated event, change current = .ok (updated, event) → updated.id = current.id ∧
    (updated.status = current.status ∨ OrderStateMachine.allows current.status updated.status = true)

/-- What is saved after the change: the order, with the event when there is one. -/
def saveChange (current : DeliveryOrder) (gen : Generated) (outcome : DeliveryOrder × Option OrderStatusChanged) :
    Sql DeliveryOrder := do
  match outcome.2 with
  | none => save outcome.1 current.version gen
  | some event => saveTransition outcome.1 current.version event gen
  pure outcome.1

/-- `get`, followed by `save` or `save_transition` with the version that was read. -/
def editing (orderId : UUID) (edit : Edit) (gen : Generated) : Sql DeliveryOrder := do
  match ← get orderId with
  | none => throw (.orderNotFound orderId)
  | some current => MonadExcept.ofExcept (edit.change current) >>= saveChange current gen

/-- The transactions of the adapter: calls of the use cases, and any edit. -/
inductive OrderJob
  | call (request : OrderCall)
  | edit (orderId : UUID) (change : Edit) (gen : Generated)

theorem bind_ok {α β : Type} {x : Except Error α} {f : α → Except Error β} {b : β} (h : x >>= f = .ok b) :
    ∃ a, x = .ok a ∧ f a = .ok b := by
  cases x with
  | error e => cases h
  | ok a => exact ⟨a, rfl, h⟩

/-- A domain operation together with the event that reports it. -/
def reporting (gen : Generated) (actorId : UUID) (actorRole correlationId : String) (current : DeliveryOrder)
    (moved : Except Error DeliveryOrder) : Except Error (DeliveryOrder × Option OrderStatusChanged) := do
  let updated ← moved
  let event ← OrderStatusChanged.fromTransition gen.eventId current updated actorId actorRole gen.now
    correlationId
  pure (updated, some event)

theorem moved_of_reporting {gen : Generated} {actorId : UUID} {actorRole correlationId : String}
    {current updated : DeliveryOrder} {moved : Except Error DeliveryOrder} {event : Option OrderStatusChanged}
    (h : reporting gen actorId actorRole correlationId current moved = .ok (updated, event)) :
    moved = .ok updated := by
  obtain ⟨after, done, h⟩ := bind_ok h
  obtain ⟨_, _, h⟩ := bind_ok h
  obtain ⟨rfl, _⟩ := Prod.mk.inj (Except.ok.inj h)
  exact done

def assignEdit (courierId : UUID) (gen : Generated) : Edit where
  change current := reporting gen courierId "courier" "assignment" current (current.assign courierId)
  lawful := by
    intro current updated event h
    obtain ⟨created, rfl⟩ := DeliveryOrder.assign_ok (moved_of_reporting h)
    exact ⟨rfl, .inr (by rw [created]; rfl)⟩

def updateEdit (folding : PyText.CaseFolding) (command : UpdateOrderCommand) (expectedVersion : Int) : Edit where
  change current :=
    if current.version ≠ expectedVersion then .error (.concurrentUpdate "optimistic version conflict")
    else do
      let updated ← current.updateDetails folding command
      pure (updated, none)
  lawful := by
    intro current updated event h
    split at h
    next => cases h
    next =>
      obtain ⟨after, accepted, h⟩ := bind_ok h
      obtain ⟨rfl, _⟩ := Prod.mk.inj (Except.ok.inj h)
      rw [DeliveryOrder.updateDetails_ok accepted]
      exact ⟨rfl, .inl rfl⟩

def transitionEdit (command : TransitionOrderCommand) (gen : Generated) : Edit where
  change current :=
    if current.version ≠ command.expectedVersion then
      .error (.concurrentUpdate "optimistic version conflict")
    else reporting gen command.actorId command.actorRole command.correlationId current
      (current.transition command.target)
  lawful := by
    intro current updated event h
    split at h
    next => cases h
    next =>
      obtain ⟨allowed, rfl⟩ := DeliveryOrder.transition_ok (moved_of_reporting h)
      exact ⟨rfl, .inr allowed⟩

namespace OrderJob

variable (hash : String → Int) (folding : PyText.CaseFolding) (sha256 : String → String)

def program : OrderJob → Sql (Option DeliveryOrder)
  | .call request => request.op.run (sqlAlchemyOrderRepository hash) folding sha256 request.gen
  | .edit orderId change gen => some <$> editing orderId change gen

/-- The edit that a job makes, with the order it is for. -/
def edit? : OrderJob → Option (UUID × Edit × Generated)
  | .call ⟨gen, .assign orderId courierId⟩ => some (orderId, assignEdit courierId gen, gen)
  | .call ⟨gen, .update orderId command expectedVersion⟩ =>
    some (orderId, updateEdit folding command expectedVersion, gen)
  | .call ⟨gen, .transition orderId command⟩ => some (orderId, transitionEdit command gen, gen)
  | .edit orderId change gen => some (orderId, change, gen)
  | .call ⟨_, .create ..⟩ | .call ⟨_, .claimNext ..⟩ => none

theorem reporting_bind {gen : Generated} {actorId : UUID} {actorRole correlationId : String}
    {current : DeliveryOrder} {moved : Except Error DeliveryOrder} :
    (MonadExcept.ofExcept (reporting gen actorId actorRole correlationId current moved) >>=
        saveChange current gen : Sql DeliveryOrder) = (do
      let updated ← MonadExcept.ofExcept moved
      let event ← MonadExcept.ofExcept (OrderStatusChanged.fromTransition gen.eventId current updated
        actorId actorRole gen.now correlationId)
      saveTransition updated current.version event gen
      pure updated) := by
  cases moved with
  | error e => rfl
  | ok updated =>
    cases reported : OrderStatusChanged.fromTransition gen.eventId current updated actorId actorRole gen.now
      correlationId with
    | error e =>
      have refused : reporting gen actorId actorRole correlationId current (.ok updated) = .error e := by
        simp [reporting, bind, Except.bind, reported]
      change _ = MonadExcept.ofExcept (OrderStatusChanged.fromTransition ..) >>= _
      rw [refused, reported]
      rfl
    | ok event =>
      have accepted : reporting gen actorId actorRole correlationId current (.ok updated) =
          .ok (updated, some event) := by
        simp [reporting, bind, Except.bind, reported, pure, Except.pure]
      change _ = MonadExcept.ofExcept (OrderStatusChanged.fromTransition ..) >>= _
      rw [accepted, reported]
      rfl

theorem assign_eq_editing (orderId courierId : UUID) (gen : Generated) :
    OrderService.assign (sqlAlchemyOrderRepository hash) orderId courierId gen =
      editing orderId (assignEdit courierId gen) gen := by
  simp only [OrderService.assign, OrderService.get, editing, bind_assoc]
  refine congrArg (get orderId >>= ·) (funext fun answer => ?_)
  cases answer with
  | none => rfl
  | some current => exact reporting_bind.symm

theorem update_eq_editing (orderId : UUID) (command : UpdateOrderCommand) (expectedVersion : Int)
    (gen : Generated) :
    OrderService.update (sqlAlchemyOrderRepository hash) folding orderId command expectedVersion gen =
      editing orderId (updateEdit folding command expectedVersion) gen := by
  simp only [OrderService.update, OrderService.get, editing, bind_assoc]
  refine congrArg (get orderId >>= ·) (funext fun answer => ?_)
  cases answer with
  | none => rfl
  | some current =>
    simp only [pure_bind, updateEdit]
    by_cases stale : current.version = expectedVersion
    · subst stale
      simp only [ne_eq, not_true_eq_false, if_false]
      cases current.updateDetails folding command with
      | error e => rfl
      | ok updated => rfl
    · simp only [ne_eq, stale, not_false_eq_true, if_true]
      rfl

theorem transition_eq_editing (orderId : UUID) (command : TransitionOrderCommand) (gen : Generated) :
    OrderService.transition (sqlAlchemyOrderRepository hash) orderId command gen =
      editing orderId (transitionEdit command gen) gen := by
  simp only [OrderService.transition, OrderService.get, editing, bind_assoc]
  refine congrArg (get orderId >>= ·) (funext fun answer => ?_)
  cases answer with
  | none => rfl
  | some current =>
    simp only [pure_bind, transitionEdit]
    by_cases stale : current.version = command.expectedVersion
    · simp only [ne_eq, ← stale, not_true_eq_false, if_false]
      exact reporting_bind.symm
    · simp only [ne_eq, stale, not_false_eq_true, if_true]
      rfl

/-- The use cases that change an order are edits. -/
theorem program_eq_editing {job : OrderJob} {orderId : UUID} {change : Edit} {gen : Generated}
    (h : job.edit? folding = some (orderId, change, gen)) :
    job.program hash folding sha256 = some <$> editing orderId change gen := by
  rcases job with ⟨gen', ⟨⟩ | ⟨orderId', courierId⟩ | ⟨⟩ | ⟨orderId', command, expectedVersion⟩ |
    ⟨orderId', command⟩⟩ | ⟨orderId', change', gen'⟩
  · cases h
  · cases h
    exact congrArg (some <$> ·) (assign_eq_editing hash _ _ _)
  · cases h
  · cases h
    exact congrArg (some <$> ·) (update_eq_editing hash folding _ _ _ _)
  · cases h
    exact congrArg (some <$> ·) (transition_eq_editing hash _ _ _)
  · cases h
    rfl

end OrderJob

end DeliveryService
