import DeliveryService.Exec
import DeliveryService.OrderEffects

namespace DeliveryService

open InMemoryOrderRepository

/-- The calls of clients that read an order in one step and write what they computed from it in a later one,
and claims from the queue. -/
inductive ClientCall (κ : Type)
  | get (client : κ) (orderId : UUID)
  | save (client : κ) (read order : DeliveryOrder)
  | saveTransition (client : κ) (read order : DeliveryOrder) (event : OrderStatusChanged)
  | claimNextCreatedOrder (courierId tenantId : UUID) (occurredAt : Datetime) (correlationId : String)
      (gen : Generated)

/-- The repository and the values that the `get` calls of each client have returned. -/
structure Clients (κ : Type) where
  repository : InMemoryOrderRepository
  read : List (κ × DeliveryOrder) := []

/-- The order is computed from the one that was read. -/
inductive ComputedFrom (folding : PyText.CaseFolding) (read order : DeliveryOrder) : Prop
  | transition {target : OrderStatus} : read.transition target = .ok order → ComputedFrom folding read order
  | assign {courierId : UUID} : read.assign courierId = .ok order → ComputedFrom folding read order
  | updateDetails {changes : UpdateOrderCommand} : read.updateDetails folding changes = .ok order →
      ComputedFrom folding read order

namespace ClientCall

variable {κ : Type}

/-- The order that a write was computed from. -/
def read? : ClientCall κ → Option DeliveryOrder
  | .save _ read _ | .saveTransition _ read _ _ => some read
  | .get _ _ | .claimNextCreatedOrder .. => none

/-- One call: a read answers with the order that is stored, a write with the order that it stores. The version
of the order that was read is the expected one. -/
def exec (call : ClientCall κ) (s : InMemoryOrderRepository) :
    Except Error (Option DeliveryOrder) × InMemoryOrderRepository :=
  match call with
  | .get _ orderId => InPlace.exec (InMemoryOrderRepository.get orderId) s
  | .save _ read order => InPlace.exec ((fun _ => some order) <$> InMemoryOrderRepository.save order read.version) s
  | .saveTransition _ read order event =>
    InPlace.exec ((fun _ => some order) <$> InMemoryOrderRepository.saveTransition order read.version event) s
  | .claimNextCreatedOrder courierId tenantId occurredAt correlationId gen =>
    InPlace.exec (InMemoryOrderRepository.claimNextCreatedOrder courierId tenantId occurredAt correlationId gen) s

/-- A client writes what it computed from a value that it has read, with the event of that change. -/
def Permitted (folding : PyText.CaseFolding) (s : Clients κ) : ClientCall κ → Prop
  | .save client read order => (client, read) ∈ s.read ∧ ComputedFrom folding read order
  | .saveTransition client read order event => (client, read) ∈ s.read ∧ ComputedFrom folding read order ∧
      ∃ eventId actorId actorRole occurredAt correlationId,
        OrderStatusChanged.fromTransition eventId read order actorId actorRole occurredAt correlationId = .ok event
  | .get _ _ | .claimNextCreatedOrder .. => True

/-- What a call adds to the values that clients have read. -/
def reads (call : ClientCall κ) (s : InMemoryOrderRepository) : List (κ × DeliveryOrder) :=
  match call with
  | .get client orderId => (s.orders.get? orderId).toList.map fun order => (client, order)
  | _ => []

def next (s : Clients κ) (call : ClientCall κ) : Clients κ :=
  ⟨(call.exec s.repository).2, s.read ++ call.reads s.repository⟩

end ClientCall

/-- Each call is one step, and the steps of the clients come in any order. -/
def ClientStep {κ : Type} (folding : PyText.CaseFolding) (s : Clients κ) (call : ClientCall κ) (s' : Clients κ) :
    Prop :=
  call.Permitted folding s ∧ s' = call.next s

/-- The error of a write whose expected version is not the stored one. -/
def versionConflict : Error := .concurrentUpdate "optimistic version conflict"

/-- Everything a permitted call can do. -/
inductive ClientEffect {κ : Type} (s : InMemoryOrderRepository) : ClientCall κ →
    Except Error (Option DeliveryOrder) → InMemoryOrderRepository → Prop
  | read {client orderId} : ClientEffect s (.get client orderId) (.ok (s.orders.get? orderId)) s
  | stale {call : ClientCall κ} {read} : call.read? = some read →
      (s.orders.get? read.id).map DeliveryOrder.version ≠ some read.version →
      ClientEffect s call (.error versionConflict) s
  | stored {call : ClientCall κ} {read order s'} : call.read? = some read →
      (s.orders.get? read.id).map DeliveryOrder.version = some read.version → order.id = read.id →
      order.version = read.version + 1 → s'.orders = (s.put order).orders → ClientEffect s call (.ok (some order)) s'
  | unclaimed {courierId tenantId occurredAt correlationId gen answer} : (∀ order, answer ≠ .ok (some order)) →
      ClientEffect s (.claimNextCreatedOrder courierId tenantId occurredAt correlationId gen) answer s
  | claimed {courierId tenantId occurredAt correlationId gen before s'} : s.orders.get? before.id = some before →
      s'.orders = (s.put (before.takenBy courierId)).orders →
      ClientEffect s (.claimNextCreatedOrder courierId tenantId occurredAt correlationId gen)
        (.ok (some (before.takenBy courierId))) s'

section

variable {κ : Type} {folding : PyText.CaseFolding} {s s' : Clients κ} {call : ClientCall κ}

theorem ComputedFrom.version {read order : DeliveryOrder} (computed : ComputedFrom folding read order) :
    order.id = read.id ∧ order.version = read.version + 1 := by
  cases computed with
  | transition moved =>
    rw [(DeliveryOrder.transition_ok moved).2]
    exact ⟨rfl, rfl⟩
  | assign taken =>
    rw [(DeliveryOrder.assign_ok taken).2]
    exact ⟨rfl, rfl⟩
  | updateDetails updated =>
    rw [DeliveryOrder.updateDetails_ok updated]
    exact ⟨rfl, rfl⟩

theorem claim_effect (courierId tenantId : UUID) (occurredAt : Datetime) (correlationId : String) (gen : Generated)
    (s : InMemoryOrderRepository) :
    ClientEffect s (.claimNextCreatedOrder courierId tenantId occurredAt correlationId gen : ClientCall κ)
      (InPlace.exec (claimNextCreatedOrder courierId tenantId occurredAt correlationId gen) s).1
      (InPlace.exec (claimNextCreatedOrder courierId tenantId occurredAt correlationId gen) s).2 := by
  -- the adapter's method is the use case at the time that it is given
  have ran : InPlace.exec (claimNextCreatedOrder courierId tenantId occurredAt correlationId gen) s =
      OrderOp.exec PyText.asciiFolding id s { gen with now := occurredAt }
        (.claimNext courierId tenantId correlationId) :=
    rfl
  rw [ran, exec_claimNext]
  split_ifs
  · exact .unclaimed fun order => by simp
  · cases queue : s.candidates tenantId with
    | nil => exact .unclaimed fun order => by simp
    | cons before rest =>
      exact .claimed (mem_candidates.mp (queue ▸ List.mem_cons_self)).1 rfl

theorem save_effect {read order : DeliveryOrder} (computed : ComputedFrom folding read order)
    (own : call.read? = some read) (s : InMemoryOrderRepository) :
    ClientEffect s call (InPlace.exec ((fun _ => some order) <$> save order read.version) s).1
      (InPlace.exec ((fun _ => some order) <$> save order read.version) s).2 := by
  obtain ⟨same, next⟩ := computed.version
  rw [InPlace.exec_map, exec_save, same, if_neg (not_not.mpr next)]
  split_ifs with current
  · exact .stale own current
  · exact .stored own (not_not.mp current) same next rfl

theorem saveTransition_effect {read order : DeliveryOrder} {event : OrderStatusChanged}
    (computed : ComputedFrom folding read order)
    (describes : event.orderId = order.id ∧ event.orderVersion = order.version) (own : call.read? = some read)
    (s : InMemoryOrderRepository) :
    ClientEffect s call (InPlace.exec ((fun _ => some order) <$> saveTransition order read.version event) s).1
      (InPlace.exec ((fun _ => some order) <$> saveTransition order read.version event) s).2 := by
  obtain ⟨same, next⟩ := computed.version
  have described : ¬ (event.orderId ≠ order.id ∨ event.orderVersion ≠ order.version) := by
    rw [not_or, not_not, not_not]
    exact describes
  rw [InPlace.exec_map, exec_saveTransition, if_neg described, same, if_neg (not_not.mpr next)]
  split_ifs with current
  · exact .stale own current
  · exact .stored own (not_not.mp current) same next rfl

theorem client_effect (permitted : call.Permitted folding s) :
    ClientEffect s.repository call (call.exec s.repository).1 (call.exec s.repository).2 := by
  cases call with
  | get client orderId => exact .read
  | save client read order => exact save_effect permitted.2 rfl s.repository
  | saveTransition client read order event =>
    obtain ⟨-, computed, _, _, _, _, _, built⟩ := permitted
    obtain ⟨own, -, -, version⟩ := fromTransition_describes built
    exact saveTransition_effect computed ⟨own.trans computed.version.1.symm, version⟩ rfl s.repository
  | claimNextCreatedOrder courierId tenantId occurredAt correlationId gen =>
    exact claim_effect courierId tenantId occurredAt correlationId gen s.repository

/-- A step leaves every order as it is or raises its version by one. -/
theorem orders_of_effect {s s' : InMemoryOrderRepository} {answer : Except Error (Option DeliveryOrder)}
    (effect : ClientEffect s call answer s') (id : UUID) : s'.orders.get? id = s.orders.get? id ∨
      ∃ before after, s.orders.get? id = some before ∧ s'.orders.get? id = some after ∧
        after.version = before.version + 1 := by
  cases effect with
  | read | stale | unclaimed => exact .inl rfl
  | stored own current same next shape =>
    rw [shape, get?_put]
    split_ifs with here
    · obtain ⟨before, found, version⟩ := Option.map_eq_some_iff.mp current
      refine .inr ⟨before, _, ?_, rfl, ?_⟩
      · rw [here, same]
        exact found
      · rw [next, version]
    · exact .inl rfl
  | claimed found shape =>
    rw [shape, get?_put]
    split_ifs with here
    · exact .inr ⟨_, _, here ▸ found, rfl, rfl⟩
    · exact .inl rfl

/-- An order is stored as it was, or with a greater version. -/
def NewerThan (s : InMemoryOrderRepository) (order : DeliveryOrder) : Prop :=
  ∃ current, s.orders.get? order.id = some current ∧ order.version ≤ current.version ∧
    (current.version = order.version → current = order)

theorem NewerThan.effect {s s' : InMemoryOrderRepository} {order : DeliveryOrder}
    {answer : Except Error (Option DeliveryOrder)} (newer : NewerThan s order)
    (effect : ClientEffect s call answer s') : NewerThan s' order := by
  obtain ⟨current, found, version, same⟩ := newer
  rcases orders_of_effect effect order.id with kept | ⟨before, after, stored, stored', next⟩
  · exact ⟨current, kept.trans found, version, same⟩
  · obtain rfl := Option.some.inj (found.symm.trans stored)
    refine ⟨after, stored', ?_, fun equal => ?_⟩
    · omega
    · omega

theorem newer_step (newer : ∀ value ∈ s.read, NewerThan s.repository value.2) (step : ClientStep folding s call s') :
    ∀ value ∈ s'.read, NewerThan s'.repository value.2 := by
  obtain ⟨permitted, rfl⟩ := step
  have effect := client_effect permitted
  intro value mem
  rcases List.mem_append.mp mem with old | new
  · exact (newer value old).effect effect
  · cases call with
    | get client orderId =>
      obtain ⟨order, found, rfl⟩ := List.mem_map.mp new
      have found := Option.mem_toList.mp found
      have key := s.repository.keyed orderId order found
      refine ⟨order, ?_, le_refl _, fun _ => rfl⟩
      change s.repository.orders.get? order.id = some order
      rw [key]
      exact found
    | save | saveTransition | claimNextCreatedOrder => cases new

/-- The stored version is the one that was read only if the stored order is the one that was read. -/
theorem stored_iff_version {s : InMemoryOrderRepository} {order : DeliveryOrder} (newer : NewerThan s order) :
    s.orders.get? order.id = some order ↔
      (s.orders.get? order.id).map DeliveryOrder.version = some order.version := by
  obtain ⟨current, found, -, same⟩ := newer
  rw [found]
  constructor
  · intro equal
    rw [equal]
    rfl
  · intro equal
    rw [same (Option.some.inj equal)]

theorem read_of_permitted {read : DeliveryOrder} (permitted : call.Permitted folding s) (own : call.read? = some read) :
    ∃ client, (client, read) ∈ s.read := by
  cases call with
  | get | claimNextCreatedOrder => cases own
  | save client _ order =>
    cases own
    exact ⟨client, permitted.1⟩
  | saveTransition client _ order event =>
    cases own
    exact ⟨client, permitted.1⟩

/-- The repository accepts the call of the step. -/
def AcceptedWrite (t : Transition (Clients κ) (ClientCall κ)) : Prop := (t.label.exec t.pre.repository).1.isOk = true

instance AcceptedWrite.decidable (t : Transition (Clients κ) (ClientCall κ)) : Decidable (AcceptedWrite t) :=
  inferInstanceAs (Decidable (_ = true))

/-- A write that was computed from this value is accepted exactly when the value is the stored order; it then
raises the version by one, and otherwise it is refused and changes nothing. -/
structure WritesOver (t : Transition (Clients κ) (ClientCall κ)) (read : DeliveryOrder) : Prop where
  accepted_iff : AcceptedWrite t ↔ t.pre.repository.orders.get? read.id = some read
  raised : AcceptedWrite t →
    ∃ after, t.post.repository.orders.get? read.id = some after ∧ after.version = read.version + 1
  refused : ¬ AcceptedWrite t → (t.label.exec t.pre.repository).1 = .error versionConflict ∧
    t.post.repository = t.pre.repository

/-- A claim that returns an order has stored it with the next version. -/
def ClaimsNext (t : Transition (Clients κ) (ClientCall κ)) : Prop :=
  ∀ courierId tenantId occurredAt correlationId gen order,
    t.label = .claimNextCreatedOrder courierId tenantId occurredAt correlationId gen →
    (t.label.exec t.pre.repository).1 = .ok (some order) →
    ∃ before, t.pre.repository.orders.get? order.id = some before ∧
      t.post.repository.orders.get? order.id = some order ∧ order.version = before.version + 1

theorem write_outcome {s s' : InMemoryOrderRepository} {read : DeliveryOrder}
    {answer : Except Error (Option DeliveryOrder)} (newer : NewerThan s read) (own : call.read? = some read)
    (effect : ClientEffect s call answer s') :
    (answer.isOk = true ↔ s.orders.get? read.id = some read) ∧
    (answer.isOk = true → ∃ after, s'.orders.get? read.id = some after ∧ after.version = read.version + 1) ∧
    (¬ answer.isOk = true → answer = .error versionConflict ∧ s' = s) := by
  rw [stored_iff_version newer]
  cases effect with
  | read | unclaimed | claimed => cases own
  | stale own' differs =>
    obtain rfl := Option.some.inj (own.symm.trans own')
    simp [Except.isOk, Except.toBool, differs]
  | stored own' current same next shape =>
    obtain rfl := Option.some.inj (own.symm.trans own')
    refine ⟨by simp [Except.isOk, Except.toBool, current], fun _ => ⟨_, ?_, next⟩, fun refused => absurd rfl refused⟩
    rw [shape, get?_put, if_pos same.symm]

theorem writesOver_of_step {t : Transition (Clients κ) (ClientCall κ)} {read : DeliveryOrder}
    (newer : ∀ value ∈ t.pre.read, NewerThan t.pre.repository value.2) (own : t.label.read? = some read)
    (step : ClientStep folding t.pre t.label t.post) : WritesOver t read := by
  obtain ⟨permitted, after⟩ := step
  obtain ⟨client, mem⟩ := read_of_permitted permitted own
  obtain ⟨accepted, raised, refused⟩ := write_outcome (newer _ mem) own (client_effect permitted)
  refine ⟨accepted, ?_, ?_⟩
  · rw [after]
    exact raised
  · rw [after]
    exact refused

theorem claimsNext_of_step {t : Transition (Clients κ) (ClientCall κ)}
    (step : ClientStep folding t.pre t.label t.post) : ClaimsNext t := by
  intro courierId tenantId occurredAt correlationId gen order claim answered
  obtain ⟨permitted, after⟩ := step
  have effect := client_effect permitted
  have stored : t.post.repository = (t.label.exec t.pre.repository).2 := by
    rw [after]
    rfl
  rw [claim] at effect answered stored
  rw [answered, ← stored] at effect
  generalize t.post.repository = s' at effect ⊢
  cases effect with
  | stored own => cases own
  | unclaimed none => exact absurd rfl (none order)
  | claimed found shape =>
    refine ⟨_, found, ?_, rfl⟩
    rw [shape, get?_put]
    exact if_pos rfl

/-- A version that has been passed is never stored again. -/
theorem passed_step {read : DeliveryOrder} (step : ClientStep folding s call s')
    (passed : ∃ current, s.repository.orders.get? read.id = some current ∧ read.version < current.version) :
    ∃ current, s'.repository.orders.get? read.id = some current ∧ read.version < current.version := by
  obtain ⟨permitted, rfl⟩ := step
  obtain ⟨current, found, later⟩ := passed
  rcases orders_of_effect (client_effect permitted) read.id with kept | ⟨before, after, stored, stored', next⟩
  · exact ⟨current, kept.trans found, later⟩
  · obtain rfl := Option.some.inj (found.symm.trans stored)
    refine ⟨after, stored', ?_⟩
    omega

/-- However reads, writes and claims are interleaved, a write is accepted exactly when the order is stored as
the client has read it, and of the writes that were computed from one value at most one is accepted. -/
theorem versions_lose_no_update {s₀ : InMemoryOrderRepository} {trace : List (Transition (Clients κ) (ClientCall κ))}
    (run : Exec (ClientStep folding) { repository := s₀ } trace s) :
    (∀ t ∈ trace, ∀ read, t.label.read? = some read → WritesOver t read) ∧ (∀ t ∈ trace, ClaimsNext t) ∧
    ∀ earlier t later u rest, trace = earlier ++ t :: (later ++ u :: rest) → ∀ read,
      t.label.read? = some read → u.label.read? = some read → AcceptedWrite t → ¬ AcceptedWrite u := by
  have writes : ∀ t ∈ trace, ∀ read, t.label.read? = some read → WritesOver t read := by
    intro t mem read own
    obtain ⟨newer, step, _⟩ := run.invariant_transition
      (I := fun s : Clients κ => ∀ value ∈ s.read, NewerThan s.repository value.2)
      (fun value mem => (by cases mem)) (fun _ _ _ => newer_step) mem
    exact writesOver_of_step newer own step
  refine ⟨writes, fun t mem => claimsNext_of_step (run.step_of_mem mem), ?_⟩
  rintro earlier t later u rest rfl read own own' accepted again
  obtain ⟨after, stored, version⟩ := (writes t (by simp) read own).raised accepted
  obtain ⟨_, _, rest⟩ := run.split
  obtain ⟨between, _, _⟩ := rest.split
  obtain ⟨current, found, passed⟩ := between.invariant
    (I := fun s => ∃ current, s.repository.orders.get? read.id = some current ∧ read.version < current.version)
    ⟨after, stored, by omega⟩ (fun _ _ _ passed step => passed_step step passed)
  have unchanged := (writes u (by simp) read own').accepted_iff.mp again
  obtain rfl := Option.some.inj (unchanged.symm.trans found)
  omega

end

def racedOrder : DeliveryOrder where
  id := 1
  tenantId := defaultTenantId
  customerId := 7
  pickupAddress := "Main street 1"
  destinationAddress := "Main street 2"
  weightGrams := 750
  status := .created
  courierId := none
  version := 1
  createdAt := (Generated.numbered 1).now

/-- Two clients read the order, and both assign it. -/
def assignmentRace : List (ClientCall Bool) :=
  [.get true 1, .get false 1, .save true racedOrder (racedOrder.takenBy 8),
    .save false racedOrder (racedOrder.takenBy 9)]

theorem versions_lose_no_update_in_race :
    ∃ (trace : List (Transition (Clients Bool) (ClientCall Bool))) (s : Clients Bool),
    Exec (ClientStep PyText.asciiFolding) { repository := InMemoryOrderRepository.empty.put racedOrder } trace s ∧
    (s.repository.orders.get? 1).map DeliveryOrder.courierId = some (some 8) ∧
    ∃ t u, t ∈ trace ∧ u ∈ trace ∧ AcceptedWrite t ∧ ¬ AcceptedWrite u ∧ WritesOver t racedOrder ∧
      WritesOver u racedOrder := by
  have run := Exec.ofGuard (ClientCall.Permitted PyText.asciiFolding) (fun s call => call.next s)
    ({ repository := InMemoryOrderRepository.empty.put racedOrder } : Clients Bool) assignmentRace (by
      simp only [assignmentRace, Exec.traceOf, List.forall_mem_cons, List.not_mem_nil, false_imp_iff, implies_true,
        and_true]
      exact ⟨trivial, trivial, ⟨by decide, .assign (DeliveryOrder.assign_created rfl 8)⟩,
        by decide, .assign (DeliveryOrder.assign_created rfl 9)⟩)
  obtain ⟨writes, -, -⟩ := versions_lose_no_update run
  refine ⟨_, _, run, by decide, _, _, List.mem_of_getElem? (i := 2) rfl, List.mem_of_getElem? (i := 3) rfl, by decide,
    by decide, writes _ (List.mem_of_getElem? (i := 2) rfl) _ rfl, writes _ (List.mem_of_getElem? (i := 3) rfl) _ rfl⟩

end DeliveryService
