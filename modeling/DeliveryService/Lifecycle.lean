import DeliveryService.ClaimAgreement
import DeliveryService.Listing
import DeliveryService.StatusAudit

namespace DeliveryService

open Database SqlAlchemyOrderRepository

/-- A call of the order service: a use case that changes orders, or a read. -/
inductive LifecycleCall
  | order (call : OrderCall)
  | get (orderId : UUID)
  | listVisible (query : OrderQuery)

section

variable (hash : String → Int) (folding : PyText.CaseFolding) (sha256 : String → String)

/-- The call against the in-memory adapter. -/
def LifecycleCall.memory (s : InMemoryOrderRepository) :
    LifecycleCall → Except Error (List DeliveryOrder) × InMemoryOrderRepository
  | .order call => ((call.result folding sha256 s).map Option.toList, call.after folding sha256 s)
  | .get orderId => InPlace.exec ((fun order => [order]) <$> OrderService.get inMemoryOrderRepository orderId) s
  | .listVisible query => InPlace.exec (InMemoryOrderRepository.listVisible query) s

/-- The call against PostgreSQL, in a transaction of its own. -/
def LifecycleCall.postgres (db : Database) : LifecycleCall → Except Error (List DeliveryOrder) × Database
  | .order call =>
    ((call.transact hash folding sha256 db).1.map Option.toList, (call.transact hash folding sha256 db).2)
  | .get orderId => ((fun order => [order]) <$> OrderService.get (sqlAlchemyOrderRepository hash) orderId).transact db
  | .listVisible query => (SqlAlchemyOrderRepository.listVisible query).transact db

/-- The same call against both adapters. -/
def LifecycleStep (σ : InMemoryOrderRepository × Database) (call : LifecycleCall)
    (σ' : InMemoryOrderRepository × Database) : Prop :=
  σ' = ((call.memory folding sha256 σ.1).2, (call.postgres hash folding sha256 σ.2).2)

/-- Both adapters give the same answer. -/
def SameAnswer (σ : InMemoryOrderRepository × Database) (call : LifecycleCall) : Prop :=
  (call.postgres hash folding sha256 σ.2).1 = (call.memory folding sha256 σ.1).1

end

/-- No table holds the id that was drawn for an event. -/
def FreshEvent (db : Database) (eventId : UUID) : Prop :=
  db.history.get? eventId = none ∧ db.outbox.get? eventId = none

/-- The calls of the order lifecycle: ids that are drawn anew, text that fits its columns, scopes of at
most 200 characters, couriers without an active assignment, and a window of the listing. -/
def InLifecycle (sha256 : String → String) (db : Database) : LifecycleCall → Prop
  | .order ⟨gen, .create command key tenantId⟩ =>
      db.orders.get? gen.orderId = none ∧ db.outbox.get? gen.eventId = none ∧
      fitsVarchar 300 command.pickupAddress = true ∧ fitsVarchar 300 command.destinationAddress = true ∧
      ∀ scope fingerprint, createRecord? sha256 command key tenantId = some (scope, fingerprint) →
        fitsVarchar 200 scope = true
  | .order ⟨_, .update _ command _⟩ =>
      (∀ text ∈ command.pickupAddress, fitsVarchar 300 text = true) ∧
      ∀ text ∈ command.destinationAddress, fitsVarchar 300 text = true
  | .order ⟨gen, .transition _ command⟩ => FreshEvent db gen.eventId ∧
      fitsVarchar 32 command.actorRole = true ∧ fitsVarchar 128 command.correlationId = true
  | .order ⟨gen, .assign _ courierId⟩ => FreshEvent db gen.eventId ∧
      db.assignments.get? gen.assignmentId = none ∧ db.activeForCourier courierId = []
  | .order ⟨_, .claimNext ..⟩ => False
  | .get _ => True
  | .listVisible query => 1 ≤ query.limit ∧ 0 ≤ query.offset

/-- The order that the call changes. -/
def LifecycleCall.target? : LifecycleCall → Option UUID
  | .order ⟨_, .update orderId _ _⟩ => some orderId
  | .order ⟨_, .transition orderId _⟩ => some orderId
  | .order ⟨_, .assign orderId _⟩ => some orderId
  | _ => none

/-- The numbers of the call fit their SQL types: the window of a listing is a pair of `BIGINT`s, and the next
version of the order that it changes is an `INTEGER`. -/
def InRange (db : Database) (call : LifecycleCall) : Prop :=
  (∀ query, call = .listVisible query → fitsBigint query.limit = true ∧ fitsBigint query.offset = true) ∧
  ∀ orderId row, call.target? = some orderId → db.orders.get? orderId = some row →
    fitsInteger (row.version + 1) = true

/-- The tables mirror the in-memory adapter: an order is a row with one active assignment for its courier,
and a remembered answer is its JSON snapshot. -/
structure Mirrors (s : InMemoryOrderRepository) (db : Database) : Prop where
  orders : ∀ id, db.orders.get? id = (s.orders.get? id).map rowOf
  couriers : ∀ id, (db.assignmentsOf id).map (fun row => (row.active, row.courierId)) =
    ((s.orders.get? id).bind DeliveryOrder.courierId).toList.map fun courierId => (true, courierId)
  waiting : QueuedUnclaimed s
  accepted : ∀ id row, db.orders.get? id = some row → row.checks.refusal = none
  history : HistoryBounded db
  records : ∀ scope, s.idempotency.get? scope = none ∧ db.idempotency.get? scope = none ∨
    ∃ fingerprint order createdAt, s.idempotency.get? scope = some (fingerprint, order) ∧
      db.idempotency.get? scope = some (recordRow scope fingerprint order createdAt)

section

variable {hash : String → Int} {folding : PyText.CaseFolding} {sha256 : String → String}
  {s : InMemoryOrderRepository} {db : Database}

theorem Mirrors.assignments (mirrors : Mirrors s db) {id : UUID} {order : DeliveryOrder}
    (stored : s.orders.get? id = some order) :
    order.courierId = none ∧ db.assignmentsOf id = [] ∨
    ∃ row, db.assignmentsOf id = [row] ∧ row.active = true ∧ order.courierId = some row.courierId := by
  have rows := mirrors.couriers id
  rw [stored, Option.bind_some] at rows
  cases courier : order.courierId with
  | none => exact .inl ⟨rfl, by simpa [courier] using rows⟩
  | some courierId =>
    simp only [courier, Option.toList_some, List.map_singleton] at rows
    obtain ⟨row, shape, pair⟩ := List.map_eq_singleton_iff.mp rows
    obtain ⟨active, rfl⟩ := Prod.mk.inj pair
    exact .inr ⟨row, shape, active, rfl⟩

theorem Mirrors.order? (mirrors : Mirrors s db) (id : UUID) : db.order? id = s.orders.get? id := by
  rw [Database.order?, mirrors.orders]
  cases stored : s.orders.get? id with
  | none => rfl
  | some order =>
    have courier : ((db.assignmentsOf id).find? fun row => row.active).map AssignmentRow.courierId =
        order.courierId := by
      rcases mirrors.assignments stored with ⟨courier, rows⟩ | ⟨row, rows, active, courier⟩
      · simp [rows, courier]
      · simp [rows, active, courier]
    simp [domain, rowOf, courier]

theorem Mirrors.settled (mirrors : Mirrors s db) {order : DeliveryOrder}
    (stored : s.orders.get? order.id = some order) :
    order.courierId = none ∨ db.activeForOrder order.id ≠ [] := by
  rcases mirrors.assignments stored with ⟨courier, -⟩ | ⟨row, rows, active, -⟩
  · exact .inl courier
  · exact .inr (by simp [activeForOrder_eq, rows, active])

theorem same_get (mirrors : Mirrors s db) (orderId : UUID) :
    (LifecycleCall.get orderId).postgres hash folding sha256 db =
      (((LifecycleCall.get orderId).memory folding sha256 s).1, db) := by
  have read : ((sqlAlchemyOrderRepository hash).get orderId).runAlone db = (.ok (s.orders.get? orderId), db) := by
    rw [← mirrors.order? orderId]
    exact runAlone_get orderId db
  have looked : (OrderService.get (sqlAlchemyOrderRepository hash) orderId).runAlone db =
      ((InPlace.exec (OrderService.get inMemoryOrderRepository orderId) s).1, db) := by
    rw [exec_get_order, OrderService.get, Prog.runAlone_bind, read]
    cases s.orders.get? orderId <;> rfl
  simp [LifecycleCall.postgres, LifecycleCall.memory, Prog.transact_eq, looked]

theorem memory_get (s : InMemoryOrderRepository) (orderId : UUID) :
    ((LifecycleCall.get orderId).memory folding sha256 s).2 = s := by
  simp only [LifecycleCall.memory, InPlace.exec_map, exec_get_order]
  cases s.orders.get? orderId <;> rfl

theorem Mirrors.domain_rowOf (mirrors : Mirrors s db) {order : DeliveryOrder}
    (stored : s.orders.get? order.id = some order) : domain (rowOf order) (db.assignmentsOf order.id) = order := by
  have read := mirrors.order? order.id
  rw [Database.order?, mirrors.orders, stored] at read
  exact Option.some.inj read

theorem Mirrors.isSelected (mirrors : Mirrors s db) {query : OrderQuery} {order : DeliveryOrder}
    (stored : s.orders.get? order.id = some order) (known : query.role ∈ ["customer", "courier", "dispatcher"]) :
    isSelected query db (rowOf order) = (InMemoryOrderRepository.isVisible query order &&
      query.statusFilter.all fun status => order.status.value = status) := by
  have courier : ((db.assignmentsOf order.id).any fun item => item.courierId = query.actorId) =
      decide (order.courierId = some query.actorId) := by
    rcases mirrors.assignments stored with ⟨courier, rows⟩ | ⟨row, rows, -, courier⟩
    · simp [rows, courier]
    · simp [rows, courier]
  unfold SqlAlchemyOrderRepository.isSelected InMemoryOrderRepository.isVisible
  simp only [List.mem_cons, List.not_mem_nil, or_false] at known
  rcases known with role | role | role
  · simp [role]
    rfl
  · rw [if_neg (by simp [role]), if_pos role]
    change (_ && ((db.assignmentsOf order.id).any fun item => item.courierId = query.actorId) && _) = _
    rw [courier]
    simp [role]
    rfl
  · simp [role]
    rfl

theorem Mirrors.sortedBy {κ : Type} [LinearOrder κ] (mirrors : Mirrors s db) {query : OrderQuery}
    (known : query.role ∈ ["customer", "courier", "dispatcher"]) {key : OrderRow → κ} {key' : DeliveryOrder → κ}
    (same : ∀ order, key (rowOf order) = key' order) (distinct : ∀ row row', key row = key row' → row.id = row'.id) :
    (db.orders.toList.filter (SqlAlchemyOrderRepository.isSelected query db)).sortedBy key =
      ((s.orders.values.filter fun order => InMemoryOrderRepository.isVisible query order &&
        query.statusFilter.all fun status => order.status.value = status).sortedBy key').map rowOf := by
  have perm := (perm_orders mirrors.orders).symm
  have sorted := (perm.filter (SqlAlchemyOrderRepository.isSelected query db)).sortedBy_eq key
    fun row mem row' mem' equal => by
      have stored := Table.mem_toList.mp (List.mem_of_mem_filter mem)
      have stored' := Table.mem_toList.mp (List.mem_of_mem_filter mem')
      exact Option.some.inj (stored.symm.trans (distinct row row' equal ▸ stored'))
  rw [sorted, List.filter_map, List.map_sortedBy rowOf _ same]
  refine congrArg (fun rows => (rows.map rowOf).sortedBy key) (List.filter_congr fun order mem => ?_)
  exact mirrors.isSelected (stored_of_mem_values mem) known

theorem queueKey_id {row row' : OrderRow}
    (same : SqlAlchemyOrderRepository.queueKey row = SqlAlchemyOrderRepository.queueKey row') : row.id = row'.id :=
  congrArg (fun key => (ofLex key).2) same

theorem Mirrors.sorted (mirrors : Mirrors s db) {query : OrderQuery}
    (known : query.role ∈ ["customer", "courier", "dispatcher"]) :
    (if query.sort = "status" then
      (db.orders.toList.filter (SqlAlchemyOrderRepository.isSelected query db)).sortedBy fun row =>
        statusKey row.status row.id
      else (db.orders.toList.filter (SqlAlchemyOrderRepository.isSelected query db)).sortedBy
        SqlAlchemyOrderRepository.queueKey) = (visibleIn query s.orders.values).map rowOf := by
  unfold visibleIn
  split_ifs
  · refine mirrors.sortedBy known (fun _ => rfl) fun row row' same => ?_
    exact congrArg (fun key => (ofLex key).2) same
  · exact mirrors.sortedBy known (fun _ => rfl) fun row row' same => queueKey_id same

theorem visibleIn_unknown {query : OrderQuery} (unknown : query.role ∉ ["customer", "courier", "dispatcher"])
    (orders : List DeliveryOrder) : visibleIn query orders = [] := by
  refine List.eq_nil_iff_forall_not_mem.mpr fun order mem => ?_
  have seen : InMemoryOrderRepository.isVisible query order = true := by
    unfold visibleIn at mem
    split_ifs at mem
    · exact (Bool.and_eq_true_iff.mp (List.mem_filter.mp (List.mem_sortedBy.mp mem)).2).1
    · exact (Bool.and_eq_true_iff.mp (List.mem_filter.mp (List.mem_sortedBy.mp mem)).2).1
  simp only [List.mem_cons, List.not_mem_nil, or_false, not_or] at unknown
  simp [InMemoryOrderRepository.isVisible, unknown.1, unknown.2.1, unknown.2.2] at seen

theorem runAlone_listVisible {query : OrderQuery} (supported : query.sort ∈ ["created_at", "status"])
    (known : query.role ∈ ["customer", "courier", "dispatcher"]) (accepted : (queryChecks query).refusal = none)
    (mirrors : Mirrors s db) :
    (SqlAlchemyOrderRepository.listVisible query).runAlone db =
      (.ok (((visibleIn query s.orders.values).drop query.offset.toNat).take query.limit.toNat), db) := by
  have rows : (Prog.perform (selectVisible query)).runAlone db =
      (.ok ((((visibleIn query s.orders.values).drop query.offset.toNat).take query.limit.toNat).map rowOf), db) := by
    rw [Prog.runAlone_perform]
    simp only [selectVisible, accepted, mirrors.sorted known, List.map_take, List.map_drop]
    rfl
  have loaded (ids : List UUID) : (Prog.perform (selectAssignmentsIn ids)).runAlone db =
      (.ok (db.assignments.toList.filter fun row => row.orderId ∈ ids), db) := rfl
  have read : ∀ order ∈ ((visibleIn query s.orders.values).drop query.offset.toNat).take query.limit.toNat,
      s.orders.get? order.id = some order := fun order mem =>
    stored_of_mem_values (mem_visibleIn (List.mem_of_mem_drop (List.mem_of_mem_take mem)))
  simp only [SqlAlchemyOrderRepository.listVisible, supported, known, not_true_eq_false, if_false,
    Prog.runAlone_bind, rows, loaded, Prog.runAlone_pure]
  generalize ((visibleIn query s.orders.values).drop query.offset.toNat).take query.limit.toNat = window at read ⊢
  rw [List.map_map]
  refine congrArg (fun orders => (Except.ok orders, db)) ?_
  refine (List.map_congr_left fun order mem => ?_).trans (List.map_id _)
  -- The selected assignments of a listed order are all of its assignments.
  have own : ((db.assignments.toList.filter fun row => row.orderId ∈ (window.map rowOf).map OrderRow.id).filter
      fun item => item.orderId = order.id) = db.assignmentsOf order.id := by
    rw [List.filter_filter]
    refine List.filter_congr fun item _ => ?_
    have listed : order.id ∈ (window.map rowOf).map OrderRow.id :=
      List.mem_map.mpr ⟨rowOf order, List.mem_map.mpr ⟨order, mem, rfl⟩, rfl⟩
    by_cases here : item.orderId = order.id
    · simp only [here, listed, decide_true, Bool.and_self]
    · simp only [here, decide_false, Bool.false_and]
  change domain (rowOf order) _ = order
  exact (congrArg (domain (rowOf order)) own).trans (mirrors.domain_rowOf (read order mem))

theorem same_listVisible (mirrors : Mirrors s db) {query : OrderQuery}
    (window : InLifecycle sha256 db (.listVisible query)) (range : InRange db (.listVisible query)) :
    (LifecycleCall.listVisible query).postgres hash folding sha256 db =
      (((LifecycleCall.listVisible query).memory folding sha256 s).1, db) := by
  obtain ⟨limit, offset⟩ := window
  obtain ⟨limitFits, offsetFits⟩ := range.1 query rfl
  have listed : (SqlAlchemyOrderRepository.listVisible query).runAlone db =
      ((InPlace.exec (InMemoryOrderRepository.listVisible query) s).1, db) := by
    rw [exec_listVisible, pySlice_window _ limit offset]
    by_cases supported : query.sort ∈ ["created_at", "status"]
    · simp only [supported, not_true_eq_false, if_false]
      by_cases known : query.role ∈ ["customer", "courier", "dispatcher"]
      · have accepted : (queryChecks query).refusal = none := by
          have limit' : 0 ≤ query.limit := by omega
          simp [queryChecks, Checks.refusal, limitFits, offsetFits, limit', offset]
        exact runAlone_listVisible supported known accepted mirrors
      · rw [visibleIn_unknown known]
        simp only [SqlAlchemyOrderRepository.listVisible, supported, known, not_true_eq_false, not_false_eq_true,
          if_true, if_false, Prog.runAlone_pure, List.drop_nil, List.take_nil]
    · simp only [SqlAlchemyOrderRepository.listVisible, supported, not_false_eq_true, if_true, Prog.runAlone_throw]
  simp [LifecycleCall.postgres, LifecycleCall.memory, Prog.transact_eq, listed]

theorem memory_listVisible (s : InMemoryOrderRepository) (query : OrderQuery) :
    ((LifecycleCall.listVisible query).memory folding sha256 s).2 = s := by
  simp only [LifecycleCall.memory, exec_listVisible]

end

end DeliveryService
