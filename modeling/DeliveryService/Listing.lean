import DeliveryService.InMemoryRepository
import DeliveryService.SortedBy
import DeliveryService.SqlAlchemyRepository
import Mathlib.Data.String.Basic

namespace DeliveryService

/-- The arguments of `list_visible`. -/
structure OrderQuery where
  role : String
  actorId : UUID
  tenantId : UUID
  limit : Int
  offset : Int
  sort : String
  statusFilter : Option String

/-- `items[start:stop]` -/
def pySlice {α : Type} (items : List α) (start stop : Int) : List α :=
  let bound (i : Int) : Nat := (if i < 0 then i + items.length else i).toNat
  (items.take (bound stop)).drop (bound start)

def unsupportedSort : Error := .valueError "unsupported sort field"

def statusKey (status : OrderStatus) (id : UUID) : String ×ₗ UUID := toLex (status.value, id)

namespace InMemoryOrderRepository

def isVisible (query : OrderQuery) (order : DeliveryOrder) : Bool :=
  order.tenantId = query.tenantId && (query.role = "dispatcher" ||
    query.role = "customer" && order.customerId = query.actorId ||
    query.role = "courier" && order.courierId = some query.actorId)

def listVisible (query : OrderQuery) : InMemory (List DeliveryOrder) := do
  if query.sort ∉ ["created_at", "status"] then throw unsupportedSort
  else
    let s ← getThe InMemoryOrderRepository
    let visible := s.orders.values.filter (isVisible query)
    let visible := match query.statusFilter with
      | none => visible
      | some status => visible.filter fun order => order.status.value = status
    let sorted := if query.sort = "status" then visible.sortedBy fun order => statusKey order.status order.id
      else visible.sortedBy queueKey
    pure (pySlice sorted query.offset (query.offset + query.limit))

end InMemoryOrderRepository

/-- The visible orders with the requested status, in the requested order. -/
def visibleIn (query : OrderQuery) (orders : List DeliveryOrder) : List DeliveryOrder :=
  let visible := orders.filter fun order => InMemoryOrderRepository.isVisible query order &&
    query.statusFilter.all fun status => order.status.value = status
  if query.sort = "status" then visible.sortedBy fun order => statusKey order.status order.id
  else visible.sortedBy InMemoryOrderRepository.queueKey

theorem exec_listVisible (query : OrderQuery) (s : InMemoryOrderRepository) :
    InPlace.exec (InMemoryOrderRepository.listVisible query) s =
      (if query.sort ∉ ["created_at", "status"] then .error unsupportedSort
        else .ok (pySlice (visibleIn query s.orders.values) query.offset (query.offset + query.limit)), s) := by
  unfold InMemoryOrderRepository.listVisible
  by_cases unsupported : query.sort ∉ ["created_at", "status"]
  · simp only [if_pos unsupported]
    rfl
  · simp only [if_neg unsupported, InPlace.exec_bind, InPlace.exec_get, InPlace.exec_pure]
    cases filter : query.statusFilter with
    | none => simp [visibleIn, filter]
    | some status => simp [visibleIn, filter, List.filter_filter, Bool.and_comm]

theorem pySlice_window {α : Type} (items : List α) {limit offset : Int} (hl : 1 ≤ limit) (ho : 0 ≤ offset) :
    pySlice items offset (offset + limit) = (items.drop offset.toNat).take limit.toNat := by
  have start : ¬ offset < 0 := by omega
  have stop : ¬ offset + limit < 0 := by omega
  simp only [pySlice, start, stop, if_false, List.drop_take]
  congr 1
  omega

theorem stored_of_mem_values {s : InMemoryOrderRepository} {order : DeliveryOrder} (mem : order ∈ s.orders.values) :
    s.orders.get? order.id = some order := by
  obtain ⟨id, stored⟩ := Dict.mem_values_iff.mp mem
  obtain rfl := s.keyed id order stored
  exact stored

theorem mem_visibleIn {query : OrderQuery} {orders : List DeliveryOrder} {order : DeliveryOrder}
    (mem : order ∈ visibleIn query orders) : order ∈ orders := by
  unfold visibleIn at mem
  split_ifs at mem
  · exact List.mem_of_mem_filter (List.mem_sortedBy.mp mem)
  · exact List.mem_of_mem_filter (List.mem_sortedBy.mp mem)

namespace SqlAlchemyOrderRepository

def fitsBigint (n : Int) : Bool := -2 ^ 63 ≤ n && n < 2 ^ 63

/-- The values that are bound to `LIMIT` and `OFFSET`: a `BIGINT`, and not negative. -/
def queryChecks (query : OrderQuery) : Checks :=
  [(fitsBigint query.limit, .dataError "limit"), (fitsBigint query.offset, .dataError "offset"),
    (0 ≤ query.limit, .dataError "limit"), (0 ≤ query.offset, .dataError "offset")]

/-- The `WHERE` clauses of `list_visible`. -/
def isSelected (query : OrderQuery) (db : Database) (row : OrderRow) : Bool :=
  row.tenantId = query.tenantId &&
    (if query.role = "customer" then row.customerId = query.actorId
      else if query.role = "courier" then (db.assignmentsOf row.id).any fun item => item.courierId = query.actorId
      else true) &&
    query.statusFilter.all fun status => row.status.value = status

def selectVisible (query : OrderQuery) : Statement Database Lock Error (List OrderRow) :=
  fun _ snapshot _ => match (queryChecks query).refusal with
    | some refusal => .error refusal
    | none =>
      let rows := snapshot.orders.toList.filter (isSelected query snapshot)
      let sorted := if query.sort = "status" then rows.sortedBy fun row => statusKey row.status row.id
        else rows.sortedBy queueKey
      .ok { value := (sorted.drop query.offset.toNat).take query.limit.toNat }

/-- `selectinload(OrderRow.assignments)` for the selected rows. -/
def selectAssignmentsIn (ids : List UUID) : Statement Database Lock Error (List AssignmentRow) :=
  fun _ snapshot _ => .ok { value := snapshot.assignments.toList.filter fun row => row.orderId ∈ ids }

def listVisible (query : OrderQuery) : Sql (List DeliveryOrder) := do
  if query.sort ∉ ["created_at", "status"] then throw unsupportedSort
  else if query.role ∉ ["customer", "courier", "dispatcher"] then pure []
  else
    let rows ← Prog.perform (selectVisible query)
    let assignments ← Prog.perform (selectAssignmentsIn (rows.map OrderRow.id))
    pure (rows.map fun row => domain row (assignments.filter fun item => item.orderId = row.id))

end SqlAlchemyOrderRepository

end DeliveryService
