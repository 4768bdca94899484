import DeliveryService.Events
import DeliveryService.Table
import DeliveryService.Transaction

namespace DeliveryService

structure OrderRow where
  id : UUID
  tenantId : UUID
  customerId : UUID
  pickupAddress : String
  destinationAddress : String
  weightGrams : Int
  status : OrderStatus
  version : Int
  createdAt : Datetime
deriving DecidableEq

structure AssignmentRow where
  id : UUID
  orderId : UUID
  courierId : UUID
  active : Bool := true
deriving DecidableEq

structure OutboxRow where
  id : UUID
  eventType : String
  payload : Payload
  createdAt : Datetime
  legacyProcessedAt : Option Datetime := none
  publishedAt : Option Datetime := none
deriving DecidableEq

/-- The JSON object that `_response_snapshot` writes. -/
structure ResponseSnapshot where
  id : String
  tenantId : String
  customerId : String
  pickupAddress : String
  destinationAddress : String
  weightGrams : Int
  status : String
  courierId : Option String
  version : Int
  createdAt : String
deriving DecidableEq

/-- The column `response`; its snapshot is `none` when it is not an object. -/
structure IdempotencyResponse where
  requestFingerprint : String
  statusCode : Int
  response : Option ResponseSnapshot
deriving DecidableEq

structure IdempotencyRow where
  key : String
  operation : String
  resourceId : UUID
  response : IdempotencyResponse
  createdAt : Datetime
deriving DecidableEq

/-- The tables that the order adapter works on; `order_transition_history` holds the fields of the event. -/
structure Database where
  orders : Table OrderRow.id
  assignments : Table AssignmentRow.id
  history : Table OrderStatusChanged.eventId
  outbox : Table OutboxRow.id
  idempotency : Table IdempotencyRow.key

/-- What a transaction can lock to its end: rows, the entries of unique indexes and advisory keys. -/
inductive Lock
  | order (id : UUID)
  | assignment (id : UUID)
  | activeOrder (orderId : UUID)
  | activeCourier (courierId : UUID)
  | history (eventId : UUID)
  | historyVersion (tenantId orderId : UUID) (orderVersion : Int)
  | outbox (id : UUID)
  | idempotency (key : String)
  | advisory (key : Int)
deriving DecidableEq

namespace Database

def empty : Database := ⟨.empty, .empty, .empty, .empty, .empty⟩

def putOrder (row : OrderRow) (db : Database) : Database := { db with orders := db.orders.put row }

def addOrder (row : OrderRow) (db : Database) : Database := { db with orders := db.orders.insert row }

def addAssignment (row : AssignmentRow) (db : Database) : Database :=
  { db with assignments := db.assignments.insert row }

def addHistory (row : OrderStatusChanged) (db : Database) : Database :=
  { db with history := db.history.insert row }

def addOutbox (row : OutboxRow) (db : Database) : Database := { db with outbox := db.outbox.insert row }

def addRecord (row : IdempotencyRow) (db : Database) : Database :=
  { db with idempotency := db.idempotency.insert row }

def assignmentsOf (db : Database) (orderId : UUID) : List AssignmentRow :=
  db.assignments.toList.filter fun row => row.orderId = orderId

/-- The entries of `uq_active_assignment_order`. -/
def activeForOrder (db : Database) (orderId : UUID) : List AssignmentRow :=
  db.assignments.toList.filter fun row => row.active && row.orderId = orderId

/-- The entries of `uq_active_assignment_courier`. -/
def activeForCourier (db : Database) (courierId : UUID) : List AssignmentRow :=
  db.assignments.toList.filter fun row => row.active && row.courierId = courierId

/-- The entries of `ix_transition_history_order_version`. -/
def historyOf (db : Database) (tenantId orderId : UUID) (orderVersion : Int) : List OrderStatusChanged :=
  db.history.toList.filter fun row =>
    row.tenantId = tenantId && row.orderId = orderId && row.orderVersion = orderVersion

theorem filter_addAssignment {db : Database} {added : AssignmentRow} {p : AssignmentRow → Bool}
    (absent : db.assignments.get? added.id = none) :
    (addAssignment added db).assignments.toList.filter p =
      db.assignments.toList.filter p ++ if p added then [added] else [] := by
  have grown : (addAssignment added db).assignments.toList = db.assignments.toList ++ [added] :=
    Table.toList_insert_of_absent absent
  rw [grown, List.filter_append, List.filter_cons, List.filter_nil]

theorem assignmentsOf_addAssignment {db : Database} {added : AssignmentRow}
    (absent : db.assignments.get? added.id = none) (orderId : UUID) :
    (addAssignment added db).assignmentsOf orderId =
      db.assignmentsOf orderId ++ if added.orderId = orderId then [added] else [] := by
  rw [assignmentsOf, filter_addAssignment absent]
  simp [assignmentsOf]

theorem activeForOrder_addAssignment {db : Database} {added : AssignmentRow} (active : added.active = true)
    (absent : db.assignments.get? added.id = none) (orderId : UUID) :
    (addAssignment added db).activeForOrder orderId =
      db.activeForOrder orderId ++ if added.orderId = orderId then [added] else [] := by
  rw [activeForOrder, filter_addAssignment absent]
  simp [activeForOrder, active]

theorem activeForCourier_addAssignment {db : Database} {added : AssignmentRow} (active : added.active = true)
    (absent : db.assignments.get? added.id = none) (courierId : UUID) :
    (addAssignment added db).activeForCourier courierId =
      db.activeForCourier courierId ++ if added.courierId = courierId then [added] else [] := by
  rw [activeForCourier, filter_addAssignment absent]
  simp [activeForCourier, active]

/-- What a lock protects. An order's row lock also protects its assignments, since they are written
under it; an advisory key protects the records of the scopes with that hash. -/
def Agree (hash : String → Int) : Lock → Database → Database → Prop
  | .order id, a, b => a.orders.get? id = b.orders.get? id ∧ a.assignmentsOf id = b.assignmentsOf id
  | .assignment id, a, b => a.assignments.get? id = b.assignments.get? id
  | .activeOrder orderId, a, b => a.activeForOrder orderId = b.activeForOrder orderId
  | .activeCourier courierId, a, b => a.activeForCourier courierId = b.activeForCourier courierId
  | .history eventId, a, b => a.history.get? eventId = b.history.get? eventId
  | .historyVersion tenantId orderId version, a, b =>
    a.historyOf tenantId orderId version = b.historyOf tenantId orderId version
  | .outbox id, a, b => a.outbox.get? id = b.outbox.get? id
  | .idempotency key, a, b => a.idempotency.get? key = b.idempotency.get? key
  | .advisory k, a, b => ∀ scope, hash scope = k → a.idempotency.get? scope = b.idempotency.get? scope

/-- What every commit keeps: an order stays as it is, with its assignments, or its version grows;
assignments and idempotency records stay. -/
structure Step (db db' : Database) : Prop where
  orders : ∀ id row, db.orders.get? id = some row → ∃ row', db'.orders.get? id = some row' ∧
    (row' = row ∧ db'.assignmentsOf id = db.assignmentsOf id ∨ row.version < row'.version)
  assignments : ∀ id row, db.assignments.get? id = some row → db'.assignments.get? id = some row
  records : ∀ scope record, db.idempotency.get? scope = some record → db'.idempotency.get? scope = some record

theorem Step.refl (db : Database) : db.Step db :=
  ⟨fun _ row found => ⟨row, found, .inl ⟨rfl, rfl⟩⟩, fun _ _ found => found, fun _ _ found => found⟩

theorem Step.trans {a b c : Database} (h : a.Step b) (h' : b.Step c) : a.Step c := by
  constructor
  · intro id row found
    obtain ⟨row', found', first⟩ := h.orders id row found
    obtain ⟨row'', found'', second⟩ := h'.orders id row' found'
    refine ⟨row'', found'', ?_⟩
    rcases first with ⟨rfl, same⟩ | grown
    · rcases second with ⟨rfl, same'⟩ | grown
      · exact .inl ⟨rfl, same'.trans same⟩
      · exact .inr grown
    · rcases second with ⟨rfl, _⟩ | grown'
      · exact .inr grown
      · exact .inr (grown.trans grown')
  · exact fun id row found => h'.assignments id row (h.assignments id row found)
  · exact fun scope record found => h'.records scope record (h.records scope record found)

/-- The contract between concurrent order transactions, for the hash behind the advisory keys. -/
def isolation (hash : String → Int) : Contract Database Lock where
  step := Step
  agree := Agree hash
  step_refl := Step.refl
  step_trans := Step.trans
  agree_refl l db := by cases l <;> simp [Agree]
  agree_trans {l a b c} h h' := by
    cases l with
    | order id => exact ⟨h.1.trans h'.1, h.2.trans h'.2⟩
    | advisory k => exact fun scope same => (h scope same).trans (h' scope same)
    | assignment | activeOrder | activeCourier | history | historyVersion | outbox | idempotency =>
      exact Eq.trans h h'

section

variable {hash : String → Int} {held : List Lock}

theorem covers_putOrder {row : OrderRow} (h : .order row.id ∈ held) :
    (isolation hash).Covers held (putOrder row) := by
  intro l outside db
  cases l with
  | order id =>
    have other : id ≠ row.id := by
      rintro rfl
      exact outside h
    exact ⟨(Table.get?_put_of_ne _ _ other).symm, rfl⟩
  | advisory k => exact fun _ _ => rfl
  | assignment | activeOrder | activeCourier | history | historyVersion | outbox | idempotency => rfl

theorem covers_addOrder {row : OrderRow} (h : .order row.id ∈ held) :
    (isolation hash).Covers held (addOrder row) := by
  intro l outside db
  cases l with
  | order id =>
    have other : id ≠ row.id := by
      rintro rfl
      exact outside h
    exact ⟨(Table.get?_insert_of_ne _ _ other).symm, rfl⟩
  | advisory k => exact fun _ _ => rfl
  | assignment | activeOrder | activeCourier | history | historyVersion | outbox | idempotency => rfl

theorem covers_addAssignment {row : AssignmentRow} (hid : .assignment row.id ∈ held)
    (horder : .order row.orderId ∈ held) (hactive : .activeOrder row.orderId ∈ held)
    (hcourier : .activeCourier row.courierId ∈ held) :
    (isolation hash).Covers held (addAssignment row) := by
  intro l outside db
  cases l with
  | order id =>
    have other : row.orderId ≠ id := by
      rintro rfl
      exact outside horder
    exact ⟨rfl, (Table.filter_insert_of_false _ (by simp [other])).symm⟩
  | assignment id =>
    have other : id ≠ row.id := by
      rintro rfl
      exact outside hid
    exact (Table.get?_insert_of_ne _ _ other).symm
  | activeOrder id =>
    have other : row.orderId ≠ id := by
      rintro rfl
      exact outside hactive
    exact (Table.filter_insert_of_false _ (by simp [other])).symm
  | activeCourier id =>
    have other : row.courierId ≠ id := by
      rintro rfl
      exact outside hcourier
    exact (Table.filter_insert_of_false _ (by simp [other])).symm
  | advisory k => exact fun _ _ => rfl
  | history | historyVersion | outbox | idempotency => rfl

theorem covers_addHistory {row : OrderStatusChanged} (hid : .history row.eventId ∈ held)
    (hversion : .historyVersion row.tenantId row.orderId row.orderVersion ∈ held) :
    (isolation hash).Covers held (addHistory row) := by
  intro l outside db
  cases l with
  | history id =>
    have other : id ≠ row.eventId := by
      rintro rfl
      exact outside hid
    exact (Table.get?_insert_of_ne _ _ other).symm
  | historyVersion tenantId orderId version =>
    refine (Table.filter_insert_of_false _ ?_).symm
    by_contra selected
    simp only [Bool.not_eq_false, Bool.and_eq_true, decide_eq_true_eq] at selected
    obtain ⟨⟨rfl, rfl⟩, rfl⟩ := selected
    exact outside hversion
  | order => exact ⟨rfl, rfl⟩
  | advisory k => exact fun _ _ => rfl
  | assignment | activeOrder | activeCourier | outbox | idempotency => rfl

theorem covers_addOutbox {row : OutboxRow} (h : .outbox row.id ∈ held) :
    (isolation hash).Covers held (addOutbox row) := by
  intro l outside db
  cases l with
  | outbox id =>
    have other : id ≠ row.id := by
      rintro rfl
      exact outside h
    exact (Table.get?_insert_of_ne _ _ other).symm
  | order => exact ⟨rfl, rfl⟩
  | advisory k => exact fun _ _ => rfl
  | assignment | activeOrder | activeCourier | history | historyVersion | idempotency => rfl

theorem covers_addRecord {row : IdempotencyRow} (hkey : .idempotency row.key ∈ held)
    (hadvisory : .advisory (hash row.key) ∈ held) :
    (isolation hash).Covers held (addRecord row) := by
  intro l outside db
  cases l with
  | idempotency key =>
    have other : key ≠ row.key := by
      rintro rfl
      exact outside hkey
    exact (Table.get?_insert_of_ne _ _ other).symm
  | advisory k =>
    intro scope same
    have other : scope ≠ row.key := by
      rintro rfl
      exact outside (same ▸ hadvisory)
    exact (Table.get?_insert_of_ne _ _ other).symm
  | order => exact ⟨rfl, rfl⟩
  | assignment | activeOrder | activeCourier | history | historyVersion | outbox => rfl

end

end Database

end DeliveryService
