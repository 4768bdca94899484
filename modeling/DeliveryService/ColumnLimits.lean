import DeliveryService.SqlAlchemyRepository
import DeliveryService.Staffing

namespace DeliveryService

open SqlAlchemyOrderRepository

/-- A row that a creation adds to one of the tables. -/
inductive NewRow
  | order (row : OrderRow)
  | outbox (row : OutboxRow)
  | idempotency (row : IdempotencyRow)

/-- The `INSERT` of the row. -/
def NewRow.insert : NewRow → Sql Unit
  | .order row => .perform (insertOrder row)
  | .outbox row => .perform (insertOutbox row)
  | .idempotency row => .perform (insertRecord row)

/-- The lengths and the check that the tables declare for the row. -/
def NewRow.WithinColumns : NewRow → Prop
  | .order row => row.pickupAddress.length ≤ 300 ∧ row.destinationAddress.length ≤ 300 ∧
      1 ≤ row.weightGrams ∧ row.weightGrams ≤ 100000
  | .outbox row => row.eventType.length ≤ 100
  | .idempotency row => row.key.length ≤ 200 ∧ row.operation.length ≤ 100

/-- The order that a valid body describes. -/
def OrderCreate.order {folding : PyText.CaseFolding} (body : OrderCreate folding) (tenantId : UUID) (gen : Generated) :
    DeliveryOrder :=
  { id := gen.orderId, tenantId, customerId := body.customerId, pickupAddress := body.pickupAddress.text
    destinationAddress := body.destinationAddress.text, weightGrams := body.weightGrams.grams
    status := .created, courierId := none, version := 1, createdAt := gen.now }

/-- The command that a creation body stands for. -/
def OrderCreate.command {folding : PyText.CaseFolding} (body : OrderCreate folding) : CreateOrderCommand :=
  ⟨body.customerId, body.pickupAddress.text, body.destinationAddress.text, body.weightGrams.grams⟩

section

variable {folding : PyText.CaseFolding} (hash : String → Int) (sha256 : String → String) (tenantId : UUID)
  (body : OrderCreate folding) (key : IdempotencyKey) (gen : Generated)

/-- The rows of a creation, in the order they are inserted. -/
def creationRows : List NewRow :=
  let order := body.order tenantId gen
  [.order (rowOf order), .outbox (createdRow (.fromOrder gen.eventId order)),
    .idempotency (recordRow (idempotencyScope tenantId body.customerId key.text)
      (sha256 body.command.canonicalRequest) order gen.recordedAt)]

/-- `OrderService.create` over PostgreSQL looks its key up, and on a new key inserts the rows one by one. -/
theorem create_inserts :
    OrderService.create (sqlAlchemyOrderRepository hash) sha256 body.command (some key.text) tenantId gen = (do
      match ← idempotentOrder hash (idempotencyScope tenantId body.customerId key.text)
          (sha256 body.command.canonicalRequest) with
      | some order => pure order
      | none => do
        forM (creationRows sha256 tenantId body key gen) NewRow.insert
        pure (body.order tenantId gen)) := by
  have named : key.text ≠ "" := by
    intro empty
    have := key.sized.1
    simp [empty] at this
  have made : DeliveryOrder.create gen.orderId tenantId body.command.customerId body.command.pickupAddress
      body.command.destinationAddress body.command.weightGrams gen.now = .ok (body.order tenantId gen) :=
    if_pos body.weightGrams.range
  simp only [OrderService.create, OrderService.replay, if_neg named, sqlAlchemyOrderRepository, bind_assoc, pure_bind]
  refine bind_congr fun existing => ?_
  cases existing with
  | some order => rfl
  | none =>
    simp only [made, creationRows, List.forM_cons, List.forM_nil, bind_assoc, pure_bind]
    rfl

theorem length_idempotencyScope (customerId : UUID) (text : String) :
    (idempotencyScope tenantId customerId text).length = 87 + text.length := by
  have heading : "create_order:".toList.length = 13 := by decide
  have separator : ":".toList.length = 1 := by decide
  rw [← String.length_toList, idempotencyScope_toList]
  simp only [List.length_append, UUID.str_length, heading, separator]
  rw [String.length_toList]
  omega

theorem rows_within_columns_iff :
    (∀ row ∈ creationRows sha256 tenantId body key gen, row.WithinColumns) ↔ key.text.length ≤ 113 := by
  have order : (NewRow.order (rowOf (body.order tenantId gen))).WithinColumns :=
    ⟨body.pickupAddress.sized.2, body.destinationAddress.sized.2, body.weightGrams.range⟩
  have created : "order.created".length ≤ 100 := by decide
  have operation : "create_order".length ≤ 100 := by decide
  have scope := length_idempotencyScope tenantId body.customerId key.text
  simp only [creationRows, List.forall_mem_cons]
  constructor
  · rintro ⟨-, -, ⟨key, -⟩, -⟩
    change (idempotencyScope tenantId body.customerId _).length ≤ 200 at key
    omega
  · intro short
    refine ⟨order, created, ⟨?_, operation⟩, by simp⟩
    change (idempotencyScope tenantId body.customerId _).length ≤ 200
    omega

/-- A creation inserts its rows on a new key, and they keep to the declared columns exactly when the key of the
client has at most 113 characters. -/
theorem creation_within_columns_iff :
    OrderService.create (sqlAlchemyOrderRepository hash) sha256 body.command (some key.text) tenantId gen = (do
      match ← idempotentOrder hash (idempotencyScope tenantId body.customerId key.text)
          (sha256 body.command.canonicalRequest) with
      | some order => pure order
      | none => do
        forM (creationRows sha256 tenantId body key gen) NewRow.insert
        pure (body.order tenantId gen)) ∧
    ((∀ row ∈ creationRows sha256 tenantId body key gen, row.WithinColumns) ↔ key.text.length ≤ 113) :=
  ⟨create_inserts hash sha256 tenantId body key gen, rows_within_columns_iff sha256 tenantId body key gen⟩

end

/-- A key of the greatest length that the header admits. -/
def longestKey : IdempotencyKey where
  text := String.ofList (List.replicate 128 'k')
  sized := by
    rw [String.length_ofList, List.length_replicate]
    omega
  plain := by
    intro c mem
    rw [String.toList_ofList] at mem
    rw [List.eq_of_mem_replicate mem]
    exact .inl (by decide)

theorem length_longestKey : longestKey.text.length = 128 :=
  String.length_ofList.trans List.length_replicate

theorem longest_key_beyond_columns :
    ¬ ∀ (folding : PyText.CaseFolding) (sha256 : String → String) (tenantId : UUID) (body : OrderCreate folding)
      (key : IdempotencyKey) (gen : Generated), ∀ row ∈ creationRows sha256 tenantId body key gen,
      row.WithinColumns := by
  intro all
  have within := all PyText.asciiFolding id defaultTenantId
    ⟨7, mainStreet, sideStreet, ⟨500, by decide⟩, by decide +kernel⟩ longestKey (.numbered 1)
  have short := (rows_within_columns_iff _ _ _ _ _).mp within
  rw [length_longestKey] at short
  omega

end DeliveryService
