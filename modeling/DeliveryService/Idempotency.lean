import DeliveryService.Exec
import DeliveryService.OrderEffects

namespace DeliveryService

open InMemoryOrderRepository

/-- A creation under the given tenant, customer and key that stored an order: unlike a replay it
appends an `order.created` message. -/
def createdUnder (tenantId customerId : UUID) (key : String)
    (t : Transition InMemoryOrderRepository OrderCall) : Bool :=
  match t.label.op with
  | .create command (some k) tenant =>
    tenant = tenantId && command.customerId = customerId && k = key && t.post.outbox ≠ t.pre.outbox
  | _ => false

section

variable {folding : PyText.CaseFolding} {sha256 : String → String} {s s' : InMemoryOrderRepository}
  {gen : Generated} {command : CreateOrderCommand} {key : String} {tenantId : UUID}

theorem creationRecord_some (nonempty : key ≠ "") : creationRecord sha256 command (some key) tenantId =
    some (idempotencyScope tenantId command.customerId key, sha256 command.canonicalRequest) := by
  simp [creationRecord, nonempty]

theorem exec_create_keyed (nonempty : key ≠ "") :
    OrderOp.exec folding sha256 s gen (.create command (some key) tenantId) =
      match s.idempotency.get? (idempotencyScope tenantId command.customerId key) with
      | some (saved, snapshot) =>
        if saved ≠ sha256 command.canonicalRequest then
          (.error (.idempotencyConflict "idempotency key was already used for another request"), s)
        else (.ok (some snapshot), s)
      | none =>
        match DeliveryOrder.create gen.orderId tenantId command.customerId command.pickupAddress
            command.destinationAddress command.weightGrams gen.now with
        | .error refused => (.error refused, s)
        | .ok order => (.ok (some order), s.insertCreated order gen.eventId
            (some (idempotencyScope tenantId command.customerId key, sha256 command.canonicalRequest))) := by
  rw [exec_create, creationRecord_some nonempty]
  simp only [recordFor, Option.bind_some, Option.map_some]
  cases s.idempotency.get? (idempotencyScope tenantId command.customerId key) with
  | none => rfl
  | some record => simp only [Option.some.injEq, ne_eq]

theorem record_kept {op : OrderOp} {result : Except Error (Option DeliveryOrder)} {scope : String}
    {record : String × DeliveryOrder} (effect : OrderEffect folding sha256 s gen op result s')
    (stored : s.idempotency.get? scope = some record) : s'.idempotency.get? scope = some record := by
  cases effect with
  | @created command key tenantId order free _ =>
    simp only [insertCreated]
    cases made : creationRecord sha256 command key tenantId with
    | none => exact stored
    | some own =>
      have other : scope ≠ own.1 := by
        rintro rfl
        simp [made, recordFor, stored] at free
      rw [Dict.get?_set_of_ne _ _ other]
      exact stored
  | _ => exact stored

theorem record_kept_along {trace : List (Transition InMemoryOrderRepository OrderCall)} {scope : String}
    {record : String × DeliveryOrder} (run : Exec (OrderStep folding sha256) s trace s')
    (stored : s.idempotency.get? scope = some record) : s'.idempotency.get? scope = some record := by
  refine run.invariant (I := fun s => s.idempotency.get? scope = some record) stored ?_
  rintro s call _ kept rfl
  exact record_kept (call.effect folding sha256 s) kept

theorem record_of_create {order : DeliveryOrder} (nonempty : key ≠ "")
    (ok : OrderCall.result folding sha256 ⟨gen, .create command (some key) tenantId⟩ s = .ok (some order)) :
    (OrderCall.after folding sha256 s ⟨gen, .create command (some key) tenantId⟩).idempotency.get?
      (idempotencyScope tenantId command.customerId key) =
        some (sha256 command.canonicalRequest, order) := by
  simp only [OrderCall.result, OrderCall.after, exec_create_keyed nonempty] at ok ⊢
  cases found : s.idempotency.get? (idempotencyScope tenantId command.customerId key) with
  | some record =>
    obtain ⟨saved, snapshot⟩ := record
    simp only [found] at ok ⊢
    split_ifs at ok ⊢ with differs
    rw [found, Option.some.inj (Except.ok.inj ok), not_not.mp differs]
  | none =>
    simp only [found] at ok ⊢
    cases made : DeliveryOrder.create gen.orderId tenantId command.customerId command.pickupAddress
        command.destinationAddress command.weightGrams gen.now with
    | error refused => simp [made] at ok
    | ok fresh =>
      simp only [made] at ok ⊢
      rw [← Option.some.inj (Except.ok.inj ok)]
      exact Dict.get?_set_self _ _ _

theorem create_of_record {saved : String} {snapshot : DeliveryOrder} (nonempty : key ≠ "")
    (stored : s.idempotency.get? (idempotencyScope tenantId command.customerId key) = some (saved, snapshot)) :
    OrderOp.exec folding sha256 s gen (.create command (some key) tenantId) =
      if saved ≠ sha256 command.canonicalRequest then
        (.error (.idempotencyConflict "idempotency key was already used for another request"), s)
      else (.ok (some snapshot), s) := by
  rw [exec_create_keyed nonempty, stored]

theorem createdUnder_needs_free_key {call : OrderCall} {customerId : UUID} (nonempty : key ≠ "")
    (created : createdUnder tenantId customerId key ⟨s, call, call.after folding sha256 s⟩ = true) :
    s.idempotency.get? (idempotencyScope tenantId customerId key) = none ∧
      ((call.after folding sha256 s).idempotency.get? (idempotencyScope tenantId customerId key)).isSome := by
  obtain ⟨gen, op⟩ := call
  unfold createdUnder at created
  split at created
  next command k tenant shape =>
    obtain rfl : op = _ := shape
    simp only [Bool.and_eq_true, decide_eq_true_eq, ne_eq] at created
    obtain ⟨⟨⟨rfl, rfl⟩, rfl⟩, written⟩ := created
    simp only [OrderCall.after, exec_create_keyed nonempty] at written ⊢
    cases found : s.idempotency.get? (idempotencyScope tenant command.customerId k) with
    | some record =>
      simp only [found] at written
      split_ifs at written <;> exact absurd rfl written
    | none =>
      simp only [found] at written ⊢
      cases made : DeliveryOrder.create gen.orderId tenant command.customerId command.pickupAddress
          command.destinationAddress command.weightGrams gen.now with
      | error refused => exact absurd (by rw [made]) written
      | ok order => simp [insertCreated]
  next => simp at created

/-- At most one creation under a non-empty key stores an order, and then the record is there. -/
theorem countP_createdUnder {trace : List (Transition InMemoryOrderRepository OrderCall)} {customerId : UUID}
    (nonempty : key ≠ "") (run : Exec (OrderStep folding sha256) .empty trace s) :
    trace.countP (createdUnder tenantId customerId key) ≤ 1 ∧
      (s.idempotency.get? (idempotencyScope tenantId customerId key) = none →
        trace.countP (createdUnder tenantId customerId key) = 0) := by
  induction run with
  | start => simp
  | @next trace s call s' _ taken ih =>
    obtain rfl := taken
    obtain ⟨most, unused⟩ := ih
    rw [List.countP_append, List.countP_singleton]
    split
    next created =>
      obtain ⟨free, remembered⟩ := createdUnder_needs_free_key nonempty created
      rw [unused free]
      exact ⟨le_refl _, fun gone => by simp [gone] at remembered⟩
    next =>
      refine ⟨most, fun gone => unused ?_⟩
      by_contra present
      obtain ⟨record, stored⟩ := Option.ne_none_iff_exists'.mp present
      simp [record_kept (call.effect folding sha256 s) stored] at gone

/-- A creation that succeeded under a non-empty key is answered alike for ever: an equal command gets
the first answer, one with another fingerprint a conflict, and neither writes anything. -/
theorem create_replays_first_answer {trace : List (Transition InMemoryOrderRepository OrderCall)}
    (run : Exec (OrderStep folding sha256) .empty trace s) :
    (∀ earlier later t command key tenantId order, trace = earlier ++ t :: later →
      t.label.op = .create command (some key) tenantId → key ≠ "" →
      t.label.result folding sha256 t.pre = .ok (some order) →
      ∀ call : OrderCall,
        (call.op = .create command (some key) tenantId →
          call.result folding sha256 s = .ok (some order) ∧ call.after folding sha256 s = s) ∧
        ∀ command', command'.customerId = command.customerId →
          sha256 command'.canonicalRequest ≠ sha256 command.canonicalRequest →
          call.op = .create command' (some key) tenantId →
          call.result folding sha256 s = .error
            (.idempotencyConflict "idempotency key was already used for another request") ∧
          call.after folding sha256 s = s) ∧
    ∀ tenantId customerId key, key ≠ "" → trace.countP (createdUnder tenantId customerId key) ≤ 1 := by
  refine ⟨?_, fun _ _ _ nonempty => (countP_createdUnder nonempty run).1⟩
  rintro earlier later ⟨pre, ⟨gen, op⟩, post⟩ command key tenantId order rfl shape nonempty ok ⟨gen', op'⟩
  obtain rfl : op = _ := shape
  obtain ⟨_, taken, rest⟩ := run.split
  have remembered := record_of_create nonempty ok
  rw [← taken] at remembered
  have stored := record_kept_along rest remembered
  constructor
  · rintro rfl
    simp [OrderCall.result, OrderCall.after, create_of_record nonempty stored]
  · rintro command' customer differs rfl
    rw [← customer] at stored
    simp [OrderCall.result, OrderCall.after, create_of_record nonempty stored, Ne.symm differs]

end

/-- A keyed creation whose order is then taken by a courier. -/
def takenAfterKeyedCreation : List OrderCall :=
  [⟨.numbered 1, .create ⟨7, "Main Street 1", "Side Street 2", 500⟩ (some "key") defaultTenantId⟩,
    ⟨.numbered 2, .claimNext 9 defaultTenantId "queue-claim"⟩]

theorem create_replays_after_claim : ∃ (s : InMemoryOrderRepository) (order : DeliveryOrder),
    (s.orders.get? 1).map DeliveryOrder.status = some .assigned ∧ order.status = .created ∧
      OrderCall.result PyText.asciiFolding id
        ⟨.numbered 3, .create ⟨7, "Main Street 1", "Side Street 2", 500⟩ (some "key") defaultTenantId⟩ s =
          .ok (some order) := by
  have run := Exec.ofLabels .empty takenAfterKeyedCreation fun s call _ => orderStep_after PyText.asciiFolding id s call
  have replay := (((create_replays_first_answer run).1 [] _ _ ⟨7, "Main Street 1", "Side Street 2", 500⟩
    "key" defaultTenantId _ rfl rfl (by decide) rfl ⟨.numbered 3, _⟩).1 rfl).1
  exact ⟨_, _, rfl, rfl, replay⟩

end DeliveryService
