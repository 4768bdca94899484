import DeliveryService.ConcurrentCreates
import DeliveryService.LifecycleEdits

namespace DeliveryService

open Database SqlAlchemyOrderRepository

section

variable {hash : String → Int} {folding : PyText.CaseFolding} {sha256 : String → String}
  {s : InMemoryOrderRepository} {db : Database}

theorem creationRecord_eq (sha256 : String → String) (command : CreateOrderCommand) (key : Option String)
    (tenantId : UUID) : creationRecord sha256 command key tenantId = createRecord? sha256 command key tenantId := by
  cases key with
  | none => rfl
  | some text =>
    by_cases empty : text = ""
    · simp [creationRecord, createRecord?, empty]
    · simp [creationRecord, createRecord?, empty]

theorem Mirrors.created (mirrors : Mirrors s db) {gen : Generated} {order : DeliveryOrder}
    {record : Option (String × String)} (fresh : db.orders.get? order.id = none) (unclaimed : order.courierId = none)
    (row : (rowOf order).checks.refusal = none)
    (free : ∀ scope fingerprint, record = some (scope, fingerprint) → db.idempotency.get? scope = none)
    (waiting : QueuedUnclaimed (s.insertCreated order gen.eventId record))
    (history : HistoryBounded (createWrite order record gen db)) :
    Mirrors (s.insertCreated order gen.eventId record) (createWrite order record gen db) := by
  have orders : (createWrite order record gen db).orders = db.orders.put (rowOf order) := by
    have absent : db.orders.get? (rowOf order).id = none := fresh
    rw [← Table.insert_of_absent absent]
    cases record <;> rfl
  have assignments : (createWrite order record gen db).assignments = db.assignments := by
    cases record <;> rfl
  have unknown : s.orders.get? order.id = none := by simpa [mirrors.orders] using fresh
  refine ⟨fun id => ?_, fun id => ?_, waiting, fun id stored found => ?_, history, fun scope => ?_⟩
  · rw [orders, Table.get?_put, get?_insertCreated]
    change (if id = order.id then _ else _) = _
    split_ifs
    · rfl
    · exact mirrors.orders id
  · have rows := mirrors.couriers id
    simp only [assignmentsOf, assignments, get?_insertCreated] at rows ⊢
    rw [rows]
    split_ifs with here
    · rw [here, unknown, Option.bind_none, Option.bind_some, unclaimed]
    · rfl
  · rw [orders, Table.get?_put] at found
    split_ifs at found
    · rw [← Option.some.inj found]
      exact row
    · exact mirrors.accepted id stored found
  · cases record with
    | none => exact mirrors.records scope
    | some own =>
      obtain ⟨scope', fingerprint⟩ := own
      have absent := free scope' fingerprint rfl
      by_cases here : scope = scope'
      · subst here
        refine .inr ⟨fingerprint, order, gen.recordedAt, ?_, createWrite_record absent⟩
        exact Dict.get?_set_self _ _ _
      · have kept : (s.insertCreated order gen.eventId (some (scope', fingerprint))).idempotency.get? scope =
            s.idempotency.get? scope := Dict.get?_set_of_ne _ _ here
        have kept' : (createWrite order (some (scope', fingerprint)) gen db).idempotency.get? scope =
            db.idempotency.get? scope :=
          Table.get?_insert_of_ne _ (recordRow scope' fingerprint order gen.recordedAt) here
        rw [kept, kept']
        exact mirrors.records scope

theorem runAlone_create {gen : Generated} {command : CreateOrderCommand} {key : Option String} {tenantId : UUID}
    (free : ∀ scope fingerprint, createRecord? sha256 command key tenantId = some (scope, fingerprint) →
      db.idempotency.get? scope = none) :
    (OrderService.create (sqlAlchemyOrderRepository hash) sha256 command key tenantId gen).runAlone db =
      (addCreated command tenantId gen (createRecord? sha256 command key tenantId)).runAlone db := by
  cases keyed : createRecord? sha256 command key tenantId with
  | none => rw [create_eq_addCreated keyed]
  | some record =>
    simp only [create_eq_lookup keyed, Prog.runAlone_bind, runAlone_idempotentOrder, free record.1 record.2 keyed]

theorem transact_create (gen : Generated) (command : CreateOrderCommand) (key : Option String) (tenantId : UUID)
    {answer : Except Error DeliveryOrder} {view : Database}
    (ran : (OrderService.create (sqlAlchemyOrderRepository hash) sha256 command key tenantId gen).runAlone db =
      (answer, view)) :
    OrderCall.transact hash folding sha256 ⟨gen, .create command key tenantId⟩ db =
      (answer.map some, if answer.isOk then view else db) := by
  cases answer <;>
    simp [OrderCall.transact, OrderJob.program, OrderOp.run, Prog.transact_eq, ran, Except.map, Except.isOk,
      Except.toBool]

/-- A scope that is remembered is answered alike: with the first order, or with a conflict. -/
theorem replay_simulated (mirrors : Mirrors s db) {gen : Generated} {command : CreateOrderCommand} {key : Option String}
    {tenantId : UUID} {scope fingerprint saved : String} {order : DeliveryOrder} {createdAt : Datetime}
    (keyed : createRecord? sha256 command key tenantId = some (scope, fingerprint))
    (remembered : s.idempotency.get? scope = some (saved, order))
    (found : db.idempotency.get? scope = some (recordRow scope saved order createdAt)) :
    Simulated hash folding sha256 s db (.order ⟨gen, .create command key tenantId⟩) := by
  have looked : s.recordFor (creationRecord sha256 command key tenantId) = some (saved, order) := by
    rw [creationRecord_eq, keyed]
    exact remembered
  have ran : (OrderService.create (sqlAlchemyOrderRepository hash) sha256 command key tenantId gen).runAlone db =
      (replayRecord fingerprint (recordRow scope saved order createdAt), db) := by
    simp only [create_eq_lookup keyed, Prog.runAlone_bind, runAlone_idempotentOrder, found]
    cases replayRecord fingerprint (recordRow scope saved order createdAt) <;> rfl
  by_cases same : saved = fingerprint
  · have answer : replayRecord fingerprint (recordRow scope saved order createdAt) = .ok order := by
      rw [same]
      exact replayRecord_recordRow scope fingerprint order createdAt
    rw [answer] at ran
    refine simulated_of ?_ (transact_create gen command key tenantId ran) mirrors
    rw [exec_create, looked, creationRecord_eq, keyed]
    simp [same, Except.map]
  · have answer : replayRecord fingerprint (recordRow scope saved order createdAt) =
        .error (.idempotencyConflict "idempotency key was already used for another request") := by
      simp [replayRecord, recordRow, same]
    rw [answer] at ran
    refine simulated_of ?_ (transact_create gen command key tenantId ran) mirrors
    rw [exec_create, looked, creationRecord_eq, keyed]
    simp [same, Except.map]

theorem create_row_accepted {gen : Generated} {command : CreateOrderCommand} {tenantId : UUID} {order : DeliveryOrder}
    (pickup : fitsVarchar 300 command.pickupAddress = true)
    (destination : fitsVarchar 300 command.destinationAddress = true)
    (made : DeliveryOrder.create gen.orderId tenantId command.customerId command.pickupAddress
      command.destinationAddress command.weightGrams gen.now = .ok order) : (rowOf order).checks.refusal = none := by
  unfold DeliveryOrder.create at made
  split_ifs at made with weight
  obtain rfl := Except.ok.inj made
  have first : fitsInteger 1 = true := by decide
  exact rowOf_accepted pickup destination weight.1 weight.2 (by simp) first

/-- A create under a scope that neither adapter remembers, or without one. -/
theorem first_create_simulated (mirrors : Mirrors s db) {gen : Generated} {command : CreateOrderCommand}
    {key : Option String} {tenantId : UUID}
    (inside : InLifecycle sha256 db (.order ⟨gen, .create command key tenantId⟩))
    (free : ∀ scope fingerprint, createRecord? sha256 command key tenantId = some (scope, fingerprint) →
      s.idempotency.get? scope = none ∧ db.idempotency.get? scope = none) :
    Simulated hash folding sha256 s db (.order ⟨gen, .create command key tenantId⟩) := by
  obtain ⟨fresh, freshOutbox, pickup, destination, scopes⟩ := inside
  have unrecorded : s.recordFor (creationRecord sha256 command key tenantId) = none := by
    rw [creationRecord_eq]
    cases keyed : createRecord? sha256 command key tenantId with
    | none => rfl
    | some record => exact (free record.1 record.2 keyed).1
  have first : (OrderService.create (sqlAlchemyOrderRepository hash) sha256 command key tenantId gen).runAlone db =
      (addCreated command tenantId gen (createRecord? sha256 command key tenantId)).runAlone db :=
    runAlone_create fun scope fingerprint keyed => (free scope fingerprint keyed).2
  cases made : DeliveryOrder.create gen.orderId tenantId command.customerId command.pickupAddress
      command.destinationAddress command.weightGrams gen.now with
  | error e =>
    have ran : (addCreated command tenantId gen (createRecord? sha256 command key tenantId)).runAlone db =
        (.error e, db) := by simp [addCreated, Prog.runAlone_bind, made]
    refine simulated_of ?_ (transact_create gen command key tenantId (first.trans ran)) mirrors
    rw [exec_create, unrecorded]
    simp [made, Except.map]
  | ok order =>
    have shape := DeliveryOrder.create_ok made
    have absent : db.orders.get? order.id = none := by
      rw [shape]
      exact fresh
    have unclaimed : order.courierId = none := by rw [shape]
    have row := create_row_accepted pickup destination made
    have ran := runAlone_addCreated made row absent freshOutbox fun scope fingerprint keyed =>
      ⟨by simp [Checks.refusal_eq_none, IdempotencyRow.checks, recordRow, scopes scope fingerprint keyed]; decide,
        (free scope fingerprint keyed).2⟩
    have memory : OrderOp.exec folding sha256 s gen (.create command key tenantId) =
        (.ok (some order), s.insertCreated order gen.eventId (createRecord? sha256 command key tenantId)) := by
      rw [exec_create, unrecorded, creationRecord_eq]
      simp [made]
    have committed : OrderCall.transact hash folding sha256 ⟨gen, .create command key tenantId⟩ db = _ :=
      transact_create gen command key tenantId (first.trans ran)
    have waiting : QueuedUnclaimed (OrderOp.exec folding sha256 s gen (.create command key tenantId)).2 :=
      queuedUnclaimed_effect mirrors.waiting (OrderCall.effect folding sha256 s ⟨gen, .create command key tenantId⟩)
    have history : HistoryBounded (OrderCall.transact hash folding sha256 ⟨gen, .create command key tenantId⟩ db).2 :=
      (call_statusWrite _ db).historyBounded mirrors.history
    rw [memory] at waiting
    rw [committed] at history
    exact simulated_of memory committed (mirrors.created absent unclaimed row
      (fun scope fingerprint keyed => (free scope fingerprint keyed).2) waiting history)

theorem create_simulated (mirrors : Mirrors s db) {gen : Generated} {command : CreateOrderCommand} {key : Option String}
    {tenantId : UUID} (inside : InLifecycle sha256 db (.order ⟨gen, .create command key tenantId⟩)) :
    Simulated hash folding sha256 s db (.order ⟨gen, .create command key tenantId⟩) := by
  by_cases free : ∀ scope fingerprint, createRecord? sha256 command key tenantId = some (scope, fingerprint) →
      s.idempotency.get? scope = none ∧ db.idempotency.get? scope = none
  · exact first_create_simulated mirrors inside free
  · push Not at free
    obtain ⟨scope, fingerprint, keyed, taken⟩ := free
    rcases mirrors.records scope with ⟨unused, unused'⟩ | ⟨saved, order, createdAt, remembered, found⟩
    · exact absurd unused' (taken unused)
    · exact replay_simulated mirrors keyed remembered found

theorem call_simulated (mirrors : Mirrors s db) {call : LifecycleCall} (inside : InLifecycle sha256 db call)
    (range : InRange db call) : Simulated hash folding sha256 s db call := by
  cases call with
  | get orderId =>
    have same : (LifecycleCall.get orderId).postgres hash folding sha256 db =
        (((LifecycleCall.get orderId).memory folding sha256 s).1, db) := same_get mirrors orderId
    refine ⟨congrArg Prod.fst same, ?_⟩
    rw [memory_get, same]
    exact mirrors
  | listVisible query =>
    have same : (LifecycleCall.listVisible query).postgres hash folding sha256 db =
        (((LifecycleCall.listVisible query).memory folding sha256 s).1, db) := same_listVisible mirrors inside range
    refine ⟨congrArg Prod.fst same, ?_⟩
    rw [memory_listVisible, same]
    exact mirrors
  | order call =>
    obtain ⟨gen, op⟩ := call
    cases op with
    | create command key tenantId => exact create_simulated mirrors inside
    | claimNext courierId tenantId correlationId => exact absurd inside id
    | assign orderId courierId => exact edit_simulated mirrors rfl inside range
    | update orderId command expectedVersion => exact edit_simulated mirrors rfl inside range
    | transition orderId command => exact edit_simulated mirrors rfl inside range

theorem Mirrors.empty : Mirrors .empty .empty where
  orders _ := rfl
  couriers _ := rfl
  waiting _ _ stored := by cases stored
  accepted _ _ found := by cases found
  history _ mem := by cases mem
  records _ := .inl ⟨rfl, rfl⟩

/-- PostgreSQL simulates the in-memory adapter: while the calls stay in the lifecycle and in range, both give
the same answers, and after every call both read back the same orders. -/
theorem lifecycle_simulated {trace : List (Transition (InMemoryOrderRepository × Database) LifecycleCall)}
    {σ : InMemoryOrderRepository × Database}
    (run : Exec (LifecycleStep hash folding sha256) (.empty, .empty) trace σ)
    (inside : ∀ t ∈ trace, InLifecycle sha256 t.pre.2 t.label) (range : ∀ t ∈ trace, InRange t.pre.2 t.label) :
    ∀ t ∈ trace, SameAnswer hash folding sha256 t.pre t.label ∧
      ∀ orderId, SameAnswer hash folding sha256 t.post (.get orderId) := by
  have mirrored := run.carried (P := fun σ => Mirrors σ.1 σ.2) Mirrors.empty fun t ht mirrors => by
    have step : t.post = _ := run.step_of_mem ht
    rw [step]
    exact (call_simulated mirrors (inside t ht) (range t ht)).2
  intro t ht
  obtain ⟨before, after⟩ := mirrored t ht
  refine ⟨(call_simulated before (inside t ht) (range t ht)).1, fun orderId => ?_⟩
  exact congrArg Prod.fst (same_get after orderId)

/-- The database never takes an order beyond the versions of its column. -/
theorem edit_fits_integer {call : OrderCall} {orderId : UUID} {change : Edit} {gen : Generated} {row : OrderRow}
    (edits : OrderJob.edit? folding (.call call) = some (orderId, change, gen))
    (found : db.orders.get? orderId = some row) (ok : (call.transact hash folding sha256 db).1.isOk = true) :
    fitsInteger (row.version + 1) = true := by
  rcases transact_effect hash folding sha256 call db with ⟨answer, _, effect⟩ | ⟨e, failed, _, _⟩
  · generalize (call.transact hash folding sha256 db).2 = db' at effect
    cases effect with
    | replayed | skipped | created | claimed => cases edits
    | @edited _ orderId' _ _ current updated _ _ event edits' hid _ _ _ saved =>
      obtain ⟨rfl, -⟩ := Prod.mk.inj (Option.some.inj (edits.symm.trans edits'))
      have taken : (savedRow row updated).checks.refusal = none := by
        cases saved with
        | kept found' _ taken | assigned found' _ taken =>
          rw [hid, found] at found'
          rw [Option.some.inj found']
          exact taken
      simp only [Checks.refusal_eq_none, OrderRow.checks, List.forall_mem_cons] at taken
      exact taken.2.2.2.1
  · simp [failed, Except.isOk, Except.toBool] at ok

end

def plainLifecycle (σ : InMemoryOrderRepository × Database) (call : LifecycleCall) :
    InMemoryOrderRepository × Database :=
  ((call.memory PyText.asciiFolding id σ.1).2, (call.postgres (fun _ => 0) PyText.asciiFolding id σ.2).2)

theorem plainLifecycle_run (calls : List LifecycleCall) :
    Exec (LifecycleStep (fun _ => 0) PyText.asciiFolding id) (.empty, .empty)
      (Exec.traceOf plainLifecycle (.empty, .empty) calls) (calls.foldl plainLifecycle (.empty, .empty)) :=
  Exec.ofLabels _ calls fun _ _ _ => rfl

/-- A keyed create, its retry, an assignment and the courier's list. -/
def lifecycleCalls : List LifecycleCall :=
  [.order ⟨.numbered 1, .create ⟨7, "Depot 1", "Harbour 2", 500⟩ (some "k") defaultTenantId⟩,
    .order ⟨.numbered 2, .create ⟨7, "Depot 1", "Harbour 2", 500⟩ (some "k") defaultTenantId⟩,
    .order ⟨.numbered 3, .assign 1 9⟩,
    .listVisible ⟨"courier", 9, defaultTenantId, 20, 0, "status", none⟩]

theorem inLifecycle_createKeyed {db : Database} {gen : Generated} (fresh : db.orders.get? gen.orderId = none)
    (freshOutbox : db.outbox.get? gen.eventId = none) : InLifecycle id db
      (.order ⟨gen, .create ⟨7, "Depot 1", "Harbour 2", 500⟩ (some "k") defaultTenantId⟩) := by
  refine ⟨fresh, freshOutbox, by decide, by decide, fun scope fingerprint keyed => ?_⟩
  have own : idempotencyScope defaultTenantId 7 "k" = scope := by
    simp only [createRecord?, String.reduceEq, if_false] at keyed
    exact congrArg Prod.fst (Option.some.inj keyed)
  rw [← own]
  decide +kernel

theorem inRange_create (db : Database) (gen : Generated) (command : CreateOrderCommand) (key : Option String)
    (tenantId : UUID) : InRange db (.order ⟨gen, .create command key tenantId⟩) := by
  refine ⟨fun _ same => ?_, fun _ _ same => ?_⟩
  · cases same
  · cases same

theorem inRange_assign {db : Database} (version : Int) {orderId : UUID} (gen : Generated) (courierId : UUID)
    (stored : (db.orders.get? orderId).map OrderRow.version = some version) (fits : fitsInteger (version + 1) = true) :
    InRange db (.order ⟨gen, .assign orderId courierId⟩) := by
  refine ⟨fun _ same => (by cases same), fun orderId' row same found => ?_⟩
  obtain rfl := Option.some.inj same
  rw [found] at stored
  obtain rfl := Option.some.inj stored
  exact fits

/-- Both adapters after the first calls. -/
def afterLifecycleCalls (n : Nat) : InMemoryOrderRepository × Database :=
  (lifecycleCalls.take n).foldl plainLifecycle (.empty, .empty)

theorem afterLifecycleCalls_fresh :
    ((afterLifecycleCalls 1).2.orders.get? 2 = none ∧ (afterLifecycleCalls 1).2.outbox.get? 2 = none) ∧
    ((afterLifecycleCalls 2).2.history.get? 3 = none ∧ (afterLifecycleCalls 2).2.outbox.get? 3 = none) ∧
    (afterLifecycleCalls 2).2.assignments.get? 3 = none ∧ (afterLifecycleCalls 2).2.activeForCourier 9 = [] ∧
    ((afterLifecycleCalls 2).2.orders.get? 1).map OrderRow.version = some 1 ∧
    ((afterLifecycleCalls 4).1.orders.get? 1).map DeliveryOrder.courierId = some (some 9) := by
  decide +kernel

theorem lifecycle_simulated_assigned : ∃ trace σ,
    Exec (LifecycleStep (fun _ => 0) PyText.asciiFolding id) (.empty, .empty) trace σ ∧
    trace.length = 4 ∧ (σ.1.orders.get? 1).map DeliveryOrder.courierId = some (some 9) ∧
    ∀ t ∈ trace, SameAnswer (fun _ => 0) PyText.asciiFolding id t.pre t.label ∧
      ∀ orderId, SameAnswer (fun _ => 0) PyText.asciiFolding id t.post (.get orderId) := by
  obtain ⟨⟨fresh, freshOutbox⟩, freshEvent, unassigned, free, version, courier⟩ := afterLifecycleCalls_fresh
  have run := plainLifecycle_run lifecycleCalls
  refine ⟨_, _, run, rfl, courier, lifecycle_simulated run ?_ ?_⟩
  · simp only [lifecycleCalls, Exec.traceOf, List.forall_mem_cons, List.not_mem_nil, false_imp_iff, implies_true,
      and_true]
    exact ⟨inLifecycle_createKeyed rfl rfl, inLifecycle_createKeyed fresh freshOutbox,
      ⟨freshEvent, unassigned, free⟩, by decide, by decide⟩
  · simp only [lifecycleCalls, Exec.traceOf, List.forall_mem_cons, List.not_mem_nil, false_imp_iff, implies_true,
      and_true]
    refine ⟨inRange_create .., inRange_create .., inRange_assign 1 _ _ version (by decide), ?_, ?_⟩
    · rintro _ ⟨⟩
      decide
    · rintro _ _ ⟨⟩

/-- An update that sets no field. -/
def renewal (version : Int) : LifecycleCall := .order ⟨.numbered 1, .update 1 {} version⟩

theorem edit?_renewal (version : Int) :
    OrderJob.edit? PyText.asciiFolding (.call ⟨.numbered 1, .update 1 {} version⟩) =
      some (1, updateEdit PyText.asciiFolding {} version, .numbered 1) := rfl

theorem inLifecycle_renewal (db : Database) (version : Int) : InLifecycle id db (renewal version) := by
  refine ⟨fun text set => ?_, fun text set => ?_⟩
  · cases set
  · cases set

theorem memory_renewal {s : InMemoryOrderRepository} {order : DeliveryOrder} (stored : s.orders.get? 1 = some order)
    (pickup : order.pickupAddress = "Depot 1") (destination : order.destinationAddress = "Harbour 2")
    (weight : order.weightGrams = 500) : (renewal order.version).memory PyText.asciiFolding id s =
      (.ok [{ order with version := order.version + 1 }], s.put { order with version := order.version + 1 }) := by
  have accepted : (updateEdit PyText.asciiFolding {} order.version).change order =
      .ok ({ order with version := order.version + 1 }, none) := by
    simp [updateEdit, DeliveryOrder.updateDetails, pickup, destination, weight]
    rfl
  have ran := exec_edit id (edit?_renewal order.version) s
  simp only [stored, accepted] at ran
  simp only [renewal, LifecycleCall.memory, OrderCall.result, OrderCall.after, ran]
  rfl

theorem version_reached (n : Nat) (h : (n : Int) + 1 < 2 ^ 31) : ∃ trace s db order,
    Exec (LifecycleStep (fun _ => 0) PyText.asciiFolding id) (.empty, .empty) trace (s, db) ∧
    (∀ t ∈ trace, InLifecycle id t.pre.2 t.label ∧ ∀ query, t.label ≠ .listVisible query) ∧ Mirrors s db ∧
    s.orders.get? 1 = some order ∧ order.version = n + 1 ∧ order.pickupAddress = "Depot 1" ∧
    order.destinationAddress = "Harbour 2" ∧ order.weightGrams = 500 := by
  induction n with
  | zero =>
    have inside : InLifecycle id .empty
        (.order ⟨.numbered 1, .create ⟨7, "Depot 1", "Harbour 2", 500⟩ (some "k") defaultTenantId⟩) :=
      inLifecycle_createKeyed rfl rfl
    have simulated : Simulated (fun _ => 0) PyText.asciiFolding id .empty .empty _ :=
      create_simulated Mirrors.empty inside
    refine ⟨_, _, _, _, plainLifecycle_run [_], ?_, simulated.2, rfl, rfl, rfl, rfl, rfl⟩
    intro t ht
    obtain rfl := List.mem_singleton.mp ht
    exact ⟨inside, fun query => by simp⟩
  | succ n ih =>
    obtain ⟨trace, s, db, order, run, inside, mirrors, stored, version, pickup, destination, weight⟩ := ih (by omega)
    have allowed := inLifecycle_renewal db order.version
    have range : InRange db (renewal order.version) := by
      refine ⟨fun _ same => (by cases same), fun orderId row same found => ?_⟩
      obtain rfl := Option.some.inj same
      rw [mirrors.orders, stored, Option.map_some, Option.some.injEq] at found
      have next : row.version = n + 1 := (congrArg OrderRow.version found.symm).trans version
      simp only [fitsInteger, next, Bool.and_eq_true, decide_eq_true_eq]
      omega
    have simulated : Simulated (fun _ => 0) PyText.asciiFolding id s db (renewal order.version) :=
      edit_simulated mirrors (edit?_renewal order.version) allowed range
    have memory := memory_renewal stored pickup destination weight
    have kept := InMemoryOrderRepository.get?_put s { order with version := order.version + 1 } 1
    have key := s.keyed 1 order stored
    refine ⟨_, _, _, { order with version := order.version + 1 }, run.next rfl, ?_, simulated.2, ?_, ?_, pickup,
      destination, weight⟩
    · intro t ht
      rcases List.mem_append.mp ht with old | last
      · exact inside t old
      · obtain rfl := List.mem_singleton.mp last
        exact ⟨allowed, fun query => by simp [renewal]⟩
    · rw [memory]
      exact kept.trans (if_pos key.symm)
    · simp [version]

/-- Only the in-memory adapter goes on after the last version that fits the column. -/
theorem renewal_differs {s : InMemoryOrderRepository} {db : Database} {order : DeliveryOrder} (mirrors : Mirrors s db)
    (stored : s.orders.get? 1 = some order) (pickup : order.pickupAddress = "Depot 1")
    (destination : order.destinationAddress = "Harbour 2") (weight : order.weightGrams = 500)
    (beyond : fitsInteger (order.version + 1) = false) :
    ¬ SameAnswer (fun _ => 0) PyText.asciiFolding id (s, db) (renewal order.version) := by
  intro same
  have answered : ((renewal order.version).memory PyText.asciiFolding id s).1.isOk = true := by
    rw [memory_renewal stored pickup destination weight]
    rfl
  have found : db.orders.get? 1 = some (rowOf order) := by
    rw [mirrors.orders, stored]
    rfl
  rw [← same] at answered
  have ok : (OrderCall.transact (fun _ => 0) PyText.asciiFolding id ⟨.numbered 1, .update 1 {} order.version⟩
      db).1.isOk = true := by
    simp only [renewal, LifecycleCall.postgres] at answered
    cases result : (OrderCall.transact (fun _ => 0) PyText.asciiFolding id ⟨.numbered 1, .update 1 {} order.version⟩
      db).1 with
    | error e =>
      rw [result] at answered
      exact answered
    | ok answer => rfl
  have fits : fitsInteger (order.version + 1) = true := edit_fits_integer (edit?_renewal order.version) found ok
  rw [beyond] at fits
  cases fits

/-- Both ranges matter: an offset beyond `BIGINT` ends one adapter's list and fails the other's, and the
update after the last `INTEGER` version is stored by one adapter only. -/
theorem lifecycle_differs_out_of_range :
    (¬ ∀ trace σ, Exec (LifecycleStep (fun _ => 0) PyText.asciiFolding id) (.empty, .empty) trace σ →
      (∀ t ∈ trace, InLifecycle id t.pre.2 t.label) →
      ∀ t ∈ trace, SameAnswer (fun _ => 0) PyText.asciiFolding id t.pre t.label) ∧
    ¬ ∀ trace σ, Exec (LifecycleStep (fun _ => 0) PyText.asciiFolding id) (.empty, .empty) trace σ →
      (∀ t ∈ trace, InLifecycle id t.pre.2 t.label ∧ ∀ query, t.label ≠ .listVisible query) →
      ∀ t ∈ trace, SameAnswer (fun _ => 0) PyText.asciiFolding id t.pre t.label := by
  constructor
  · intro all
    have run := plainLifecycle_run [.listVisible ⟨"dispatcher", 0, defaultTenantId, 1, 2 ^ 63, "created_at", none⟩]
    have inside : ∀ t ∈ Exec.traceOf plainLifecycle (.empty, .empty)
        [.listVisible ⟨"dispatcher", 0, defaultTenantId, 1, 2 ^ 63, "created_at", none⟩],
        InLifecycle id t.pre.2 t.label := by
      simp only [Exec.traceOf, List.forall_mem_cons]
      exact ⟨⟨by decide, by decide⟩, by simp⟩
    have same := congrArg Except.isOk (all _ _ run inside _ (List.mem_cons_self ..))
    revert same
    decide +kernel
  · intro all
    obtain ⟨trace, s, db, order, run, inside, mirrors, stored, version, pickup, destination, weight⟩ :=
      version_reached (2 ^ 31 - 2) (by decide)
    have beyond : fitsInteger (order.version + 1) = false := by
      rw [version]
      decide
    refine renewal_differs mirrors stored pickup destination weight beyond
      (all _ _ (run.next rfl) (fun t ht => ?_) ⟨(s, db), renewal order.version, _⟩
        (List.mem_append_right _ (List.mem_singleton.mpr rfl)))
    rcases List.mem_append.mp ht with old | last
    · exact inside t old
    · obtain rfl := List.mem_singleton.mp last
      exact ⟨inLifecycle_renewal db order.version, fun query => by simp [renewal]⟩

end DeliveryService
