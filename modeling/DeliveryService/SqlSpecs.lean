import DeliveryService.SqlAlchemyRepository

namespace DeliveryService

theorem Checks.refusal_eq_none {checks : Checks} : checks.refusal = none ↔ ∀ check ∈ checks, check.1 = true := by
  simp [refusal]

theorem Checks.refusal_cons (passed : Bool) (e : Error) (rest : Checks) :
    Checks.refusal ((passed, e) :: rest) = if passed then rest.refusal else some e := by
  cases passed <;> simp [refusal]

theorem Checks.failed_of_refusal {checks : Checks} {e : Error} (h : checks.refusal = some e) :
    (false, e) ∈ checks := by
  obtain ⟨⟨passed, e'⟩, found, rfl⟩ := Option.map_eq_some_iff.mp h
  obtain rfl : passed = false := by simpa using List.find?_some found
  exact List.mem_of_find?_eq_some found

/-- The errors that only the database raises; that the courier is taken is reported when `busy`. -/
def Error.FromDatabase (busy : Prop) : Error → Prop
  | .integrityError constraint => constraint = "uq_active_assignment_courier" → busy
  | .dataError _ => True
  | .staleData _ => True
  | _ => False

theorem Error.FromDatabase.mono {busy busy' : Prop} {e : Error} (h : e.FromDatabase busy) (weaker : busy → busy') :
    e.FromDatabase busy' := by
  cases e with
  | integrityError constraint => exact fun taken => weaker (h taken)
  | dataError | staleData => trivial
  | valueError | invalidTransition | orderNotFound | concurrentUpdate | courierAlreadyBusy
    | idempotencyConflict | runtimeError | http => exact h

theorem Checks.fromDatabase {checks : Checks} {e : Error} (failed : (false, e) ∈ checks)
    (h : ∀ check ∈ checks, check.2.FromDatabase False) : e.FromDatabase False :=
  h _ failed

namespace Database

open SqlAlchemyOrderRepository

/-- The order that `get` builds from the committed rows. -/
def order? (db : Database) (id : UUID) : Option DeliveryOrder :=
  (db.orders.get? id).map fun row => domain row (db.assignmentsOf id)

/-- An order that was read earlier: it still is what the rows say, or its version has been passed. -/
def ReadAt (db : Database) (order : DeliveryOrder) : Prop :=
  ∃ row, db.orders.get? order.id = some row ∧
    (order = domain row (db.assignmentsOf order.id) ∨ order.version < row.version)

theorem ReadAt.step {db db' : Database} {order : DeliveryOrder} (h : db.ReadAt order) (step : db.Step db') :
    db'.ReadAt order := by
  obtain ⟨row, found, current⟩ := h
  obtain ⟨row', found', same | grown⟩ := step.orders order.id row found
  · obtain ⟨rfl, assignments⟩ := same
    exact ⟨row', found', by rwa [assignments]⟩
  · refine ⟨row', found', .inr ?_⟩
    rcases current with read | passed
    · exact (congrArg DeliveryOrder.version read).le.trans_lt grown
    · exact passed.trans grown

theorem activeForOrder_eq (db : Database) (orderId : UUID) :
    db.activeForOrder orderId = (db.assignmentsOf orderId).filter fun row => row.active := by
  simp [activeForOrder, assignmentsOf, List.filter_filter]

theorem mem_activeForCourier {db : Database} {courierId : UUID} {row : AssignmentRow} :
    row ∈ db.activeForCourier courierId ↔
      db.assignments.get? row.id = some row ∧ row.active = true ∧ row.courierId = courierId := by
  simp [activeForCourier, Table.mem_toList]

theorem Step.busy {db db' : Database} {courierId : UUID} (step : db.Step db')
    (h : db.activeForCourier courierId ≠ []) : db'.activeForCourier courierId ≠ [] := by
  obtain ⟨row, mem⟩ := List.exists_mem_of_ne_nil _ h
  obtain ⟨found, active, taken⟩ := mem_activeForCourier.mp mem
  exact List.ne_nil_of_mem (mem_activeForCourier.mpr ⟨step.assignments _ _ found, active, taken⟩)

end Database

open Database

/-- No assignment is in the way of a new one. -/
structure AssignmentRow.Free (row : AssignmentRow) (db : Database) : Prop where
  absent : db.assignments.get? row.id = none
  orderFree : db.activeForOrder row.orderId = []
  courierFree : db.activeForCourier row.courierId = []

/-- The index entries of a new assignment are free and locked. -/
structure AssignmentRow.Reserved (row : AssignmentRow) (held : List Lock) (db : Database) : Prop
    extends row.Free db where
  locked : [.assignment row.id, .activeOrder row.orderId, .activeCourier row.courierId] ⊆ held

theorem AssignmentRow.Reserved.env {hash : String → Int} {row : AssignmentRow} {held : List Lock}
    {db db' : Database} (h : row.Reserved held db) (env : (isolation hash).Env held db db') :
    row.Reserved held db' := by
  obtain ⟨⟨absent, orderFree, courierFree⟩, locked⟩ := h
  have kept := env.2 (.assignment row.id) (locked (by simp))
  have keptOrder := env.2 (.activeOrder row.orderId) (locked (by simp))
  have keptCourier := env.2 (.activeCourier row.courierId) (locked (by simp))
  exact ⟨⟨kept ▸ absent, keptOrder ▸ orderFree, keptCourier ▸ courierFree⟩, locked⟩

theorem AssignmentRow.Reserved.more {row : AssignmentRow} {held held' : List Lock} {db : Database}
    (h : row.Reserved held db) (sub : held ⊆ held') : row.Reserved held' db :=
  { h with locked := List.Subset.trans h.locked sub }

namespace SqlAlchemyOrderRepository

section

variable {hash : String → Int} {held : List Lock} {write : Database → Database} {db : Database}
  {post : Prog.Ending Database Lock Error Unit}

theorem wp_insertInto {own : Checks} {against : Database → Checks} {locks : List Lock}
    {insert : Database → Database}
    (covers : (isolation hash).Covers (locks ++ held) insert)
    (accepted : ∀ now later, (isolation hash).Env held db now →
      (∀ check ∈ own ++ against (write now), check.1 = true) →
      (isolation hash).Env (locks ++ held) now later →
      post (.ok ()) (locks ++ held) (insert ∘ write) later)
    (refused : ∀ now later e, (isolation hash).Env held db now →
      (false, e) ∈ own ++ against (write now) → (isolation hash).Env held now later →
      post (.error e) held write later) :
    Prog.wp (isolation hash) post (.perform (insertInto own against locks insert)) held write db := by
  refine Prog.wp_perform fun start now locked before during _ => ?_
  unfold insertInto
  cases h : (own ++ against (write now)).refusal with
  | some e =>
    exact fun later env => refused now later e (before.trans during) (Checks.failed_of_refusal h) env
  | none =>
    refine ⟨covers, fun later env => ?_⟩
    exact accepted now later (before.trans during) (Checks.refusal_eq_none.mp h) env

theorem wp_insertOrder {row : OrderRow} (frame : ∀ db, (write db).orders = db.orders)
    (accepted : ∀ later, (isolation hash).Env held db later → later.orders.get? row.id = none →
      post (.ok ()) (.order row.id :: held) (addOrder row ∘ write) later)
    (refused : ∀ e later, (isolation hash).Env held db later → e.FromDatabase False →
      post (.error e) held write later) :
    Prog.wp (isolation hash) post (.perform (insertOrder row)) held write db := by
  refine wp_insertInto (covers_addOrder (by simp)) (fun now later before passed after => ?_)
    (fun now later e before failed after => ?_)
  · have fresh : now.orders.get? row.id = none := by
      simpa [frame] using passed _ (List.mem_append_right _ (List.mem_singleton.mpr rfl))
    have kept := (after.2 (.order row.id) (by simp)).1
    exact accepted later (before.trans after.of_append) (kept ▸ fresh)
  · refine refused e later (before.trans after) (Checks.fromDatabase failed ?_)
    simp [OrderRow.checks, Error.FromDatabase]

theorem wp_insertAssignment {row : AssignmentRow} (frame : ∀ db, (write db).assignments = db.assignments)
    (locked : .order row.orderId ∈ held)
    (accepted : ∀ held' later, (isolation hash).Env held db later → held ⊆ held' → row.Reserved held' later →
      post (.ok ()) held' (addAssignment row ∘ write) later)
    (refused : ∀ e later, (isolation hash).Env held db later →
      e.FromDatabase (later.activeForCourier row.courierId ≠ []) → post (.error e) held write later) :
    Prog.wp (isolation hash) post (.perform (insertAssignment row)) held write db := by
  refine wp_insertInto (covers_addAssignment (by simp) (by simp [locked]) (by simp) (by simp))
    (fun now later before passed after => ?_) (fun now later e before failed after => ?_)
  · simp only [List.nil_append, List.forall_mem_cons, decide_eq_true_eq, activeForOrder, activeForCourier,
      frame] at passed
    have kept := after.2 (.assignment row.id) (by simp)
    have keptOrder := after.2 (.activeOrder row.orderId) (by simp)
    have keptCourier := after.2 (.activeCourier row.courierId) (by simp)
    exact accepted _ later (before.trans after.of_append) (List.subset_append_right _ _)
      ⟨⟨kept ▸ passed.1, keptOrder ▸ passed.2.1, keptCourier ▸ passed.2.2.1⟩, List.subset_append_left _ _⟩
  · simp only [List.nil_append, List.mem_cons, Prod.mk.injEq, List.not_mem_nil, or_false,
      activeForOrder, activeForCourier, frame] at failed
    rcases failed with ⟨-, rfl⟩ | ⟨-, rfl⟩ | ⟨busy, rfl⟩ | ⟨-, rfl⟩
    · exact refused _ later (before.trans after) (by simp [Error.FromDatabase])
    · exact refused _ later (before.trans after) (by simp [Error.FromDatabase])
    · refine refused _ later (before.trans after) fun _ => after.1.busy ?_
      exact of_decide_eq_false busy.symm
    · exact refused _ later (before.trans after) (by simp [Error.FromDatabase])

theorem wp_insertHistory {row : OrderStatusChanged} (frame : ∀ db, (write db).history = db.history)
    (accepted : ∀ later, (isolation hash).Env held db later → row.checks.refusal = none →
      later.history.get? row.eventId = none → later.historyOf row.tenantId row.orderId row.orderVersion = [] →
      post (.ok ()) ([.history row.eventId, .historyVersion row.tenantId row.orderId row.orderVersion] ++ held)
        (addHistory row ∘ write) later)
    (refused : ∀ e later, (isolation hash).Env held db later → e.FromDatabase False →
      post (.error e) held write later) :
    Prog.wp (isolation hash) post (.perform (insertHistory row)) held write db := by
  refine wp_insertInto (covers_addHistory (by simp) (by simp)) (fun now later before passed after => ?_)
    (fun now later e before failed after => ?_)
  · obtain ⟨own, against⟩ := List.forall_mem_append.mp passed
    simp only [List.forall_mem_cons, decide_eq_true_eq, Database.historyOf, frame] at against
    have kept := after.2 (.history row.eventId) (by simp)
    have keptVersion := after.2 (.historyVersion row.tenantId row.orderId row.orderVersion) (by simp)
    exact accepted later (before.trans after.of_append) (Checks.refusal_eq_none.mpr own) (kept ▸ against.1)
      (keptVersion ▸ against.2.1)
  · refine refused e later (before.trans after) (Checks.fromDatabase failed ?_)
    simp [OrderStatusChanged.checks, Error.FromDatabase]

theorem wp_insertOutbox {row : OutboxRow} (frame : ∀ db, (write db).outbox = db.outbox)
    (accepted : ∀ later, (isolation hash).Env held db later → later.outbox.get? row.id = none →
      post (.ok ()) (.outbox row.id :: held) (addOutbox row ∘ write) later)
    (refused : ∀ e later, (isolation hash).Env held db later → e.FromDatabase False →
      post (.error e) held write later) :
    Prog.wp (isolation hash) post (.perform (insertOutbox row)) held write db := by
  refine wp_insertInto (covers_addOutbox (by simp)) (fun now later before passed after => ?_)
    (fun now later e before failed after => ?_)
  · have fresh : now.outbox.get? row.id = none := by
      simpa [frame] using passed _ (List.mem_append_right _ (List.mem_singleton.mpr rfl))
    have kept := after.2 (.outbox row.id) (by simp)
    exact accepted later (before.trans after.of_append) (kept ▸ fresh)
  · exact refused e later (before.trans after) (Checks.fromDatabase failed (by simp [Error.FromDatabase]))

theorem wp_insertRecord {row : IdempotencyRow} (frame : ∀ db, (write db).idempotency = db.idempotency)
    (locked : .advisory (hash row.key) ∈ held)
    (accepted : ∀ later, (isolation hash).Env held db later → later.idempotency.get? row.key = none →
      post (.ok ()) (.idempotency row.key :: held) (addRecord row ∘ write) later)
    (refused : ∀ e later, (isolation hash).Env held db later → e.FromDatabase False →
      post (.error e) held write later) :
    Prog.wp (isolation hash) post (.perform (insertRecord row)) held write db := by
  refine wp_insertInto (covers_addRecord (by simp) (by simp [locked])) (fun now later before passed after => ?_)
    (fun now later e before failed after => ?_)
  · have fresh : now.idempotency.get? row.key = none := by
      simpa [frame] using passed _ (List.mem_append_right _ (List.mem_singleton.mpr rfl))
    have kept := after.2 (.idempotency row.key) (by simp)
    exact accepted later (before.trans after.of_append) (kept ▸ fresh)
  · refine refused e later (before.trans after) (Checks.fromDatabase failed ?_)
    simp [IdempotencyRow.checks, Error.FromDatabase]

theorem wp_get {orderId : UUID} {post : Prog.Ending Database Lock Error (Option DeliveryOrder)}
    (next : ∀ answer later, (isolation hash).Env held db later →
      (∀ order, answer = some order → order.id = orderId ∧ later.ReadAt order) → post (.ok answer) held id later) :
    Prog.wp (isolation hash) post (get orderId) held id db := by
  refine Prog.wp_bind (Prog.wp_read (fun _ _ _ => rfl) fun start middle before during => ?_)
  cases found : start.orders.get? orderId with
  | none =>
    simp only [id, found]
    exact fun later after => next none later (before.trans (during.trans after)) (by simp)
  | some row =>
    simp only [id, found]
    refine Prog.wp_bind (Prog.wp_read (fun _ _ _ => rfl) fun start' later before' during' => ?_)
    intro last after
    refine next _ last (before.trans (during.trans (before'.trans (during'.trans after)))) ?_
    rintro order answered
    obtain rfl := Option.some.inj answered
    obtain rfl := Table.key_of_get? found
    -- an order that changes between the two queries has a greater version at the second one
    obtain ⟨row', found', same | grown⟩ := (during.trans before').1.orders _ _ found
    · obtain ⟨rfl, _⟩ := same
      have read : start'.ReadAt (domain row' (start'.assignmentsOf row'.id)) := ⟨row', found', .inl rfl⟩
      exact ⟨rfl, read.step (during'.trans after).1⟩
    · have read : start'.ReadAt (domain row (start'.assignmentsOf row.id)) := ⟨row', found', .inr grown⟩
      exact ⟨rfl, read.step (during'.trans after).1⟩

/-- Why a conditional update finds no row: the order that was read has been passed. -/
theorem passed_of_unmatched {order : DeliveryOrder} (read : db.ReadAt order)
    (h : (db.orders.get? order.id).filter (fun row => row.version = order.version) = none) :
    ∃ row, db.orders.get? order.id = some row ∧ order.version < row.version := by
  obtain ⟨row, found, current | passed⟩ := read
  · rw [found] at h
    have same : row.version = order.version := (congrArg DeliveryOrder.version current).symm
    simp [Option.filter, same] at h
  · exact ⟨row, found, passed⟩

theorem passed_step {db' : Database} {order : DeliveryOrder}
    (h : ∃ row, db.orders.get? order.id = some row ∧ order.version < row.version) (step : db.Step db') :
    ∃ row, db'.orders.get? order.id = some row ∧ order.version < row.version := by
  obtain ⟨row, found, passed⟩ := h
  obtain ⟨row', found', ⟨rfl, _⟩ | grown⟩ := step.orders _ _ found
  · exact ⟨row', found', passed⟩
  · exact ⟨row', found', passed.trans grown⟩

theorem wp_updateOrder {order current : DeliveryOrder} {post : Prog.Ending Database Lock Error (Option Int)}
    (same : order.id = current.id) (read : db.ReadAt current)
    (missed : ∀ locks later, (isolation hash).Env held db later →
      (∃ row, later.orders.get? current.id = some row ∧ current.version < row.version) →
      post (.ok none) (locks ++ held) id later)
    (updated : ∀ row later, (isolation hash).Env held db later → later.orders.get? current.id = some row →
      current = domain row (later.assignmentsOf current.id) → (savedRow row order).checks.refusal = none →
      post (.ok (some (row.version + 1))) (.order current.id :: held) (putOrder (savedRow row order)) later)
    (refused : ∀ e later, (isolation hash).Env held db later → e.FromDatabase False → post (.error e) held id later) :
    Prog.wp (isolation hash) post (.perform (updateOrder order current.version)) held id db := by
  refine Prog.wp_perform fun start now locked before during _ => ?_
  have readNow := read.step (before.trans during).1
  simp only [updateOrder, id, same]
  cases h : (start.orders.get? current.id).filter (fun row => row.version = current.version) with
  | none =>
    refine ⟨fun l _ db => (isolation hash).agree_refl l db, fun later after => missed [] later
      (before.trans (during.trans after)) ?_⟩
    exact passed_step (passed_of_unmatched (read.step before.1) h) (during.trans after).1
  | some _ =>
    cases h' : (now.orders.get? current.id).filter (fun row => row.version = current.version) with
    | none =>
      refine ⟨fun l _ db => (isolation hash).agree_refl l db, fun later after => missed _ later
        (before.trans (during.trans after.of_append)) ?_⟩
      exact passed_step (passed_of_unmatched readNow h') after.1
    | some row =>
      simp only
      obtain ⟨found, version⟩ := Option.filter_eq_some_iff.mp h'
      cases refusal : (savedRow row order).checks.refusal with
      | some e =>
        refine fun later after => refused e later (before.trans (during.trans after)) ?_
        exact Checks.fromDatabase (Checks.failed_of_refusal refusal) (by simp [OrderRow.checks, Error.FromDatabase])
      | none =>
        have key := Table.key_of_get? found
        refine ⟨covers_putOrder (by simp [savedRow, key]), fun later after => ?_⟩
        obtain ⟨kept, keptAssignments⟩ := after.2 (.order current.id) (by simp)
        refine updated row later (before.trans (during.trans after.of_append)) (kept ▸ found) ?_ refusal
        obtain ⟨row', found', current' | passed⟩ := readNow
        · rw [found] at found'
          rw [← keptAssignments, Option.some.inj found']
          exact current'
        · rw [found] at found'
          obtain rfl := Option.some.inj found'
          simp only [decide_eq_true_eq] at version
          omega

/-- The assignment that `save` adds for the courier of an order. -/
def addedAssignment (order : DeliveryOrder) (courierId : UUID) (gen : Generated) : AssignmentRow :=
  { id := gen.assignmentId, orderId := order.id, courierId }

/-- What `save` leaves pending: the new row in the place of the one that was read and, for an order whose
courier has no active assignment yet, that assignment. -/
structure Saved (current order : DeliveryOrder) (gen : Generated) (held : List Lock)
    (write : Database → Database) (db : Database) : Prop where
  version : order.version = current.version + 1
  locked : .order current.id ∈ held
  written : ∃ row, db.orders.get? current.id = some row ∧ current = domain row (db.assignmentsOf current.id) ∧
    (savedRow row order).checks.refusal = none ∧
    (write = putOrder (savedRow row order) ∧ (order.courierId = none ∨ db.activeForOrder current.id ≠ []) ∨
      ∃ courierId, order.courierId = some courierId ∧ (addedAssignment order courierId gen).Reserved held db ∧
        write = addAssignment (addedAssignment order courierId gen) ∘ putOrder (savedRow row order))

theorem Saved.env {current order : DeliveryOrder} {gen : Generated} {db' : Database}
    (h : Saved current order gen held write db) (env : (isolation hash).Env held db db') :
    Saved current order gen held write db' := by
  obtain ⟨version, locked, row, found, read, accepted, written⟩ := h
  obtain ⟨keptRow, keptAssignments⟩ := env.2 _ locked
  refine ⟨version, locked, row, keptRow ▸ found, keptAssignments ▸ read, accepted, ?_⟩
  rw [activeForOrder_eq, ← keptAssignments, ← activeForOrder_eq]
  exact written.imp_right fun ⟨courierId, courier, reserved, added⟩ =>
    ⟨courierId, courier, reserved.env env, added⟩

theorem Saved.more {current order : DeliveryOrder} {gen : Generated} {held' : List Lock}
    (h : Saved current order gen held write db) (sub : held ⊆ held') : Saved current order gen held' write db := by
  obtain ⟨version, locked, row, found, read, accepted, written⟩ := h
  exact ⟨version, sub locked, row, found, read, accepted, written.imp_right fun ⟨courierId, courier, reserved, added⟩ =>
    ⟨courierId, courier, reserved.more sub, added⟩⟩

theorem Saved.frame {current order : DeliveryOrder} {gen : Generated}
    (h : Saved current order gen held write db) (any : Database) :
    (write any).history = any.history ∧ (write any).outbox = any.outbox := by
  obtain ⟨-, -, row, -, -, -, ⟨rfl, -⟩ | ⟨courierId, -, -, rfl⟩⟩ := h
  · exact ⟨rfl, rfl⟩
  · exact ⟨rfl, rfl⟩

/-- Why `save` fails: the caller did not advance the version, the order was changed meanwhile, or the
database refused a row. -/
inductive SaveFailure (current : DeliveryOrder) (db : Database) : Error → Prop
  | notAdvanced : SaveFailure current db (.valueError "domain state must advance version exactly once")
  | passed {row} : db.orders.get? current.id = some row → current.version < row.version →
      SaveFailure current db (.concurrentUpdate "optimistic version conflict")
  | database {e} : e.FromDatabase True → SaveFailure current db e

theorem wp_saveAssignment {order current : DeliveryOrder} {gen : Generated} {row : OrderRow}
    (same : order.id = current.id) (version : order.version = current.version + 1)
    (found : db.orders.get? current.id = some row) (read : current = domain row (db.assignmentsOf current.id))
    (accepted : (savedRow row order).checks.refusal = none)
    (saved : ∀ held' write' later, (isolation hash).Env held db later → Saved current order gen held' write' later →
      post (.ok ()) held' write' later)
    (failed : ∀ e later, (isolation hash).Env held db later → e.FromDatabase True →
      post (.error e) (.order current.id :: held) (putOrder (savedRow row order)) later) :
    Prog.wp (isolation hash) post (saveAssignment order gen) (.order current.id :: held)
      (putOrder (savedRow row order)) db := by
  have plain : (order.courierId = none ∨ db.activeForOrder current.id ≠ []) →
      Saved current order gen (.order current.id :: held) (putOrder (savedRow row order)) db :=
    fun settled => ⟨version, by simp, row, found, read, accepted, .inl ⟨rfl, settled⟩⟩
  unfold saveAssignment
  split
  next none => exact fun later env => saved _ _ later env.of_cons ((plain (.inl none)).env env)
  next courierId courier =>
    refine Prog.wp_bind (Prog.wp_read (fun _ _ _ => rfl) fun start later before during => ?_)
    have seen : (putOrder (savedRow row order) start).activeForOrder order.id = db.activeForOrder current.id := by
      change start.activeForOrder order.id = db.activeForOrder current.id
      rw [same, activeForOrder_eq, activeForOrder_eq, (before.2 (.order current.id) (by simp)).2]
    rw [seen]
    cases active : db.activeForOrder current.id with
    | cons assignment rest =>
      have settled := plain (.inr (active ▸ List.cons_ne_nil _ _))
      exact fun last after => saved _ _ last (before.trans (during.trans after)).of_cons
        (settled.env (before.trans (during.trans after)))
    | nil =>
      have env := before.trans during
      refine wp_insertAssignment (fun _ => rfl) (by simp [same])
        (fun held' last after sub reserved => ?_)
        (fun e last after raised => failed e last (env.trans after).of_cons (raised.mono fun _ => trivial))
      obtain ⟨kept, keptAssignments⟩ := (env.trans after).2 (.order current.id) (by simp)
      exact saved _ _ last (env.trans after).of_cons ⟨version, sub (by simp), row, kept ▸ found,
        keptAssignments ▸ read, accepted, .inr ⟨courierId, courier, reserved, rfl⟩⟩

theorem wp_save {order current : DeliveryOrder} {gen : Generated} (same : order.id = current.id)
    (read : db.ReadAt current)
    (saved : ∀ held' write' later, (isolation hash).Env held db later → Saved current order gen held' write' later →
      post (.ok ()) held' write' later)
    (failed : ∀ e held' write' later, db.Step later → SaveFailure current later e →
      post (.error e) held' write' later) :
    Prog.wp (isolation hash) post (save order current.version gen) held id db := by
  unfold save
  split
  next => exact fun later env => failed _ _ _ later env.1 .notAdvanced
  next advanced =>
    have version : order.version = current.version + 1 := not_not.mp advanced
    refine Prog.wp_bind (wp_updateOrder same read ?missed ?updated
      fun e later env raised => failed e _ _ later env.1 (.database (raised.mono False.elim)))
    case missed =>
      intro locks later env passed last after
      obtain ⟨row, found, greater⟩ := passed_step passed after.1
      exact failed _ _ _ last (env.1.trans after.1) (.passed found greater)
    case updated =>
      intro row later env found read' accepted
      have persisted : row.version + 1 = order.version := by
        rw [version, congrArg DeliveryOrder.version read']
        rfl
      simp only [persisted, ne_eq, not_true_eq_false, if_false]
      exact wp_saveAssignment same version found read' accepted
        (fun held' write' last after => saved _ _ last (env.trans after))
        (fun e last after raised => failed _ _ _ last (env.1.trans after.1) (.database raised))

/-- The history and outbox rows of a status change. -/
def addReport (event : OrderStatusChanged) : Database → Database :=
  addOutbox (statusChangedRow event) ∘ addHistory event

/-- Neither row of a status change exists, and the history takes its row. -/
structure Unreported (event : OrderStatusChanged) (db : Database) : Prop where
  accepted : event.checks.refusal = none
  history : db.history.get? event.eventId = none
  versionFree : db.historyOf event.tenantId event.orderId event.orderVersion = []
  outbox : db.outbox.get? event.eventId = none

/-- The keys of both rows of a status change are free and locked. -/
structure ReportReserved (event : OrderStatusChanged) (held : List Lock) (db : Database) : Prop
    extends Unreported event db where
  locked : [.history event.eventId, .historyVersion event.tenantId event.orderId event.orderVersion,
    .outbox event.eventId] ⊆ held

theorem ReportReserved.env {event : OrderStatusChanged} {db' : Database} (h : ReportReserved event held db)
    (env : (isolation hash).Env held db db') : ReportReserved event held db' := by
  have kept := env.2 (.history event.eventId) (h.locked (by simp))
  have keptVersion := env.2 (.historyVersion event.tenantId event.orderId event.orderVersion) (h.locked (by simp))
  have keptOutbox := env.2 (.outbox event.eventId) (h.locked (by simp))
  exact ⟨⟨h.accepted, kept ▸ h.history, keptVersion ▸ h.versionFree, keptOutbox ▸ h.outbox⟩, h.locked⟩

theorem wp_report {event : OrderStatusChanged}
    (frame : ∀ db, (write db).history = db.history ∧ (write db).outbox = db.outbox)
    (accepted : ∀ held' later, (isolation hash).Env held db later → held ⊆ held' → ReportReserved event held' later →
      post (.ok ()) held' (addReport event ∘ write) later)
    (refused : ∀ e held' write' later, (isolation hash).Env held db later → e.FromDatabase False →
      post (.error e) held' write' later) :
    Prog.wp (isolation hash) post (do
      Prog.perform (insertHistory event)
      Prog.perform (insertOutbox (statusChangedRow event))) held write db := by
  refine Prog.wp_bind (wp_insertHistory (fun db => (frame db).1) (fun middle before accepts absent free => ?_)
    fun e later env raised => refused e _ _ later env raised)
  refine wp_insertOutbox (fun db => (frame db).2) (fun later after absentOutbox => ?_)
    fun e later env raised => refused e _ _ later (before.trans env.of_append) raised
  have kept := after.2 (.history event.eventId) (by simp)
  have keptVersion := after.2 (.historyVersion event.tenantId event.orderId event.orderVersion) (by simp)
  refine accepted _ later (before.trans after.of_append) ?_
    ⟨⟨accepts, kept ▸ absent, keptVersion ▸ free, absentOutbox⟩, by simp [statusChangedRow]⟩
  exact List.Subset.trans (List.subset_append_right _ held) (List.subset_cons_self _ _)

/-- Why `save_transition` fails; the event may also describe another order. -/
inductive SaveTransitionFailure (current : DeliveryOrder) (db : Database) : Error → Prop
  | otherEvent : SaveTransitionFailure current db
      (.valueError "transition event does not describe the persisted order")
  | save {e} : SaveFailure current db e → SaveTransitionFailure current db e

theorem wp_saveTransition {order current : DeliveryOrder} {event : OrderStatusChanged} {gen : Generated}
    (same : order.id = current.id) (read : db.ReadAt current)
    (saved : ∀ held' write' later, Saved current order gen held' write' later → ReportReserved event held' later →
      event.orderId = order.id → event.orderVersion = order.version →
      post (.ok ()) held' (addReport event ∘ write') later)
    (failed : ∀ e held' write' later, db.Step later → SaveTransitionFailure current later e →
      post (.error e) held' write' later) :
    Prog.wp (isolation hash) post (saveTransition order current.version event gen) held id db := by
  unfold saveTransition
  split
  next => exact fun later env => failed _ _ _ later env.1 .otherEvent
  next described =>
    obtain ⟨hid, hversion⟩ : event.orderId = order.id ∧ event.orderVersion = order.version := by
      simpa [not_or] using described
    refine Prog.wp_bind (wp_save same read (fun held' write' middle before pending => ?_)
      fun e _ _ later step failure => failed e _ _ later step (.save failure))
    refine wp_report pending.frame (fun held'' later after sub unreported => ?_)
      fun e _ _ later after raised => ?_
    · exact saved _ _ later ((pending.env after).more sub) unreported hid hversion
    · exact failed e _ _ later (before.1.trans after.1) (.save (.database (raised.mono False.elim)))

theorem wp_selectNextCreated {tenantId : UUID} {post : Prog.Ending Database Lock Error (Option OrderRow)}
    (skipped : ∀ later, (isolation hash).Env held db later → post (.ok none) held id later)
    (taken : ∀ row later, (isolation hash).Env held db later → later.orders.get? row.id = some row →
      isCandidate tenantId row = true → post (.ok (some row)) (.order row.id :: held) id later) :
    Prog.wp (isolation hash) post (.perform (selectNextCreated tenantId)) held id db := by
  refine Prog.wp_perform fun start now locked before during _ => ?_
  simp only [selectNextCreated, id]
  split
  next finished ran =>
    split at ran
    next =>
      obtain rfl := Except.ok.inj ran
      exact ⟨fun l _ db => (isolation hash).agree_refl l db, fun later after =>
        skipped later (before.trans (during.trans after))⟩
    next row first =>
      obtain rfl := Except.ok.inj ran
      obtain ⟨candidate, _, newest⟩ := List.exists_of_findSome?_eq_some first
      split at newest
      next => simp at newest
      next =>
        obtain ⟨found, qualifies⟩ := Option.filter_eq_some_iff.mp newest
        obtain same := Table.key_of_get? found
        refine ⟨fun l _ db => (isolation hash).agree_refl l db, fun later after => ?_⟩
        have kept := (after.2 (.order row.id) (by simp)).1
        exact taken row later (before.trans (during.trans after.of_append)) (kept ▸ same ▸ found) qualifies
  next e ran => split at ran <;> simp at ran

theorem wp_flushOrder {row : OrderRow} {status : OrderStatus} {version : Int}
    (found : db.orders.get? row.id = some row) (locked : .order row.id ∈ held)
    (flushed : ∀ later, (isolation hash).Env held db later →
      post (.ok ()) (.order row.id :: held) (putOrder { row with status, version }) later)
    (refused : ∀ e later, (isolation hash).Env held db later → e.FromDatabase False → post (.error e) held id later) :
    Prog.wp (isolation hash) post (.perform (flushOrder row.id status version)) held id db := by
  refine Prog.wp_perform fun start now _ before during _ => ?_
  have kept := ((before.trans during).2 _ locked).1
  simp only [flushOrder, id, ← kept, found]
  cases refusal : (OrderRow.checks { row with status, version }).refusal with
  | some e =>
    refine fun later after => refused e later (before.trans (during.trans after)) ?_
    exact Checks.fromDatabase (Checks.failed_of_refusal refusal) (by simp [OrderRow.checks, Error.FromDatabase])
  | none =>
    exact ⟨covers_putOrder (by simp), fun later after =>
      flushed later (before.trans (during.trans after.of_append))⟩

/-- The order that a claim finds. -/
def queued (row : OrderRow) : DeliveryOrder := { domain row [] with status := .created }

def claimEvent (row : OrderRow) (courierId : UUID) (occurredAt : Datetime) (correlationId : String)
    (gen : Generated) : OrderStatusChanged :=
  statusEvent gen.eventId (queued row) ((queued row).takenBy courierId) courierId "courier" occurredAt correlationId

theorem assign_queued (row : OrderRow) (courierId : UUID) :
    (queued row).assign courierId = .ok ((queued row).takenBy courierId) :=
  DeliveryOrder.assign_created rfl courierId

theorem fromTransition_claim (row : OrderRow) (courierId : UUID) (occurredAt : Datetime) (correlationId : String)
    (gen : Generated) :
    OrderStatusChanged.fromTransition gen.eventId (queued row) ((queued row).takenBy courierId) courierId "courier"
      occurredAt correlationId = .ok (claimEvent row courierId occurredAt correlationId gen) := by
  have moves : (queued row).status ≠ ((queued row).takenBy courierId).status := by
    simp [queued, DeliveryOrder.takenBy, DeliveryOrder.movedTo]
  exact fromTransition_statusEvent rfl rfl rfl moves

/-- The row of a claimed order. -/
def claimedRow (row : OrderRow) : OrderRow := { row with status := .assigned, version := row.version + 1 }

/-- What a claim leaves pending. -/
def claimWrite (row : OrderRow) (assignment : AssignmentRow) (event : OrderStatusChanged) : Database → Database :=
  addReport event ∘ addAssignment assignment ∘ putOrder (claimedRow row)

theorem wp_flushClaim {row : OrderRow} {claimed : DeliveryOrder} {assignment : AssignmentRow}
    {event : OrderStatusChanged} (hid : claimed.id = row.id) (hstatus : claimed.status = .assigned)
    (hversion : claimed.version = row.version + 1) (horder : assignment.orderId = row.id)
    (found : db.orders.get? row.id = some row) (locked : .order row.id ∈ held)
    (flushed : ∀ held' later, later.orders.get? row.id = some row → .order row.id ∈ held' →
      assignment.Reserved held' later → ReportReserved event held' later →
      post (.ok ()) held' (claimWrite row assignment event) later)
    (failed : ∀ e held' write' later, db.Step later →
      e.FromDatabase (later.activeForCourier assignment.courierId ≠ []) → post (.error e) held' write' later) :
    Prog.wp (isolation hash) post (flushClaim claimed assignment event) held id db := by
  unfold flushClaim
  rw [hid, hstatus, hversion]
  refine Prog.wp_bind (wp_flushOrder found locked (fun first env₁ => ?_)
    fun e later env raised => failed e _ _ later env.1 (raised.mono False.elim))
  refine Prog.wp_bind (wp_insertAssignment (fun _ => rfl) (by simp [horder])
    (fun held' second env₂ sub reserved => ?_)
    fun e later env raised => failed e _ _ later (env₁.1.trans env.1) raised)
  refine wp_report (fun _ => ⟨rfl, rfl⟩) (fun held'' later env₃ sub' unreported => ?_)
    fun e _ _ later env raised => failed e _ _ later (env₁.1.trans (env₂.1.trans env.1)) (raised.mono False.elim)
  have kept := ((env₁.trans env₂.of_cons).2 _ locked).1
  have kept' := (env₃.2 (.order row.id) (sub (by simp))).1
  exact flushed _ later (kept' ▸ kept ▸ found) (sub' (sub (by simp))) ((reserved.env env₃).more sub') unreported

def claimedAssignment (row : OrderRow) (courierId : UUID) (gen : Generated) : AssignmentRow :=
  { id := gen.assignmentId, orderId := row.id, courierId }

/-- Why a claim fails: the courier has an active assignment, or the database refused a row. -/
inductive ClaimFailure (courierId : UUID) (db : Database) : Error → Prop
  | busy : db.activeForCourier courierId ≠ [] → ClaimFailure courierId db courierBusy
  | database {e} : e.FromDatabase False → ClaimFailure courierId db e

theorem claimFailure_of_flush {courierId : UUID} {e : Error}
    (h : e.FromDatabase (db.activeForCourier courierId ≠ [])) : ClaimFailure courierId db
      (if e = .integrityError "uq_active_assignment_courier" then courierBusy else e) := by
  split
  next taken =>
    subst taken
    exact .busy (h rfl)
  next other =>
    refine .database ?_
    cases e with
    | integrityError constraint => exact fun taken => other (by rw [taken])
    | _ => exact h

theorem wp_claimNextCreatedOrder {courierId tenantId : UUID} {occurredAt : Datetime} {correlationId : String}
    {gen : Generated} {post : Prog.Ending Database Lock Error (Option DeliveryOrder)}
    (skipped : ∀ later, (isolation hash).Env held db later → post (.ok none) held id later)
    (claimed : ∀ row held' later, later.orders.get? row.id = some row → isCandidate tenantId row = true →
      (claimedAssignment row courierId gen).Reserved held' later →
      ReportReserved (claimEvent row courierId occurredAt correlationId gen) held' later →
      post (.ok (some ((queued row).takenBy courierId))) held' (claimWrite row
        (claimedAssignment row courierId gen) (claimEvent row courierId occurredAt correlationId gen)) later)
    (failed : ∀ e held' write' later, db.Step later → ClaimFailure courierId later e →
      post (.error e) held' write' later) :
    Prog.wp (isolation hash) post
      (claimNextCreatedOrder courierId tenantId occurredAt correlationId gen) held id db := by
  refine Prog.wp_bind (wp_selectNextCreated (fun later env last after => skipped last (env.trans after))
    fun row first env₁ found qualifies => ?_)
  change Prog.wp _ _ (MonadExcept.ofExcept ((queued row).assign courierId) >>= _) _ _ _
  rw [assign_queued]
  change Prog.wp _ _ (MonadExcept.ofExcept (OrderStatusChanged.fromTransition gen.eventId (queued row)
    ((queued row).takenBy courierId) courierId "courier" occurredAt correlationId) >>= _) _ _ _
  rw [fromTransition_claim]
  change Prog.wp _ _ (Prog.tryCatch (flushClaim ((queued row).takenBy courierId)
    (claimedAssignment row courierId gen) (claimEvent row courierId occurredAt correlationId gen)) _ >>= _) _ _ _
  refine Prog.wp_bind (Prog.wp_tryCatch (wp_flushClaim rfl rfl rfl rfl found (by simp)
    (fun held' later found' locked reserved unreported => ?_) fun e held' write' later step raised => ?_))
  · intro last env
    have kept := (env.2 _ locked).1
    exact claimed row held' last (kept ▸ found') qualifies (reserved.env env) (unreported.env env)
  · change Prog.wp _ _ (if e = .integrityError "uq_active_assignment_courier" then throw courierBusy
      else throw e) _ _ _
    rw [← apply_ite throw]
    exact fun last after => failed _ _ _ last (env₁.1.trans (step.trans after.1))
      (claimFailure_of_flush (raised.mono after.1.busy))

theorem wp_idempotentOrder {scope requestFingerprint : String}
    {post : Prog.Ending Database Lock Error (Option DeliveryOrder)}
    (absent : ∀ later, (isolation hash).Env held db later → later.idempotency.get? scope = none →
      post (.ok none) (.advisory (hash scope) :: held) id later)
    (found : ∀ record later, (isolation hash).Env held db later → later.idempotency.get? scope = some record →
      post ((replayRecord requestFingerprint record).map some) (.advisory (hash scope) :: held) id later) :
    Prog.wp (isolation hash) post (idempotentOrder hash scope requestFingerprint) held id db := by
  refine Prog.wp_bind (Prog.wp_perform fun _ _ _ before during _ =>
    ⟨fun l _ db => (isolation hash).agree_refl l db, fun first after => ?_⟩)
  have env := before.trans (during.trans after.of_append)
  refine Prog.wp_bind (Prog.wp_read (fun _ _ _ => rfl) fun start later before' during' => ?_)
  -- nobody else writes a record of the scope while its advisory lock is held
  have kept : ∀ last, (isolation hash).Env (.advisory (hash scope) :: held) later last →
      start.idempotency.get? scope = last.idempotency.get? scope :=
    fun last after' => (during'.trans after').2 (.advisory (hash scope)) (by simp) scope rfl
  have env' := env.trans (before'.trans during').of_cons
  simp only [Function.comp_id, id_eq]
  cases stored : start.idempotency.get? scope with
  | none => exact fun last after' => absent last (env'.trans after'.of_cons) (kept last after' ▸ stored)
  | some record =>
    refine Prog.wp_map (Prog.wp_ofExcept fun last after' => ?_)
    exact found record last (env'.trans after'.of_cons) (kept last after' ▸ stored)

end

end SqlAlchemyOrderRepository

end DeliveryService
