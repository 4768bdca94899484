import DeliveryService.SqlEffects

namespace DeliveryService

open Database SqlAlchemyOrderRepository

section

variable {db : Database}

theorem runAlone_insertInto {own : Checks} {against : Database → Checks} {locks : List Lock}
    {insert : Database → Database} (h : own.refusal = none) (h' : (against db).refusal = none) :
    (Prog.perform (insertInto own against locks insert)).runAlone db = (.ok (), insert db) := by
  have passed : (own ++ against db).refusal = none := by
    simp only [Checks.refusal, Option.map_eq_none_iff] at h h' ⊢
    rw [List.find?_append, h, h']
    rfl
  simp [Prog.runAlone_perform, insertInto, passed]

theorem runAlone_insertInto_refused {own : Checks} {against : Database → Checks} {locks : List Lock}
    {insert : Database → Database} {e : Error} (h : (own ++ against db).refusal = some e) :
    (Prog.perform (insertInto own against locks insert)).runAlone db = (.error e, db) := by
  simp [Prog.runAlone_perform, insertInto, h]

/-- Alone, a skip-locked query takes the first row of its queue. -/
theorem findSome?_newest {t : Table OrderRow.id} {qualifies : OrderRow → Bool} {queue : List OrderRow}
    (stored : ∀ row ∈ queue, t.get? row.id = some row ∧ qualifies row = true) :
    queue.findSome? (fun row => (t.get? row.id).filter qualifies) = queue.head? := by
  cases queue with
  | nil => rfl
  | cons row rest =>
    obtain ⟨found, qualified⟩ := stored row (List.mem_cons_self ..)
    have newest : (t.get? row.id).filter qualifies = some row := by simp [found, qualified]
    simp [newest]

theorem mem_sorted_filter {t : Table OrderRow.id} {qualifies : OrderRow → Bool} :
    ∀ row ∈ (t.toList.filter qualifies).insertionSort fun a b => queueKey a ≤ queueKey b,
      t.get? row.id = some row ∧ qualifies row = true := by
  intro row mem
  rwa [List.mem_insertionSort, List.mem_filter, Table.mem_toList] at mem

theorem runAlone_flushOrder {row : OrderRow} (found : db.orders.get? row.id = some row) (status : OrderStatus)
    (version : Int) : (Prog.perform (flushOrder row.id status version)).runAlone db =
      match (OrderRow.checks { row with status, version }).refusal with
      | some e => (.error e, db)
      | none => (.ok (), putOrder { row with status, version } db) := by
  cases refusal : (OrderRow.checks { row with status, version }).refusal <;>
    simp [Prog.runAlone_perform, flushOrder, found, refusal]

theorem runAlone_insertAssignment (row : AssignmentRow) (stored : (db.orders.get? row.orderId).isSome = true) :
    (Prog.perform (insertAssignment row)).runAlone db =
      if db.assignments.get? row.id ≠ none then (.error (.integrityError "courier_assignment_pkey"), db)
      else if db.activeForOrder row.orderId ≠ [] then (.error (.integrityError "uq_active_assignment_order"), db)
      else if db.activeForCourier row.courierId ≠ [] then (.error (.integrityError "uq_active_assignment_courier"), db)
      else (.ok (), addAssignment row db) := by
  split_ifs with taken order courier
  · exact runAlone_insertInto_refused (by simp [Checks.refusal_cons, taken])
  · exact runAlone_insertInto_refused (by simp [Checks.refusal_cons, not_not.mp taken, order])
  · exact runAlone_insertInto_refused (by simp [Checks.refusal_cons, not_not.mp taken, not_not.mp order, courier])
  · refine runAlone_insertInto rfl ?_
    simp [Checks.refusal, not_not.mp taken, not_not.mp order, not_not.mp courier, stored]

theorem runAlone_insertAssignment_free {row : AssignmentRow} (stored : (db.orders.get? row.orderId).isSome = true)
    (free : row.Free db) : (Prog.perform (insertAssignment row)).runAlone db = (.ok (), addAssignment row db) := by
  rw [runAlone_insertAssignment row stored]
  simp [free.absent, free.orderFree, free.courierFree]

theorem runAlone_insertAssignment_blocked {row : AssignmentRow}
    (stored : (db.orders.get? row.orderId).isSome = true) (blocked : ¬ row.Free db) :
    ∃ e, (Prog.perform (insertAssignment row)).runAlone db = (.error e, db) := by
  rw [runAlone_insertAssignment row stored]
  split_ifs with taken order courier
  · exact ⟨_, rfl⟩
  · exact ⟨_, rfl⟩
  · exact ⟨_, rfl⟩
  · exact absurd ⟨not_not.mp taken, not_not.mp order, not_not.mp courier⟩ blocked

theorem runAlone_report {event : OrderStatusChanged} (unreported : Unreported event db)
    (stored : (db.orders.get? event.orderId).isSome = true) :
    (do
      Prog.perform (insertHistory event)
      Prog.perform (insertOutbox (statusChangedRow event)) : Sql Unit).runAlone db = (.ok (), addReport event db) := by
  have history : (Prog.perform (insertHistory event)).runAlone db = (.ok (), addHistory event db) :=
    runAlone_insertInto unreported.accepted
      (Checks.refusal_eq_none.mpr (by simp [unreported.history, unreported.versionFree, stored]))
  have outbox : (Prog.perform (insertOutbox (statusChangedRow event))).runAlone (addHistory event db) =
      (.ok (), addReport event db) := by
    have absent : (addHistory event db).outbox.get? event.eventId = none := unreported.outbox
    refine runAlone_insertInto ?_ (Checks.refusal_eq_none.mpr (by simp [statusChangedRow, absent]))
    change Checks.refusal [(fitsVarchar 100 "order.status_changed", .dataError "event_type")] = none
    decide
  simp [Prog.runAlone_bind, history, outbox]

theorem insertInto_cases (own : Checks) (against : Database → Checks) (locks : List Lock)
    (insert : Database → Database) (db : Database) :
    ((∀ check ∈ own ++ against db, check.1 = true) ∧
      (Prog.perform (insertInto own against locks insert)).runAlone db = (.ok (), insert db)) ∨
    ∃ e, (false, e) ∈ own ++ against db ∧
      (Prog.perform (insertInto own against locks insert)).runAlone db = (.error e, db) := by
  cases refusal : (own ++ against db).refusal with
  | none => exact .inl ⟨Checks.refusal_eq_none.mp refusal, by simp [Prog.runAlone_perform, insertInto, refusal]⟩
  | some e => exact .inr ⟨e, Checks.failed_of_refusal refusal, runAlone_insertInto_refused refusal⟩

/-- The database refuses to report what it has reported, or what does not fit its columns. -/
theorem runAlone_report_refused {event : OrderStatusChanged} (reported : ¬ Unreported event db) :
    ∃ e view, (do
      Prog.perform (insertHistory event)
      Prog.perform (insertOutbox (statusChangedRow event)) : Sql Unit).runAlone db = (.error e, view) ∧
      e.FromDatabase False := by
  rw [Prog.runAlone_bind]
  unfold insertHistory
  rcases insertInto_cases event.checks _ _ _ db with ⟨passed, inserted⟩ | ⟨e, failed, refused⟩
  · rw [inserted]
    obtain ⟨own, against⟩ := List.forall_mem_append.mp passed
    simp only [List.forall_mem_cons, decide_eq_true_eq] at against
    have announced : _ ∨ ∃ e, _ ∧ (Prog.perform (insertOutbox (statusChangedRow event))).runAlone
        (addHistory event db) = (.error e, addHistory event db) := insertInto_cases _ _ _ _ _
    rcases announced with ⟨passed', _⟩ | ⟨e, failed, refused⟩
    · have absent : db.outbox.get? event.eventId = none :=
        of_decide_eq_true (passed' _ (List.mem_append_right _ (List.mem_singleton.mpr rfl)))
      exact absurd ⟨Checks.refusal_eq_none.mpr own, against.1, against.2.1, absent⟩ reported
    · exact ⟨e, _, refused, Checks.fromDatabase failed (by simp [Error.FromDatabase])⟩
  · rw [refused]
    exact ⟨e, _, rfl, Checks.fromDatabase failed (by simp [OrderStatusChanged.checks, Error.FromDatabase])⟩

theorem runAlone_get (orderId : UUID) (db : Database) :
    (get orderId).runAlone db = (.ok (db.order? orderId), db) := by
  cases found : db.orders.get? orderId with
  | none =>
    simp [SqlAlchemyOrderRepository.get, Prog.runAlone_bind, Prog.runAlone_perform, selectOrder, found, order?]
  | some row =>
    have key := Table.key_of_get? found
    simp [SqlAlchemyOrderRepository.get, Prog.runAlone_bind, Prog.runAlone_perform, selectOrder, selectAssignments,
      found, key, order?, Except.map]

theorem runAlone_save {order : DeliveryOrder} {gen : Generated} {row : OrderRow}
    (found : db.orders.get? order.id = some row) (version : order.version = row.version + 1)
    (taken : (savedRow row order).checks.refusal = none) :
    (save order row.version gen).runAlone db =
      (saveAssignment order gen).runAlone (putOrder (savedRow row order) db) := by
  have updated : (Prog.perform (SqlAlchemyOrderRepository.updateOrder order row.version)).runAlone db =
      (.ok (some (row.version + 1)), putOrder (savedRow row order) db) := by
    have selected : (some row).filter (fun stored => stored.version = row.version) = some row := by
      simp [Option.filter]
    simp [Prog.runAlone_perform, SqlAlchemyOrderRepository.updateOrder, found, selected, taken]
  simp [save, version, Prog.runAlone_bind, updated]

theorem runAlone_saveAssignment_settled {order : DeliveryOrder} {gen : Generated}
    (settled : order.courierId = none ∨ db.activeForOrder order.id ≠ []) :
    (saveAssignment order gen).runAlone db = (.ok (), db) := by
  unfold saveAssignment
  cases courier : order.courierId with
  | none => rfl
  | some courierId =>
    obtain ⟨assignment, rest, shape⟩ := List.exists_cons_of_ne_nil (settled.resolve_left (by simp [courier]))
    simp [Prog.runAlone_bind, Prog.runAlone_perform, selectActiveAssignment, shape]

theorem runAlone_saveAssignment_added {order : DeliveryOrder} {gen : Generated} {courierId : UUID}
    (courier : order.courierId = some courierId) (stored : (db.orders.get? order.id).isSome = true)
    (free : (addedAssignment order courierId gen).Free db) :
    (saveAssignment order gen).runAlone db = (.ok (), addAssignment (addedAssignment order courierId gen) db) := by
  have empty : db.activeForOrder order.id = [] := free.orderFree
  have looked : (Prog.perform (selectActiveAssignment order.id)).runAlone db = (.ok none, db) := by
    simp [Prog.runAlone_perform, selectActiveAssignment, empty]
  simp only [saveAssignment, courier, Prog.runAlone_bind, looked]
  exact runAlone_insertAssignment_free stored free

/-- `save_transition` after a save that has left `after` pending. -/
theorem runAlone_saveTransition {order : DeliveryOrder} {event : OrderStatusChanged} {gen : Generated}
    {row : OrderRow} {after : Database} (found : db.orders.get? order.id = some row)
    (version : order.version = row.version + 1) (taken : (savedRow row order).checks.refusal = none)
    (assigned : (saveAssignment order gen).runAlone (putOrder (savedRow row order) db) = (.ok (), after))
    (hid : event.orderId = order.id) (hversion : event.orderVersion = order.version)
    (stored : (after.orders.get? event.orderId).isSome = true) (unreported : Unreported event after) :
    (saveTransition order row.version event gen).runAlone db = (.ok (), addReport event after) := by
  have saved : (save order row.version gen).runAlone db = (.ok (), after) :=
    (runAlone_save found version taken).trans assigned
  have reported := runAlone_report unreported stored
  unfold saveTransition
  rw [if_neg (by simp [hid, hversion]), Prog.runAlone_bind, saved]
  exact reported

theorem uuidOf_str (id : UUID) : uuidOf id.str = .ok id := by
  simp [uuidOf, UUID.parse_str]

theorem ofValue_value (status : OrderStatus) : OrderStatus.ofValue status.value = some status := by
  cases status <;> rfl

theorem str_ne_empty (id : UUID) : id.str ≠ "" := by
  intro empty
  have length := id.str_length
  simp [empty] at length

theorem domainFromSnapshot_responseSnapshot (order : DeliveryOrder) :
    domainFromSnapshot (responseSnapshot order) = .ok order := by
  obtain ⟨id, tenantId, customerId, pickupAddress, destinationAddress, weightGrams, status, courierId, version,
    createdAt⟩ := order
  simp only [domainFromSnapshot, responseSnapshot, uuidOf_str, ofValue_value, Datetime.fromisoformat_isoformat]
  cases courierId with
  | none => rfl
  | some courier =>
    simp only [Option.map_some, str_ne_empty, if_false, uuidOf_str]
    rfl

theorem replayRecord_recordRow (scope requestFingerprint : String) (order : DeliveryOrder) (createdAt : Datetime) :
    replayRecord requestFingerprint (recordRow scope requestFingerprint order createdAt) = .ok order := by
  simp [replayRecord, recordRow, domainFromSnapshot_responseSnapshot]

theorem runAlone_idempotentOrder (hash : String → Int) (scope requestFingerprint : String) (db : Database) :
    (idempotentOrder hash scope requestFingerprint).runAlone db = match db.idempotency.get? scope with
      | none => (.ok none, db)
      | some record => ((replayRecord requestFingerprint record).map some, db) := by
  cases found : db.idempotency.get? scope with
  | none => simp [idempotentOrder, Prog.runAlone_bind, Prog.runAlone_perform, lockAdvisory, selectRecord, found]
  | some record => simp [idempotentOrder, Prog.runAlone_bind, Prog.runAlone_perform, lockAdvisory, selectRecord, found]

theorem runAlone_addCreated {command : CreateOrderCommand} {tenantId : UUID} {gen : Generated}
    {record : Option (String × String)} {order : DeliveryOrder}
    (made : DeliveryOrder.create gen.orderId tenantId command.customerId command.pickupAddress
      command.destinationAddress command.weightGrams gen.now = .ok order)
    (row : (rowOf order).checks.refusal = none) (fresh : db.orders.get? order.id = none)
    (freshOutbox : db.outbox.get? gen.eventId = none)
    (unrecorded : ∀ scope requestFingerprint, record = some (scope, requestFingerprint) →
      (recordRow scope requestFingerprint order gen.recordedAt).checks.refusal = none ∧
        db.idempotency.get? scope = none) :
    (addCreated command tenantId gen record).runAlone db = (.ok order, createWrite order record gen db) := by
  have added : (add order).runAlone db = (.ok (), addOrder (rowOf order) db) :=
    runAlone_insertInto row (by simp [Checks.refusal, rowOf, fresh])
  have announced : (recordCreatedEvent (OrderCreated.fromOrder gen.eventId order)).runAlone
      (addOrder (rowOf order) db) = (.ok (), addOutbox (createdRow (OrderCreated.fromOrder gen.eventId order))
        (addOrder (rowOf order) db)) :=
    runAlone_insertInto (by
      change Checks.refusal [(fitsVarchar 100 "order.created", .dataError "event_type")] = none
      decide) (by
      change Checks.refusal [(decide (db.outbox.get? gen.eventId = none), _)] = none
      simp [Checks.refusal, freshOutbox])
  cases record with
  | none => simp [addCreated, Prog.runAlone_bind, made, added, announced, createWrite, Except.map]
  | some record =>
    obtain ⟨scope, requestFingerprint⟩ := record
    obtain ⟨accepted, free⟩ := unrecorded scope requestFingerprint rfl
    have remembered : (rememberIdempotency scope requestFingerprint order gen).runAlone
        (addOutbox (createdRow (OrderCreated.fromOrder gen.eventId order)) (addOrder (rowOf order) db)) =
        (.ok (), createWrite order (some (scope, requestFingerprint)) gen db) :=
      runAlone_insertInto accepted (by
        change Checks.refusal [(decide (db.idempotency.get? scope = none), _)] = none
        simp [Checks.refusal, free])
    simp [addCreated, Prog.runAlone_bind, made, added, announced, remembered, Except.map]

end

end DeliveryService
