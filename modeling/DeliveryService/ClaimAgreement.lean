import DeliveryService.CourierRelease
import DeliveryService.Couriers
import DeliveryService.SortedBy

namespace DeliveryService

open Database SqlAlchemyOrderRepository

/-- The event without the id that was generated for it. -/
def OrderStatusChanged.anonymous (event : OrderStatusChanged) : OrderStatusChanged := { event with eventId := 0 }

def Payload.anonymous (payload : Payload) : Payload := payload.filter fun field => field.1 ≠ "event_id"

/-- The order occupies its courier. -/
def DeliveryOrder.Active (order : DeliveryOrder) : Prop := order.status = .assigned ∨ order.status = .pickedUp

/-- Both adapters hold the same orders, history and outbox, up to generated event ids; the active
assignments are those of the orders on their way, and a courier has at most one. -/
structure SameContents (s : InMemoryOrderRepository) (db : Database) : Prop where
  orders : ∀ id, db.orders.get? id = (s.orders.get? id).map rowOf
  active : ∀ orderId courierId, (∃ row ∈ db.activeForOrder orderId, row.courierId = courierId) ↔
    ∃ order, s.orders.get? orderId = some order ∧ order.courierId = some courierId ∧ order.Active
  single : ∀ courierId, (db.activeForCourier courierId).length ≤ 1
  history : (db.history.toList.map OrderStatusChanged.anonymous).Perm
    (s.transitionHistory.map OrderStatusChanged.anonymous)
  outbox : (db.outbox.toList.map fun row => row.payload.anonymous).Perm (s.outbox.map Payload.anonymous)

/-- The orders that a claim of the tenant can take, in queue order. -/
def Database.queueOf (db : Database) (tenantId : UUID) : List OrderRow :=
  (db.orders.toList.filter (isCandidate tenantId)).sortedBy SqlAlchemyOrderRepository.queueKey

/-- The condition under which both adapters answer a claim alike. On an empty queue the courier carries
nothing; otherwise an order that the courier carries belongs to the tenant, and the tables take the rows. -/
def ClaimsAlike (s : InMemoryOrderRepository) (db : Database) (courierId tenantId : UUID) (correlationId : String)
    (gen : Generated) : Prop :=
  match (db.queueOf tenantId).head? with
  | none => s.busy courierId tenantId = false
  | some row => (claimedRow row).checks.refusal = none ∧ db.assignments.get? gen.assignmentId = none ∧
    (db.activeForCourier courierId ≠ [] → s.busy courierId tenantId = true) ∧
    (db.activeForCourier courierId = [] → Unreported (claimEvent row courierId gen.now correlationId gen) db)

section

variable {hash : String → Int} {folding : PyText.CaseFolding} {sha256 : String → String}
  {s : InMemoryOrderRepository} {db : Database} {courierId tenantId : UUID} {correlationId : String} {gen : Generated}

theorem runAlone_selectNextCreated (tenantId : UUID) (db : Database) :
    (Prog.perform (selectNextCreated tenantId)).runAlone db = (.ok (db.queueOf tenantId).head?, db) := by
  simp only [Prog.runAlone_perform, selectNextCreated, Bool.false_eq_true, if_false]
  rw [findSome?_newest mem_sorted_filter]
  unfold Database.queueOf List.sortedBy
  cases List.head? _ <;> rfl

theorem queueOf_head {row : OrderRow} (first : (db.queueOf tenantId).head? = some row) :
    db.orders.get? row.id = some row ∧ row.tenantId = tenantId ∧ row.status = .created := by
  obtain ⟨found, qualifies⟩ := mem_sorted_filter row (List.mem_of_mem_head? first)
  exact ⟨found, by simpa [isCandidate] using qualifies⟩

theorem runAlone_claimNext {row : OrderRow} (first : (db.queueOf tenantId).head? = some row) (occurredAt : Datetime) :
    (claimNextCreatedOrder courierId tenantId occurredAt correlationId gen).runAlone db =
      match (flushClaim ((queued row).takenBy courierId) (claimedAssignment row courierId gen)
        (claimEvent row courierId occurredAt correlationId gen)).runAlone db with
      | (.ok _, view) => (.ok (some ((queued row).takenBy courierId)), view)
      | (.error e, view) =>
        (.error (if e = .integrityError "uq_active_assignment_courier" then courierBusy else e), view) := by
  rw [claimNextCreatedOrder, Prog.runAlone_bind, runAlone_selectNextCreated, first]
  change Prog.runAlone (MonadExcept.ofExcept ((queued row).assign courierId) >>= _) db = _
  rw [assign_queued]
  change Prog.runAlone (MonadExcept.ofExcept (OrderStatusChanged.fromTransition gen.eventId (queued row)
    ((queued row).takenBy courierId) courierId "courier" occurredAt correlationId) >>= _) db = _
  rw [fromTransition_claim]
  change Prog.runAlone (Prog.tryCatch (flushClaim ((queued row).takenBy courierId)
    (claimedAssignment row courierId gen) (claimEvent row courierId occurredAt correlationId gen)) _ >>= _) db = _
  rw [Prog.runAlone_bind, Prog.runAlone_tryCatch]
  rcases (flushClaim _ _ _).runAlone db with ⟨e | _, view⟩
  · by_cases taken : e = .integrityError "uq_active_assignment_courier"
    · simp [taken]
    · simp [taken]
  · rfl

theorem runAlone_flushClaim {row : OrderRow} (found : db.orders.get? row.id = some row) (courierId : UUID)
    (gen : Generated) (event : OrderStatusChanged) :
    (flushClaim ((queued row).takenBy courierId) (claimedAssignment row courierId gen) event).runAlone db =
      match (claimedRow row).checks.refusal with
      | some e => (.error e, db)
      | none => (do
          Prog.perform (insertAssignment (claimedAssignment row courierId gen))
          Prog.perform (insertHistory event)
          Prog.perform (insertOutbox (statusChangedRow event)) : Sql Unit).runAlone (putOrder (claimedRow row) db) := by
  have flush : (Prog.perform (flushOrder row.id .assigned (row.version + 1))).runAlone db =
      match (claimedRow row).checks.refusal with
      | some e => (.error e, db)
      | none => (.ok (), putOrder (claimedRow row) db) := runAlone_flushOrder found _ _
  change Prog.runAlone (Prog.perform (flushOrder row.id .assigned (row.version + 1)) >>= _) db = _
  rw [Prog.runAlone_bind, flush]
  cases (claimedRow row).checks.refusal <;> rfl

theorem transact_claimNext :
    OrderCall.transact hash folding sha256 ⟨gen, .claimNext courierId tenantId correlationId⟩ db =
      (claimNextCreatedOrder courierId tenantId gen.now correlationId gen).transact db := rfl

theorem claim_skipped (empty : (db.queueOf tenantId).head? = none) :
    OrderCall.transact hash folding sha256 ⟨gen, .claimNext courierId tenantId correlationId⟩ db = (.ok none, db) := by
  simp [transact_claimNext, Prog.transact_eq, claimNextCreatedOrder, Prog.runAlone_bind,
    runAlone_selectNextCreated, empty]

theorem claim_failed {row : OrderRow} {e : Error} {view : Database} (first : (db.queueOf tenantId).head? = some row)
    (failed : (flushClaim ((queued row).takenBy courierId) (claimedAssignment row courierId gen)
      (claimEvent row courierId gen.now correlationId gen)).runAlone db = (.error e, view)) :
    OrderCall.transact hash folding sha256 ⟨gen, .claimNext courierId tenantId correlationId⟩ db =
      (.error (if e = .integrityError "uq_active_assignment_courier" then courierBusy else e), db) := by
  simp [transact_claimNext, Prog.transact_eq, runAlone_claimNext first, failed, Except.isOk, Except.toBool]

theorem claim_done {row : OrderRow} {view : Database} (first : (db.queueOf tenantId).head? = some row)
    (flushed : (flushClaim ((queued row).takenBy courierId) (claimedAssignment row courierId gen)
      (claimEvent row courierId gen.now correlationId gen)).runAlone db = (.ok (), view)) :
    OrderCall.transact hash folding sha256 ⟨gen, .claimNext courierId tenantId correlationId⟩ db =
      (.ok (some ((queued row).takenBy courierId)), view) := by
  simp [transact_claimNext, Prog.transact_eq, runAlone_claimNext first, flushed, Except.isOk, Except.toBool]

/-- The tables take the claimed row, and the generated id of the assignment is not used yet. -/
def ClaimFits (row : OrderRow) (gen : Generated) (db : Database) : Prop :=
  (claimedRow row).checks.refusal = none ∧ db.assignments.get? gen.assignmentId = none

/-- How a claim of the first order of the queue ends. -/
inductive ClaimOutcome (row : OrderRow) (courierId : UUID) (event : OrderStatusChanged) (gen : Generated)
    (db : Database) : Except Error (Option DeliveryOrder) × Database → Prop
  | busy : ClaimFits row gen db → db.activeForCourier courierId ≠ [] →
      ClaimOutcome row courierId event gen db (.error courierBusy, db)
  | claimed : ClaimFits row gen db → db.activeForCourier courierId = [] → Unreported event db →
      ClaimOutcome row courierId event gen db (.ok (some ((queued row).takenBy courierId)),
        claimWrite row (claimedAssignment row courierId gen) event db)
  | refused {e} : ¬ ClaimFits row gen db ∨ db.activeForCourier courierId = [] ∧ ¬ Unreported event db →
      e.FromDatabase False → ClaimOutcome row courierId event gen db (.error e, db)

theorem fromDatabase_ne_taken {e : Error} (raised : e.FromDatabase False) :
    e ≠ .integrityError "uq_active_assignment_courier" := by
  rintro rfl
  exact raised rfl

theorem claim_outcome {row : OrderRow} (first : (db.queueOf tenantId).head? = some row)
    (unassigned : db.activeForOrder row.id = []) :
    ClaimOutcome row courierId (claimEvent row courierId gen.now correlationId gen) gen db
      (OrderCall.transact hash folding sha256 ⟨gen, .claimNext courierId tenantId correlationId⟩ db) := by
  have found := (queueOf_head first).1
  have flush := runAlone_flushClaim found courierId gen (claimEvent row courierId gen.now correlationId gen)
  cases checked : (claimedRow row).checks.refusal with
  | some e =>
    have raised : e.FromDatabase False :=
      Checks.fromDatabase (Checks.failed_of_refusal checked) (by simp [OrderRow.checks, Error.FromDatabase])
    rw [checked] at flush
    rw [claim_failed first flush, if_neg (fromDatabase_ne_taken raised)]
    exact .refused (.inl fun fits => by simp [ClaimFits, checked] at fits) raised
  | none =>
    have stored : ((putOrder (claimedRow row) db).orders.get? row.id).isSome = true :=
      Option.isSome_iff_exists.mpr ⟨_, Table.get?_put_self db.orders (claimedRow row)⟩
    have inserted := runAlone_insertAssignment (claimedAssignment row courierId gen) stored
    have orderFree : (putOrder (claimedRow row) db).activeForOrder (claimedAssignment row courierId gen).orderId = [] :=
      unassigned
    simp only [checked, Prog.runAlone_bind (Prog.perform (insertAssignment _))] at flush
    by_cases absent : db.assignments.get? gen.assignmentId = none
    · have fits : ClaimFits row gen db := ⟨checked, absent⟩
      have absent' : (putOrder (claimedRow row) db).assignments.get? (claimedAssignment row courierId gen).id = none :=
        absent
      by_cases free : db.activeForCourier courierId = []
      · have free' : (putOrder (claimedRow row) db).activeForCourier
            (claimedAssignment row courierId gen).courierId = [] := free
        rw [if_neg (not_not.mpr absent'), if_neg (not_not.mpr orderFree), if_neg (not_not.mpr free')] at inserted
        rw [inserted] at flush
        have same : Unreported (claimEvent row courierId gen.now correlationId gen)
            (addAssignment (claimedAssignment row courierId gen) (putOrder (claimedRow row) db)) ↔
            Unreported (claimEvent row courierId gen.now correlationId gen) db :=
          ⟨fun h => ⟨h.accepted, h.history, h.versionFree, h.outbox⟩,
            fun h => ⟨h.accepted, h.history, h.versionFree, h.outbox⟩⟩
        by_cases unreported : Unreported (claimEvent row courierId gen.now correlationId gen) db
        · rw [claim_done first (flush.trans (runAlone_report (same.mpr unreported) stored))]
          exact .claimed fits free unreported
        · obtain ⟨e, view, failed, raised⟩ := runAlone_report_refused (mt same.mp unreported)
          rw [claim_failed first (flush.trans failed), if_neg (fromDatabase_ne_taken raised)]
          exact .refused (.inr ⟨free, unreported⟩) raised
      · have taken : (putOrder (claimedRow row) db).activeForCourier
            (claimedAssignment row courierId gen).courierId ≠ [] := free
        rw [if_neg (not_not.mpr absent'), if_neg (not_not.mpr orderFree), if_pos taken] at inserted
        rw [inserted] at flush
        rw [claim_failed first flush, if_pos rfl]
        exact .busy fits free
    · have taken : (putOrder (claimedRow row) db).assignments.get? (claimedAssignment row courierId gen).id ≠ none :=
        absent
      rw [if_pos taken] at inserted
      rw [inserted] at flush
      rw [claim_failed first flush, if_neg (by decide)]
      exact .refused (.inl fun fits => absent fits.2) (by simp [Error.FromDatabase])

theorem perm_orders (orders : ∀ id, db.orders.get? id = (s.orders.get? id).map rowOf) :
    (s.orders.values.map rowOf).Perm db.orders.toList := by
  have distinct : (s.orders.values.map rowOf).Nodup := by
    refine (Dict.nodup_values s.keyed).map_on fun order mem other mem' same => ?_
    obtain ⟨id, stored⟩ := Dict.mem_values_iff.mp mem
    obtain ⟨id', stored'⟩ := Dict.mem_values_iff.mp mem'
    have key : id = id' := by
      rw [← s.keyed id order stored, ← s.keyed id' other stored']
      exact congrArg OrderRow.id same
    exact Option.some.inj (stored.symm.trans (key ▸ stored'))
  refine (List.perm_ext_iff_of_nodup distinct db.orders.nodup_toList).mpr fun row => ?_
  rw [List.mem_map, Table.mem_toList, orders, Option.map_eq_some_iff]
  constructor
  · rintro ⟨order, mem, rfl⟩
    obtain ⟨id, stored⟩ := Dict.mem_values_iff.mp mem
    obtain rfl := s.keyed id order stored
    exact ⟨order, stored, rfl⟩
  · rintro ⟨order, stored, same⟩
    exact ⟨order, Dict.mem_values_iff.mpr ⟨_, stored⟩, same⟩

theorem candidates_eq_queueOf (orders : ∀ id, db.orders.get? id = (s.orders.get? id).map rowOf) (tenantId : UUID) :
    (s.candidates tenantId).map rowOf = db.queueOf tenantId := by
  have sorted : (s.candidates tenantId).map rowOf =
      ((s.orders.values.map rowOf).filter (isCandidate tenantId)).sortedBy SqlAlchemyOrderRepository.queueKey := by
    rw [List.filter_map]
    exact List.map_sortedBy rowOf _ fun _ => rfl
  rw [sorted]
  refine ((perm_orders orders).filter _).sortedBy_eq _ fun row mem row' mem' same => ?_
  have key : row.id = row'.id := congrArg (fun key => (ofLex key).2) same
  have stored := Table.mem_toList.mp ((perm_orders orders).mem_iff.mp (List.mem_of_mem_filter mem))
  have stored' := Table.mem_toList.mp ((perm_orders orders).mem_iff.mp (List.mem_of_mem_filter mem'))
  exact Option.some.inj (stored.symm.trans (key ▸ stored'))

theorem candidates_of_no_head (orders : ∀ id, db.orders.get? id = (s.orders.get? id).map rowOf)
    (first : (db.queueOf tenantId).head? = none) : s.candidates tenantId = [] := by
  rw [List.head?_eq_none_iff, ← candidates_eq_queueOf orders tenantId] at first
  exact List.map_eq_nil_iff.mp first

/-- The row that heads the SQL queue is the row of the order that heads the in-memory one. -/
theorem candidates_of_head {row : OrderRow} (orders : ∀ id, db.orders.get? id = (s.orders.get? id).map rowOf)
    (first : (db.queueOf tenantId).head? = some row) :
    ∃ before rest, s.candidates tenantId = before :: rest ∧ rowOf before = row := by
  rw [← candidates_eq_queueOf orders tenantId] at first
  cases candidates : s.candidates tenantId with
  | nil => simp [candidates] at first
  | cons before rest => exact ⟨before, rest, rfl, by simpa [candidates] using first⟩

theorem anonymous_payload {event event' : OrderStatusChanged} (same : event.anonymous = event'.anonymous) :
    event.integrationPayload.anonymous = event'.integrationPayload.anonymous := by
  have payload : ∀ event : OrderStatusChanged,
      event.integrationPayload.anonymous = event.anonymous.integrationPayload.anonymous := fun event => by
    simp [Payload.anonymous, OrderStatusChanged.integrationPayload, OrderStatusChanged.anonymous]
  rw [payload, payload event', same]

theorem mem_activeForOrder {orderId : UUID} {row : AssignmentRow} : row ∈ db.activeForOrder orderId ↔
    db.assignments.get? row.id = some row ∧ row.active = true ∧ row.orderId = orderId := by
  simp [activeForOrder, Table.mem_toList]

theorem SameContents.unassigned (same : SameContents s db) {row : OrderRow} (found : db.orders.get? row.id = some row)
    (created : row.status = .created) : db.activeForOrder row.id = [] := by
  rw [List.eq_nil_iff_forall_not_mem]
  intro assignment mem
  obtain ⟨order, stored, -, active⟩ := (same.active row.id assignment.courierId).mp ⟨assignment, mem, rfl⟩
  rw [same.orders, stored, Option.map_some, Option.some.injEq] at found
  have status : order.status = .created := (congrArg OrderRow.status found).trans created
  rcases active with assigned | pickedUp
  · simp [status] at assigned
  · simp [status] at pickedUp

theorem SameContents.occupied (same : SameContents s db) (busy : s.busy courierId tenantId = true) :
    db.activeForCourier courierId ≠ [] := by
  obtain ⟨id, order, stored, -, courier, active⟩ := busy_iff.mp busy
  obtain ⟨row, mem, own⟩ := (same.active id courierId).mpr ⟨order, stored, courier, active⟩
  obtain ⟨found, active, -⟩ := mem_activeForOrder.mp mem
  exact List.ne_nil_of_mem (mem_activeForCourier.mpr ⟨found, active, own⟩)

theorem SameContents.claimed {before : DeliveryOrder} (same : SameContents s db)
    (stored : s.orders.get? before.id = some before) (created : before.status = .created)
    (courierId : UUID) (correlationId : String) (gen gen' : Generated) (clock : gen'.now = gen.now)
    (absent : db.assignments.get? gen'.assignmentId = none)
    (free : db.activeForCourier courierId = [])
    (unreported : Unreported (claimEvent (rowOf before) courierId gen'.now correlationId gen') db) :
    SameContents ((s.put (before.takenBy courierId)).appendTransition
        (statusEvent gen.eventId before (before.takenBy courierId) courierId "courier" gen.now correlationId))
      (claimWrite (rowOf before) (claimedAssignment (rowOf before) courierId gen')
        (claimEvent (rowOf before) courierId gen'.now correlationId gen') db) := by
  have event : (claimEvent (rowOf before) courierId gen'.now correlationId gen').anonymous =
      (statusEvent gen.eventId before (before.takenBy courierId) courierId "courier" gen.now
        correlationId).anonymous := by
    simp [claimEvent, statusEvent, OrderStatusChanged.anonymous, queued, domain, rowOf, created, clock,
      DeliveryOrder.takenBy, DeliveryOrder.movedTo]
  have orders : ∀ id, (db.orders.put (claimedRow (rowOf before))).get? id =
      ((s.put (before.takenBy courierId)).orders.get? id).map rowOf := by
    intro id
    rw [Table.get?_put, InMemoryOrderRepository.get?_put, apply_ite (Option.map rowOf), same.orders]
    rfl
  have found : db.orders.get? (rowOf before).id = some (rowOf before) := by
    rw [same.orders]
    exact congrArg (Option.map rowOf) stored
  refine ⟨orders, fun orderId courier => ?_, fun courier => ?_, ?_, ?_⟩
  · change (∃ row ∈ (addAssignment (claimedAssignment (rowOf before) courierId gen') db).activeForOrder orderId, _) ↔
      ∃ order, (s.put (before.takenBy courierId)).orders.get? orderId = some order ∧ _
    rw [activeForOrder_addAssignment rfl absent, InMemoryOrderRepository.get?_put]
    by_cases here : orderId = (before.takenBy courierId).id
    · subst here
      have empty : db.activeForOrder (before.takenBy courierId).id = [] := same.unassigned found created
      rw [if_pos rfl, empty]
      simp [claimedAssignment, rowOf, DeliveryOrder.Active, DeliveryOrder.takenBy, DeliveryOrder.movedTo]
    · have other : (claimedAssignment (rowOf before) courierId gen').orderId ≠ orderId := Ne.symm here
      rw [if_neg here, if_neg other, List.append_nil]
      exact same.active orderId courier
  · change ((addAssignment (claimedAssignment (rowOf before) courierId gen') db).activeForCourier courier).length ≤ 1
    rw [activeForCourier_addAssignment rfl absent]
    by_cases here : courierId = courier
    · subst here
      simp [free, claimedAssignment]
    · have other : (claimedAssignment (rowOf before) courierId gen').courierId ≠ courier := here
      rw [if_neg other, List.append_nil]
      exact same.single courier
  · have grown : (db.history.insert (claimEvent (rowOf before) courierId gen'.now correlationId gen')).toList = _ :=
      Table.toList_insert_of_absent unreported.history
    change ((db.history.insert _).toList.map _).Perm ((s.transitionHistory ++ [_]).map _)
    rw [grown, List.map_append, List.map_append, List.map_singleton, List.map_singleton, event]
    exact same.history.append_right _
  · have grown : (db.outbox.insert (statusChangedRow
        (claimEvent (rowOf before) courierId gen'.now correlationId gen'))).toList = _ :=
      Table.toList_insert_of_absent unreported.outbox
    change ((db.outbox.insert _).toList.map _).Perm ((s.outbox ++ [_]).map _)
    rw [grown, List.map_append, List.map_append, List.map_singleton, List.map_singleton]
    have payload := anonymous_payload event
    change (_ ++
      [(claimEvent (rowOf before) courierId gen'.now correlationId gen').integrationPayload.anonymous]).Perm _
    rw [payload]
    exact same.outbox.append_right _

/-- Both adapters answer a claim alike and stay alike exactly if the courier who carries an order neither
meets an empty queue nor carries it for another tenant, and the tables take the rows. -/
theorem claims_agree_iff {gen' : Generated} (same : SameContents s db) (clock : gen'.now = gen.now) :
    ((OrderCall.transact hash folding sha256 ⟨gen', .claimNext courierId tenantId correlationId⟩ db).1 =
        OrderCall.result folding sha256 ⟨gen, .claimNext courierId tenantId correlationId⟩ s ∧
      SameContents (OrderCall.after folding sha256 s ⟨gen, .claimNext courierId tenantId correlationId⟩)
        (OrderCall.transact hash folding sha256 ⟨gen', .claimNext courierId tenantId correlationId⟩ db).2) ↔
    ClaimsAlike s db courierId tenantId correlationId gen' := by
  unfold ClaimsAlike OrderCall.result OrderCall.after
  rw [exec_claimNext]
  cases first : (db.queueOf tenantId).head? with
  | none =>
    rw [claim_skipped first, candidates_of_no_head same.orders first]
    cases s.busy courierId tenantId with
    | true => simp
    | false => simpa using same
  | some row =>
    obtain ⟨found, tenant, created⟩ := queueOf_head first
    obtain ⟨before, rest, candidates, rfl⟩ := candidates_of_head same.orders first
    have stored := (mem_candidates.mp (candidates ▸ List.mem_cons_self)).1
    have outcome : ClaimOutcome (rowOf before) courierId _ gen' db
        (OrderCall.transact hash folding sha256 ⟨gen', .claimNext courierId tenantId correlationId⟩ db) :=
      claim_outcome first (same.unassigned found created)
    generalize OrderCall.transact hash folding sha256 ⟨gen', .claimNext courierId tenantId correlationId⟩ db = sql
      at outcome ⊢
    rw [candidates]
    cases outcome with
    | busy fits active =>
      cases free : s.busy courierId tenantId with
      | true => simpa [fits.1, fits.2, active, courierBusy] using same
      | false => simp [active]
    | claimed fits free unreported =>
      have idle : s.busy courierId tenantId = false :=
        Bool.eq_false_iff.mpr fun busy => same.occupied busy free
      have kept := same.claimed stored created courierId correlationId gen gen' clock fits.2 free unreported
      have taken : (queued (rowOf before)).takenBy courierId = before.takenBy courierId := rfl
      simp [idle, taken, kept, fits.1, fits.2, free, unreported]
    | @refused e reason raised =>
      refine iff_of_false (fun agree => ?_) fun alike => ?_
      · cases free : s.busy courierId tenantId with
        | true =>
          have answer : e = courierBusy := by simpa [free, courierBusy] using agree.1
          rw [answer] at raised
          exact raised
        | false => simp [free] at agree
      · rcases reason with unfit | ⟨free, reported⟩
        · exact unfit ⟨alike.1, alike.2.1⟩
        · exact reported (alike.2.2.2 free)

theorem SameContents.empty : SameContents .empty .empty := by
  refine ⟨fun _ => rfl, fun _ _ => ⟨?_, ?_⟩, fun _ => Nat.zero_le _, .nil, .nil⟩
  · rintro ⟨row, mem, -⟩
    cases mem
  · rintro ⟨order, stored, -⟩
    cases stored

theorem SameContents.created {order : DeliveryOrder} (same : SameContents s db) (gen : Generated)
    (fresh : db.orders.get? order.id = none) (unannounced : db.outbox.get? gen.eventId = none)
    (waiting : order.status = .created) :
    SameContents (s.insertCreated order gen.eventId none) (createWrite order none gen db) := by
  have orders : ∀ id, (db.orders.insert (rowOf order)).get? id = ((s.put order).orders.get? id).map rowOf := by
    intro id
    rw [Table.insert_of_absent fresh, Table.get?_put, InMemoryOrderRepository.get?_put, apply_ite (Option.map rowOf),
      same.orders]
    rfl
  refine ⟨orders, fun orderId courier => ?_, same.single, same.history, ?_⟩
  · change (∃ row ∈ db.activeForOrder orderId, _) ↔ ∃ stored, (s.put order).orders.get? orderId = some stored ∧ _
    rw [same.active, InMemoryOrderRepository.get?_put]
    by_cases here : orderId = order.id
    · have absent : s.orders.get? order.id = none := by simpa [same.orders] using fresh
      have idle : ¬ order.Active := by simp [DeliveryOrder.Active, waiting]
      simp [here, absent, idle]
    · simp [here]
  · have grown : (db.outbox.insert (createdRow (OrderCreated.fromOrder gen.eventId order))).toList = _ :=
      Table.toList_insert_of_absent unannounced
    change ((db.outbox.insert _).toList.map _).Perm ((s.outbox ++ [_]).map _)
    rw [grown, List.map_append, List.map_append]
    exact same.outbox.append_right _

end

/-- An order that waits for a courier. -/
def waitingOrder : DeliveryOrder :=
  ⟨1, defaultTenantId, 7, "Depot 1", "Harbour 2", 500, .created, none, 1, (Generated.numbered 1).now⟩

/-- Both adapters with one waiting order. -/
def oneWaiting : InMemoryOrderRepository × Database :=
  (InMemoryOrderRepository.empty.insertCreated waitingOrder (Generated.numbered 1).eventId none,
    createWrite waitingOrder none (.numbered 1) .empty)

theorem sameContents_oneWaiting : SameContents oneWaiting.1 oneWaiting.2 :=
  SameContents.empty.created (.numbered 1) rfl rfl rfl

theorem first_waiting : (oneWaiting.2.queueOf defaultTenantId).head? = some (rowOf waitingOrder) := by decide +kernel

theorem claims_agree_free_courier :
    OrderCall.result PyText.asciiFolding id ⟨.numbered 2, .claimNext 9 defaultTenantId "queue-claim"⟩ oneWaiting.1 =
      .ok (some (waitingOrder.takenBy 9)) ∧
    (OrderCall.transact (fun _ => 0) PyText.asciiFolding id ⟨.numbered 3, .claimNext 9 defaultTenantId "queue-claim"⟩
      oneWaiting.2).1 = .ok (some (waitingOrder.takenBy 9)) := by
  have memory : OrderCall.result PyText.asciiFolding id ⟨.numbered 2, .claimNext 9 defaultTenantId "queue-claim"⟩
      oneWaiting.1 = .ok (some (waitingOrder.takenBy 9)) := by decide +kernel
  have alike : ClaimsAlike oneWaiting.1 oneWaiting.2 9 defaultTenantId "queue-claim" (.numbered 3) := by
    have free : oneWaiting.2.activeForCourier 9 = [] := rfl
    simp only [ClaimsAlike, first_waiting]
    exact ⟨by decide +kernel, rfl, fun busy => absurd free busy, fun _ => ⟨by decide +kernel, rfl, rfl, rfl⟩⟩
  have clock : (Generated.numbered 3).now = (Generated.numbered 2).now := rfl
  have agree : (OrderCall.transact (fun _ => 0) PyText.asciiFolding id
      ⟨.numbered 3, .claimNext 9 defaultTenantId "queue-claim"⟩ oneWaiting.2).1 =
      OrderCall.result PyText.asciiFolding id ⟨.numbered 2, .claimNext 9 defaultTenantId "queue-claim"⟩ oneWaiting.1 :=
    ((claims_agree_iff sameContents_oneWaiting clock).mpr alike).1
  exact ⟨memory, agree.trans memory⟩

/-- A courier who carries the only order is refused in memory, and told by PostgreSQL that nothing waits. -/
theorem claims_differ_on_empty_queue : ¬ ∀ s db gen gen' courierId tenantId correlationId, SameContents s db →
    gen'.now = gen.now →
    (OrderCall.transact (fun _ => 0) PyText.asciiFolding id ⟨gen', .claimNext courierId tenantId correlationId⟩ db).1 =
      OrderCall.result PyText.asciiFolding id ⟨gen, .claimNext courierId tenantId correlationId⟩ s := by
  intro all
  have stored : oneWaiting.1.orders.get? waitingOrder.id = some waitingOrder := by decide +kernel
  have same := sameContents_oneWaiting.claimed stored rfl 9 "queue-claim" (.numbered 2) (.numbered 2) rfl rfl rfl
    ⟨by decide +kernel, rfl, rfl, rfl⟩
  have answer := all _ _ (.numbered 3) (.numbered 3) 9 defaultTenantId "queue-claim" same rfl
  exact absurd answer (by decide +kernel)

end DeliveryService
