import DeliveryService.Lifecycle

namespace DeliveryService

open Database SqlAlchemyOrderRepository

section

variable {hash : String → Int} {folding : PyText.CaseFolding} {sha256 : String → String}
  {s : InMemoryOrderRepository} {db : Database}

/-- The in-memory adapter after an edit. -/
def InMemoryOrderRepository.putEdit (s : InMemoryOrderRepository)
    (outcome : DeliveryOrder × Option OrderStatusChanged) : InMemoryOrderRepository :=
  outcome.2.elim (s.put outcome.1) (s.put outcome.1).appendTransition

theorem exec_reporting (gen : Generated) (actorId : UUID) (actorRole correlationId : String)
    {current : DeliveryOrder} {moved : Except Error DeliveryOrder} (stored : s.orders.get? current.id = some current)
    (advances : ∀ updated, moved = .ok updated → updated.id = current.id ∧ updated.version = current.version + 1) :
    InPlace.exec (do
      let updated ← MonadExcept.ofExcept moved
      let event ← MonadExcept.ofExcept (OrderStatusChanged.fromTransition gen.eventId current updated
        actorId actorRole gen.now correlationId)
      InMemoryOrderRepository.saveTransition updated current.version event
      pure updated : InMemory DeliveryOrder) s =
      ((reporting gen actorId actorRole correlationId current moved).map Prod.fst,
        (reporting gen actorId actorRole correlationId current moved).toOption.elim s s.putEdit) := by
  cases moved with
  | error e => rfl
  | ok updated =>
    obtain ⟨hid, hv⟩ := advances updated rfl
    simp only [InPlace.exec_bind, InPlace.exec_ofExcept]
    cases built : OrderStatusChanged.fromTransition gen.eventId current updated actorId actorRole gen.now
      correlationId with
    | error e =>
      have refused : reporting gen actorId actorRole correlationId current (.ok updated) = .error e := by
        simp [reporting, bind, Except.bind, built]
      rw [refused]
      rfl
    | ok event =>
      have accepted : reporting gen actorId actorRole correlationId current (.ok updated) =
          .ok (updated, some event) := by
        simp [reporting, bind, Except.bind, built, pure, Except.pure]
      obtain ⟨own, -, -, at'⟩ := fromTransition_describes built
      have saved : InPlace.exec (InMemoryOrderRepository.saveTransition updated current.version event) s =
          (.ok (), (s.put updated).appendTransition event) := by
        rw [exec_saveTransition]
        simp [own, at', hid, hv, stored]
      simp only [saved, accepted]
      rfl

theorem exec_edit (sha256 : String → String) {call : OrderCall} {orderId : UUID} {change : Edit} {gen : Generated}
    (edits : OrderJob.edit? folding (.call call) = some (orderId, change, gen)) (s : InMemoryOrderRepository) :
    call.op.exec folding sha256 s call.gen = match s.orders.get? orderId with
      | none => (.error (.orderNotFound orderId), s)
      | some current => ((change.change current).map fun outcome => some outcome.1,
          (change.change current).toOption.elim s s.putEdit) := by
  obtain ⟨gen', op⟩ := call
  cases op with
  | create | claimNext => cases edits
  | assign orderId courierId =>
    cases edits
    simp only [OrderOp.exec, OrderOp.run, InPlace.exec_map, OrderService.assign]
    rw [InPlace.exec_bind, exec_get_order]
    cases stored : s.orders.get? orderId with
    | none => rfl
    | some current =>
      have key := s.keyed orderId current stored
      have ran := exec_reporting gen courierId "courier" "assignment" (key.symm ▸ stored)
        fun updated (moved : current.assign courierId = .ok updated) => by
          rw [(DeliveryOrder.assign_ok moved).2]
          exact ⟨rfl, rfl⟩
      refine (congrArg (fun outcome => (Except.map some outcome.1, outcome.2)) ran).trans ?_
      simp only [assignEdit]
      cases reporting gen courierId "courier" "assignment" current (current.assign courierId) <;> rfl
  | update orderId command expectedVersion =>
    cases edits
    simp only [OrderOp.exec, OrderOp.run, InPlace.exec_map, OrderService.update]
    rw [InPlace.exec_bind, exec_get_order]
    cases stored : s.orders.get? orderId with
    | none => rfl
    | some current =>
      have key := s.keyed orderId current stored
      simp only [updateEdit]
      by_cases stale : current.version = expectedVersion
      · subst stale
        simp only [ne_eq, not_true_eq_false, if_false, InPlace.exec_bind, InPlace.exec_ofExcept]
        cases ok : current.updateDetails folding command with
        | error e => rfl
        | ok updated =>
          have shape := DeliveryOrder.updateDetails_ok ok
          have hid : updated.id = current.id := by rw [shape]
          have hv : updated.version = current.version + 1 := by rw [shape]
          have saved : InPlace.exec (InMemoryOrderRepository.save updated current.version) s =
              (.ok (), s.put updated) := by
            rw [exec_save]
            simp [hid, hv, key, stored]
          simp only [inMemoryOrderRepository, saved]
          rfl
      · simp only [ne_eq, stale, not_false_eq_true, if_true]
        rfl
  | transition orderId command =>
    cases edits
    simp only [OrderOp.exec, OrderOp.run, InPlace.exec_map, OrderService.transition]
    rw [InPlace.exec_bind, exec_get_order]
    cases stored : s.orders.get? orderId with
    | none => rfl
    | some current =>
      have key := s.keyed orderId current stored
      simp only [transitionEdit]
      by_cases stale : current.version = command.expectedVersion
      · simp only [ne_eq, ← stale, not_true_eq_false, if_false]
        have ran := exec_reporting gen command.actorId command.actorRole command.correlationId (key.symm ▸ stored)
          fun updated (moved : current.transition command.target = .ok updated) => by
            rw [(DeliveryOrder.transition_ok moved).2]
            exact ⟨rfl, rfl⟩
        refine (congrArg (fun outcome => (Except.map some outcome.1, outcome.2)) ran).trans ?_
        cases reporting gen command.actorId command.actorRole command.correlationId current
          (current.transition command.target) <;> rfl
      · simp only [ne_eq, stale, not_false_eq_true, if_true]
        rfl

theorem runAlone_editing (orderId : UUID) (change : Edit) (gen : Generated) (db : Database) :
    (editing orderId change gen).runAlone db = match db.order? orderId with
      | none => (.error (.orderNotFound orderId), db)
      | some current => match change.change current with
        | .error e => (.error e, db)
        | .ok outcome => (saveChange current gen outcome).runAlone db := by
  simp only [editing, Prog.runAlone_bind, runAlone_get]
  cases db.order? orderId with
  | none => rfl
  | some current =>
    simp only [Prog.runAlone_bind, Prog.runAlone_ofExcept]
    cases change.change current <;> rfl

/-- An edit that the tables take: the row passes its tests, a new courier is free, and the event is new. -/
structure EditFits (db : Database) (gen : Generated) (current : DeliveryOrder)
    (outcome : DeliveryOrder × Option OrderStatusChanged) : Prop where
  row : savedRow (rowOf current) outcome.1 = rowOf outcome.1
  version : outcome.1.version = current.version + 1
  accepted : (rowOf outcome.1).checks.refusal = none
  courier : outcome.1.courierId = current.courierId ∨ current.courierId = none ∧ ∃ courierId,
    outcome.1.courierId = some courierId ∧ db.assignments.get? gen.assignmentId = none ∧
      db.activeForCourier courierId = []
  event : ∀ reported, outcome.2 = some reported → reported.orderId = current.id ∧
    reported.orderVersion = outcome.1.version ∧ Unreported reported db

theorem EditFits.id {gen : Generated} {current : DeliveryOrder} {outcome : DeliveryOrder × Option OrderStatusChanged}
    (fits : EditFits db gen current outcome) : outcome.1.id = current.id :=
  (congrArg OrderRow.id fits.row).symm

/-- The tables after `save` has written the order and the assignment of its courier. -/
structure SavedAlike (s : InMemoryOrderRepository) (db : Database) (order : DeliveryOrder) (db' : Database) :
    Prop where
  orders : db'.orders = db.orders.put (rowOf order)
  couriers : ∀ id, (db'.assignmentsOf id).map (fun row => (row.active, row.courierId)) =
    (((s.put order).orders.get? id).bind DeliveryOrder.courierId).toList.map fun courierId => (true, courierId)
  history : db'.history = db.history
  outbox : db'.outbox = db.outbox
  idempotency : db'.idempotency = db.idempotency

theorem saveAssignment_alike (mirrors : Mirrors s db) {gen : Generated} {current : DeliveryOrder}
    {outcome : DeliveryOrder × Option OrderStatusChanged} (stored : s.orders.get? current.id = some current)
    (fits : EditFits db gen current outcome) : ∃ after,
      (saveAssignment outcome.1 gen).runAlone (putOrder (rowOf outcome.1) db) = (.ok (), after) ∧
      SavedAlike s db outcome.1 after := by
  have couriers (id : UUID) := mirrors.couriers id
  rcases fits.courier with same | ⟨unclaimed, courierId, claimed, absent, free⟩
  · refine ⟨_, runAlone_saveAssignment_settled ?_, rfl, fun id => ?_, rfl, rfl, rfl⟩
    · have settled := mirrors.settled stored
      rw [same, fits.id]
      exact settled
    · rw [InMemoryOrderRepository.get?_put]
      split_ifs with here
      · rw [Option.bind_some, same, here, fits.id]
        refine (couriers current.id).trans ?_
        rw [stored, Option.bind_some]
      · exact couriers id
  · have empty : db.assignmentsOf current.id = [] := by
      have rows := couriers current.id
      rw [stored, Option.bind_some, unclaimed] at rows
      simpa using rows
    have none : db.activeForOrder outcome.1.id = [] := by
      rw [activeForOrder_eq, fits.id, empty]
      rfl
    refine ⟨_, runAlone_saveAssignment_added claimed ?_ ⟨absent, none, free⟩, rfl, fun id => ?_, rfl, rfl, rfl⟩
    · exact Option.isSome_iff_exists.mpr ⟨_, Table.get?_put_self db.orders (rowOf outcome.1)⟩
    · have rows : (addAssignment (addedAssignment outcome.1 courierId gen)
          (putOrder (rowOf outcome.1) db)).assignmentsOf id = db.assignmentsOf id ++ _ :=
        assignmentsOf_addAssignment absent id
      rw [rows, InMemoryOrderRepository.get?_put]
      by_cases here : id = outcome.1.id
      · rw [if_pos here, here, fits.id, empty]
        simp [addedAssignment, claimed, fits.id]
      · have other : (addedAssignment outcome.1 courierId gen).orderId ≠ id := Ne.symm here
        rw [if_neg other, if_neg here, List.append_nil]
        exact couriers id

theorem SavedAlike.unreported {order : DeliveryOrder} {after : Database} {event : OrderStatusChanged}
    (alike : SavedAlike s db order after) (unreported : Unreported event db) : Unreported event after where
  accepted := unreported.accepted
  history := alike.history ▸ unreported.history
  versionFree := by
    simp only [Database.historyOf, alike.history]
    exact unreported.versionFree
  outbox := alike.outbox ▸ unreported.outbox

theorem saveChange_alike (mirrors : Mirrors s db) {gen : Generated} {current : DeliveryOrder}
    {outcome : DeliveryOrder × Option OrderStatusChanged} (stored : s.orders.get? current.id = some current)
    (fits : EditFits db gen current outcome) : ∃ after, SavedAlike s db outcome.1 after ∧
      (saveChange current gen outcome).runAlone db =
        (.ok outcome.1, outcome.2.elim after fun event => addReport event after) := by
  obtain ⟨after, assigned, alike⟩ := saveAssignment_alike mirrors stored fits
  have found : db.orders.get? outcome.1.id = some (rowOf current) := by
    rw [fits.id, mirrors.orders, stored]
    rfl
  have taken : (savedRow (rowOf current) outcome.1).checks.refusal = none := by
    rw [fits.row]
    exact fits.accepted
  rw [← fits.row] at assigned
  refine ⟨after, alike, ?_⟩
  obtain ⟨updated, event⟩ := outcome
  cases event with
  | none =>
    have saved : (save updated current.version gen).runAlone db = (.ok (), after) :=
      (runAlone_save found fits.version taken).trans assigned
    simp [saveChange, saved, Except.map]
  | some event =>
    obtain ⟨own, at', unreported⟩ := fits.event event rfl
    have present : (after.orders.get? event.orderId).isSome = true := by
      rw [alike.orders, own, ← fits.id]
      exact Option.isSome_iff_exists.mpr ⟨_, Table.get?_put_self db.orders (rowOf updated)⟩
    have saved : (saveTransition updated current.version event gen).runAlone db = (.ok (), addReport event after) :=
      runAlone_saveTransition found fits.version taken assigned (own.trans fits.id.symm) at' present
        (alike.unreported unreported)
    simp [saveChange, saved, Except.map]

theorem SavedAlike.mirrors {gen : Generated} {current : DeliveryOrder}
    {outcome : DeliveryOrder × Option OrderStatusChanged} {after : Database} (mirrors : Mirrors s db)
    (fits : EditFits db gen current outcome) (alike : SavedAlike s db outcome.1 after)
    (waiting : QueuedUnclaimed (s.putEdit outcome))
    (history : HistoryBounded (outcome.2.elim after fun event => addReport event after)) :
    Mirrors (s.putEdit outcome) (outcome.2.elim after fun event => addReport event after) := by
  have orders (id : UUID) : after.orders.get? id = ((s.put outcome.1).orders.get? id).map rowOf := by
    rw [alike.orders, Table.get?_put, InMemoryOrderRepository.get?_put]
    change (if id = outcome.1.id then _ else _) = _
    split_ifs
    · rfl
    · exact mirrors.orders id
  have accepted (id : UUID) (row : OrderRow) (found : after.orders.get? id = some row) : row.checks.refusal = none := by
    rw [alike.orders, Table.get?_put] at found
    split_ifs at found
    · rw [← Option.some.inj found]
      exact fits.accepted
    · exact mirrors.accepted id row found
  have records (scope : String) := alike.idempotency ▸ mirrors.records scope
  obtain ⟨updated, event⟩ := outcome
  cases event with
  | none => exact ⟨orders, alike.couriers, waiting, accepted, history, records⟩
  | some event => exact ⟨orders, alike.couriers, waiting, accepted, history, records⟩

theorem Mirrors.row_accepted (mirrors : Mirrors s db) {order : DeliveryOrder}
    (stored : s.orders.get? order.id = some order) : fitsVarchar 300 order.pickupAddress = true ∧
      fitsVarchar 300 order.destinationAddress = true ∧ 0 < order.weightGrams ∧ order.weightGrams ≤ 100000 ∧
      0 < order.version := by
  have passed := mirrors.accepted order.id (rowOf order) (by rw [mirrors.orders, stored]; rfl)
  simp only [Checks.refusal_eq_none, OrderRow.checks, List.forall_mem_cons, Bool.and_eq_true,
    decide_eq_true_eq] at passed
  obtain ⟨pickup, destination, -, -, ⟨positive, limited⟩, version, -⟩ := passed
  exact ⟨pickup, destination, positive, limited, version⟩

theorem rowOf_accepted {order : DeliveryOrder} (pickup : fitsVarchar 300 order.pickupAddress = true)
    (destination : fitsVarchar 300 order.destinationAddress = true) (positive : 0 < order.weightGrams)
    (limited : order.weightGrams ≤ 100000) (version : 0 < order.version) (fits : fitsInteger order.version = true) :
    (rowOf order).checks.refusal = none := by
  have weight : fitsInteger order.weightGrams = true := by
    simp only [fitsInteger, Bool.and_eq_true, decide_eq_true_eq]
    omega
  rw [Checks.refusal_eq_none]
  simp [OrderRow.checks, rowOf, pickup, destination, positive, limited, version, fits, weight]

theorem Mirrors.unreported (mirrors : Mirrors s db) {current : DeliveryOrder} {event : OrderStatusChanged}
    (stored : s.orders.get? current.id = some current) (fresh : FreshEvent db event.eventId)
    (own : event.orderId = current.id) (next : event.orderVersion = current.version + 1)
    (accepted : event.checks.refusal = none) : Unreported event db := by
  refine ⟨accepted, fresh.1, ?_, fresh.2⟩
  refine List.filter_eq_nil_iff.mpr fun row mem same => ?_
  simp only [Bool.and_eq_true, decide_eq_true_eq] at same
  obtain ⟨order, found, reached⟩ := mirrors.history row mem
  rw [same.1.2, own, mirrors.orders, stored, Option.map_some, Option.some.injEq] at found
  have version : order.version = current.version := congrArg OrderRow.version found.symm
  omega

theorem reporting_fits (mirrors : Mirrors s db) {gen : Generated} {actorId : UUID} {actorRole correlationId : String}
    {current updated : DeliveryOrder} {moved : Except Error DeliveryOrder} {event : Option OrderStatusChanged}
    (stored : s.orders.get? current.id = some current)
    (h : reporting gen actorId actorRole correlationId current moved = .ok (updated, event))
    (fresh : FreshEvent db gen.eventId) (role : fitsVarchar 32 actorRole = true)
    (correlation : fitsVarchar 128 correlationId = true) (fits : fitsInteger (current.version + 1) = true) :
    ∀ reported, event = some reported → reported.orderId = current.id ∧ reported.orderVersion = updated.version ∧
      Unreported reported db := by
  obtain ⟨after, _, h⟩ := bind_ok h
  obtain ⟨built, made, h⟩ := bind_ok h
  obtain ⟨rfl, rfl⟩ := Prod.mk.inj (Except.ok.inj h)
  rintro _ ⟨⟩
  unfold OrderStatusChanged.fromTransition at made
  split_ifs at made with unrelated unchanged
  rw [not_or, not_not, not_not] at unrelated
  obtain rfl := Except.ok.inj made
  refine ⟨unrelated.1.symm, rfl, mirrors.unreported stored fresh unrelated.1.symm unrelated.2 ?_⟩
  have positive := (mirrors.row_accepted stored).2.2.2.2
  rw [Checks.refusal_eq_none]
  simp [OrderStatusChanged.checks, unrelated.2, fits, role, correlation, unchanged, positive]

/-- The tables take every edit that the lifecycle allows. -/
theorem editFits_of_call (mirrors : Mirrors s db) {call : OrderCall} {orderId : UUID} {change : Edit}
    {gen : Generated} {current : DeliveryOrder} {outcome : DeliveryOrder × Option OrderStatusChanged}
    (edits : OrderJob.edit? folding (.call call) = some (orderId, change, gen))
    (stored : s.orders.get? orderId = some current) (inside : InLifecycle sha256 db (.order call))
    (range : InRange db (.order call)) (ok : change.change current = .ok outcome) :
    EditFits db gen current outcome := by
  obtain ⟨updated, event⟩ := outcome
  obtain ⟨gen', op⟩ := call
  have key := s.keyed orderId current stored
  have read : s.orders.get? current.id = some current := key.symm ▸ stored
  obtain ⟨pickup, destination, positive, limited, version⟩ := mirrors.row_accepted read
  have next : 0 < current.version + 1 := by omega
  have found : db.orders.get? orderId = some (rowOf current) := by
    rw [mirrors.orders, stored]
    rfl
  cases op with
  | create | claimNext => cases edits
  | assign orderId courierId =>
    cases edits
    have fits : fitsInteger (current.version + 1) = true := range.2 _ _ rfl found
    obtain ⟨fresh, absent, free⟩ := inside
    obtain ⟨created, rfl⟩ := DeliveryOrder.assign_ok (moved_of_reporting ok)
    refine ⟨rfl, rfl, rowOf_accepted pickup destination positive limited next fits, ?_, ?_⟩
    · exact .inr ⟨mirrors.waiting orderId current stored created, courierId, rfl, absent, free⟩
    · exact reporting_fits mirrors read ok fresh (by decide) (by decide) fits
  | update orderId command expectedVersion =>
    cases edits
    have fits : fitsInteger (current.version + 1) = true := range.2 _ _ rfl found
    obtain ⟨pickups, destinations⟩ := inside
    simp only [updateEdit] at ok
    split at ok
    next => cases ok
    next =>
      obtain ⟨after, accepted, ok⟩ := bind_ok ok
      obtain ⟨rfl, rfl⟩ := Prod.mk.inj (Except.ok.inj ok)
      simp only [DeliveryOrder.updateDetails] at accepted
      split_ifs at accepted with same weight
      obtain rfl := Except.ok.inj accepted
      refine ⟨rfl, rfl, rowOf_accepted ?_ ?_ weight.1 weight.2 next fits, .inl rfl, by simp⟩
      · cases address : command.pickupAddress with
        | none => exact pickup
        | some text => exact pickups text address
      · cases address : command.destinationAddress with
        | none => exact destination
        | some text => exact destinations text address
  | transition orderId command =>
    cases edits
    have fits : fitsInteger (current.version + 1) = true := range.2 _ _ rfl found
    obtain ⟨fresh, role, correlation⟩ := inside
    simp only [transitionEdit] at ok
    split at ok
    next => cases ok
    next =>
      obtain ⟨_, rfl⟩ := DeliveryOrder.transition_ok (moved_of_reporting ok)
      refine ⟨rfl, rfl, rowOf_accepted pickup destination positive limited next fits, .inl rfl,
        ?_⟩
      exact reporting_fits mirrors read ok fresh role correlation fits

/-- Both adapters answer a call alike, and mirror each other afterwards. -/
def Simulated (hash : String → Int) (folding : PyText.CaseFolding) (sha256 : String → String)
    (s : InMemoryOrderRepository) (db : Database) (call : LifecycleCall) : Prop :=
  SameAnswer hash folding sha256 (s, db) call ∧
    Mirrors (call.memory folding sha256 s).2 (call.postgres hash folding sha256 db).2

theorem simulated_of {call : OrderCall} {answer : Except Error (Option DeliveryOrder)} {s' : InMemoryOrderRepository}
    {db' : Database} (memory : call.op.exec folding sha256 s call.gen = (answer, s'))
    (postgres : call.transact hash folding sha256 db = (answer, db')) (mirrors : Mirrors s' db') :
    Simulated hash folding sha256 s db (.order call) := by
  have result : call.result folding sha256 s = answer := congrArg Prod.fst memory
  have after : call.after folding sha256 s = s' := congrArg Prod.snd memory
  refine ⟨?_, ?_⟩
  · simp only [SameAnswer, LifecycleCall.postgres, LifecycleCall.memory, postgres, result]
  · simp only [LifecycleCall.postgres, LifecycleCall.memory, postgres, after]
    exact mirrors

theorem edit_simulated (mirrors : Mirrors s db) {call : OrderCall} {orderId : UUID} {change : Edit}
    {gen : Generated} (edits : OrderJob.edit? folding (.call call) = some (orderId, change, gen))
    (inside : InLifecycle sha256 db (.order call)) (range : InRange db (.order call)) :
    Simulated hash folding sha256 s db (.order call) := by
  have waiting : QueuedUnclaimed (call.op.exec folding sha256 s call.gen).2 :=
    queuedUnclaimed_effect mirrors.waiting (call.effect folding sha256 s)
  have history : HistoryBounded (call.transact hash folding sha256 db).2 :=
    (call_statusWrite call db).historyBounded mirrors.history
  have program : call.transact hash folding sha256 db = (some <$> editing orderId change gen).transact db :=
    congrArg (Prog.transact · db) (OrderJob.program_eq_editing hash folding sha256 edits)
  have memory := exec_edit sha256 edits s
  have postgres := runAlone_editing orderId change gen db
  rw [mirrors.order?] at postgres
  cases stored : s.orders.get? orderId with
  | none =>
    simp only [stored] at memory postgres
    refine simulated_of memory ?_ mirrors
    simp [program, Prog.transact_eq, postgres, Except.map, Except.isOk, Except.toBool]
  | some current =>
    simp only [stored] at memory postgres
    cases ok : change.change current with
    | error e =>
      simp only [ok] at memory postgres
      refine simulated_of memory ?_ mirrors
      simp [program, Prog.transact_eq, postgres, Except.map, Except.isOk, Except.toBool]
    | ok outcome =>
      simp only [ok] at memory postgres
      have key := s.keyed orderId current stored
      have fits := editFits_of_call mirrors edits stored inside range ok
      obtain ⟨after, alike, ran⟩ := saveChange_alike mirrors (key.symm ▸ stored) fits
      rw [ran] at postgres
      have committed : call.transact hash folding sha256 db =
          (.ok (some outcome.1), outcome.2.elim after fun event => addReport event after) := by
        simp [program, Prog.transact_eq, postgres, Except.map, Except.isOk, Except.toBool]
      rw [committed] at history
      rw [memory] at waiting
      exact simulated_of memory committed (alike.mirrors mirrors fits waiting history)

end

end DeliveryService
