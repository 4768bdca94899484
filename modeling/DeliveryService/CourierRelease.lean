import DeliveryService.Exec
import DeliveryService.SqlAlone

namespace DeliveryService

open Database SqlAlchemyOrderRepository

section

variable (hash : String → Int) (folding : PyText.CaseFolding) (sha256 : String → String)

/-- A call in a transaction of its own: its result and the committed data after it. -/
def OrderCall.transact (call : OrderCall) (db : Database) : Except Error (Option DeliveryOrder) × Database :=
  (OrderJob.program hash folding sha256 (.call call)).transact db

/-- One transaction after the other; only claims give orders to couriers. -/
def QueueStep (db : Database) (call : OrderCall) (db' : Database) : Prop :=
  (∀ orderId courierId, call.op ≠ .assign orderId courierId) ∧ db' = (call.transact hash folding sha256 db).2

/-- The call claims the order. -/
def OrderCall.Claims (call : OrderCall) (db : Database) (id : UUID) : Prop :=
  ∃ courierId tenantId correlationId order, call.op = .claimNext courierId tenantId correlationId ∧
    (call.transact hash folding sha256 db).1 = .ok (some order) ∧ order.id = id

end

/-- The order has been claimed on the way here. -/
def ClaimedIn (hash : String → Int) (folding : PyText.CaseFolding) (sha256 : String → String)
    (trace : List (Transition Database OrderCall)) (id : UUID) : Prop :=
  ∃ t ∈ trace, t.label.Claims hash folding sha256 t.pre id

/-- The order is on its way. -/
def Carried (db : Database) (id : UUID) : Prop :=
  ∃ row, db.orders.get? id = some row ∧ (row.status = .assigned ∨ row.status = .pickedUp)

/-- The event that an accepted transition of the stored order reports. -/
def transitionEvent (current : DeliveryOrder) (command : TransitionOrderCommand) (gen : Generated) :
    OrderStatusChanged :=
  statusEvent gen.eventId current (current.movedTo command.target) command.actorId command.actorRole gen.now
    command.correlationId

/-- The call takes an order that has an active assignment to `delivered` or `cancelled`: it comes with the
current version, along an allowed edge, and the tables take its rows. -/
def Releases (db : Database) (call : OrderCall) : Prop :=
  ∃ orderId command row, call.op = .transition orderId command ∧ db.orders.get? orderId = some row ∧
    db.activeForOrder orderId ≠ [] ∧ row.version = command.expectedVersion ∧
    OrderStateMachine.allows row.status command.target = true ∧
    (command.target = .delivered ∨ command.target = .cancelled) ∧
    (savedRow row ((domain row (db.assignmentsOf orderId)).movedTo command.target)).checks.refusal = none ∧
    Unreported (transitionEvent (domain row (db.assignmentsOf orderId)) command call.gen) db

section

variable {hash : String → Int} {folding : PyText.CaseFolding} {sha256 : String → String} {db db' : Database}
  {call : OrderCall} {id : UUID}

theorem transact_effect (hash : String → Int) (folding : PyText.CaseFolding) (sha256 : String → String)
    (call : OrderCall) (db : Database) :
    (∃ answer, (call.transact hash folding sha256 db).1 = .ok answer ∧
      SqlEffect folding sha256 (.call call) answer db (call.transact hash folding sha256 db).2) ∨
    ∃ e, (call.transact hash folding sha256 db).1 = .error e ∧ SqlFailure folding sha256 (.call call) e db ∧
      (call.transact hash folding sha256 db).2 = db := by
  have verified : Prog.wp (isolation hash) (sqlSpec folding sha256 (.call call)) _ [] _ db :=
    sqlSpec_verified (.call call) db
  obtain ⟨held, write, ending, after⟩ := Prog.wp_transact verified
  change sqlSpec folding sha256 (.call call) (call.transact hash folding sha256 db).1 held write db at ending
  change (call.transact hash folding sha256 db).2 =
    (if (call.transact hash folding sha256 db).1.isOk then write db else db) at after
  cases result : (call.transact hash folding sha256 db).1 with
  | ok answer =>
    rw [result] at ending after
    exact .inl ⟨answer, rfl, after ▸ ending⟩
  | error e =>
    rw [result] at ending after
    exact .inr ⟨e, rfl, ending, after⟩

theorem transitionEdit_change (command : TransitionOrderCommand) (gen : Generated) (current : DeliveryOrder) :
    (transitionEdit command gen).change current =
      if current.version ≠ command.expectedVersion then .error (.concurrentUpdate "optimistic version conflict")
      else if OrderStateMachine.allows current.status command.target then
        .ok (current.movedTo command.target, some (transitionEvent current command gen))
      else .error (.invalidTransition current.status command.target) := by
  simp only [transitionEdit, reporting, DeliveryOrder.transition]
  refine if_congr Iff.rfl rfl ?_
  by_cases allowed : OrderStateMachine.allows current.status command.target = true
  · have reported : OrderStatusChanged.fromTransition gen.eventId current (current.movedTo command.target)
        command.actorId command.actorRole gen.now command.correlationId =
        .ok (transitionEvent current command gen) :=
      fromTransition_statusEvent rfl rfl rfl (allows_ne allowed)
    rw [if_pos allowed, if_pos allowed]
    change (OrderStatusChanged.fromTransition gen.eventId current (current.movedTo command.target) command.actorId
      command.actorRole gen.now command.correlationId >>= _) = _
    rw [reported]
    rfl
  · rw [if_neg allowed, if_neg allowed]
    rfl

theorem transitionEdit_ok {command : TransitionOrderCommand} {gen : Generated} {current updated : DeliveryOrder}
    {event : Option OrderStatusChanged} (h : (transitionEdit command gen).change current = .ok (updated, event)) :
    current.version = command.expectedVersion ∧ OrderStateMachine.allows current.status command.target = true ∧
      updated = current.movedTo command.target ∧ event = some (transitionEvent current command gen) := by
  rw [transitionEdit_change] at h
  split_ifs at h with stale allowed
  obtain ⟨rfl, rfl⟩ := Prod.mk.inj (Except.ok.inj h)
  exact ⟨not_not.mp stale, allowed, rfl, rfl⟩

/-- Which edits the queue calls make: updates keep the status, transitions follow an edge, and neither
touches the courier. -/
theorem queue_edit {orderId : UUID} {change : Edit} {gen : Generated} {current updated : DeliveryOrder}
    {event : Option OrderStatusChanged} (queue : ∀ orderId courierId, call.op ≠ .assign orderId courierId)
    (edits : OrderJob.edit? folding (.call call) = some (orderId, change, gen))
    (h : change.change current = .ok (updated, event)) : updated.courierId = current.courierId ∧
      (updated.status = current.status ∨ ∃ command, call.op = .transition orderId command ∧
        current.version = command.expectedVersion ∧
        OrderStateMachine.allows current.status command.target = true ∧
        updated = current.movedTo command.target ∧ event = some (transitionEvent current command call.gen)) := by
  obtain ⟨gen', op⟩ := call
  cases op with
  | create | claimNext => cases edits
  | assign orderId courierId => exact absurd rfl (queue orderId courierId)
  | update orderId' command expectedVersion =>
    cases edits
    simp only [updateEdit] at h
    split at h
    next => cases h
    next =>
      obtain ⟨after, accepted, h⟩ := bind_ok h
      obtain ⟨rfl, _⟩ := Prod.mk.inj (Except.ok.inj h)
      rw [DeliveryOrder.updateDetails_ok accepted]
      exact ⟨rfl, .inl rfl⟩
  | transition orderId' command =>
    cases edits
    obtain ⟨version, allowed, rfl, reported⟩ := transitionEdit_ok h
    exact ⟨rfl, .inr ⟨command, rfl, version, allowed, rfl, reported⟩⟩

theorem SaveEffect.putOrder {current updated : DeliveryOrder} {gen : Generated}
    (h : SaveEffect current updated gen db db') (same : updated.id = current.id)
    (courier : updated.courierId = current.courierId) :
    ∃ row, db.orders.get? current.id = some row ∧ current = domain row (db.assignmentsOf current.id) ∧
      (savedRow row updated).checks.refusal = none ∧ db' = Database.putOrder (savedRow row updated) db := by
  cases h with
  | kept found read accepted => exact ⟨_, found, read, accepted, rfl⟩
  | @assigned row courierId found read accepted taken free =>
    have none : (db.assignmentsOf current.id).find? (fun row => row.active) = none := by
      have empty : db.activeForOrder updated.id = [] := free.orderFree
      rw [same, activeForOrder_eq, List.filter_eq_nil_iff] at empty
      exact List.find?_eq_none.mpr empty
    rw [courier, read] at taken
    simp [domain, none] at taken

theorem activeForOrder_insert {added : AssignmentRow} (active : added.active = true)
    (absent : db.assignments.get? added.id = none) :
    (addAssignment added db).activeForOrder id ≠ [] ↔ db.activeForOrder id ≠ [] ∨ added.orderId = id := by
  rw [activeForOrder_addAssignment active absent]
  by_cases here : added.orderId = id
  · simp [here]
  · simp [here]

/-- Only a claim adds an active assignment, and none goes away. -/
theorem active_effect {answer : Option DeliveryOrder} (effect : SqlEffect folding sha256 (.call call) answer db db')
    (queue : ∀ orderId courierId, call.op ≠ .assign orderId courierId) (id : UUID) :
    db'.activeForOrder id ≠ [] ↔ db.activeForOrder id ≠ [] ∨ ∃ courierId tenantId correlationId order,
      call.op = .claimNext courierId tenantId correlationId ∧ answer = some order ∧ order.id = id := by
  cases effect with
  | replayed | skipped => simp
  | @created _ _ _ _ order =>
    simp only [reduceCtorEq, false_and, exists_false, or_false]
    cases createRecord? sha256 _ _ _ <;> rfl
  | @claimed gen courierId tenantId correlationId row _ found _ free =>
    have added : (addAssignment (claimedAssignment row courierId gen)
        (putOrder (claimedRow row) db)).activeForOrder id ≠ [] ↔ _ := activeForOrder_insert rfl free.absent
    refine added.trans (or_congr Iff.rfl ?_)
    constructor
    · rintro rfl
      exact ⟨courierId, tenantId, correlationId, _, rfl, rfl, rfl⟩
    · rintro ⟨_, _, _, order, _, answered, rfl⟩
      rw [← Option.some.inj answered]
      rfl
  | @edited _ orderId change gen current updated _ middle event edits hid accepted _ _ saved =>
    obtain ⟨courier, _⟩ := queue_edit queue edits accepted
    obtain ⟨row, _, _, _, rfl⟩ := saved.putOrder (change.lawful _ _ _ accepted).1 courier
    have other : ∀ courierId tenantId correlationId, call.op ≠ .claimNext courierId tenantId correlationId := by
      obtain ⟨gen, op⟩ := call
      cases op <;> simp [OrderJob.edit?] at edits ⊢
    simp only [other, false_and, exists_false, or_false]
    cases event <;> rfl

/-- Every active assignment is for an order on its way. -/
def AllCarried (db : Database) : Prop := ∀ id, db.activeForOrder id ≠ [] → Carried db id

theorem carried_put {row : OrderRow} (orders : db'.orders = db.orders.put row)
    (here : id = row.id → row.status = .assigned ∨ row.status = .pickedUp)
    (elsewhere : id ≠ row.id → Carried db id) : Carried db' id := by
  by_cases same : id = row.id
  · exact ⟨row, by rw [orders, same, Table.get?_put_self], here same⟩
  · obtain ⟨stored, found, status⟩ := elsewhere same
    exact ⟨stored, by rw [orders, Table.get?_put_of_ne _ _ same, found], status⟩

theorem allCarried_effect {answer : Option DeliveryOrder}
    (effect : SqlEffect folding sha256 (.call call) answer db db')
    (queue : ∀ orderId courierId, call.op ≠ .assign orderId courierId) (good : AllCarried db)
    (kept : ¬ Releases db call) : AllCarried db' := by
  intro id active
  have before := (active_effect effect queue id).mp active
  cases effect with
  | replayed | skipped => exact good id active
  | @created _ _ _ _ order =>
    obtain ⟨row, found, status⟩ := good id (before.resolve_right (by simp))
    refine ⟨row, ?_, status⟩
    cases createRecord? sha256 _ _ _ <;> exact Table.get?_insert_of_some found
  | @claimed gen courierId tenantId correlationId row _ found _ free =>
    have orders : (claimWrite row (claimedAssignment row courierId gen)
        (claimEvent row courierId gen.now correlationId gen) db).orders = db.orders.put (claimedRow row) := rfl
    refine carried_put orders (fun _ => .inl rfl) fun other => good id ?_
    refine before.resolve_right ?_
    rintro ⟨_, _, _, order, _, answered, rfl⟩
    exact other (by rw [← Option.some.inj answered]; rfl)
  | @edited _ orderId change gen current updated _ middle event edits hid accepted _ unreported saved =>
    have lawful := change.lawful _ _ _ accepted
    obtain ⟨courier, moved⟩ := queue_edit queue edits accepted
    obtain ⟨row, found, read, taken, rfl⟩ := saved.putOrder lawful.1 courier
    have other : ∀ courierId tenantId correlationId, call.op ≠ .claimNext courierId tenantId correlationId := by
      obtain ⟨gen, op⟩ := call
      cases op <;> simp [OrderJob.edit?] at edits ⊢
    have active' : db.activeForOrder id ≠ [] := before.resolve_right (by simp [other])
    have orders : (event.elim (putOrder (savedRow row updated) db) fun event =>
        addReport event (putOrder (savedRow row updated) db)).orders = db.orders.put (savedRow row updated) := by
      cases event <;> rfl
    refine carried_put orders (fun here => ?_) fun _ => good id active'
    have key : row.id = current.id := Table.key_of_get? found
    obtain rfl : id = current.id := here.trans key
    obtain ⟨stored, found', status⟩ := good _ active'
    obtain rfl := Option.some.inj (found.symm.trans found')
    have same : current.status = row.status := congrArg DeliveryOrder.status read
    change updated.status = .assigned ∨ updated.status = .pickedUp
    rcases moved with unmoved | ⟨command, transition, version, allowed, rfl, rfl⟩
    · rwa [unmoved, same]
    · -- the only edges out of the two statuses that do not release the courier lead to `picked_up`
      have ends : ¬ (command.target = .delivered ∨ command.target = .cancelled) := by
        intro released
        refine kept ⟨orderId, command, row, transition, hid ▸ found, hid ▸ active', ?_, same ▸ allowed, released,
          ?_, ?_⟩
        · exact (congrArg DeliveryOrder.version read).symm.trans version
        · rw [← hid, ← read]
          exact taken
        · rw [← hid, ← read]
          exact unreported _ rfl
      rw [same] at allowed
      change command.target = .assigned ∨ command.target = .pickedUp
      revert allowed ends
      rcases status with status | status <;> cases command.target <;>
        simp [status, OrderStateMachine.allows, allowedTransitions]

/-- A transition that finds its version, an allowed edge and room for its rows commits. -/
theorem transition_alone {gen : Generated} {orderId : UUID} {command : TransitionOrderCommand} {row : OrderRow}
    {current : DeliveryOrder} (found : db.orders.get? orderId = some row)
    (read : current = domain row (db.assignmentsOf orderId)) (version : row.version = command.expectedVersion)
    (allowed : OrderStateMachine.allows row.status command.target = true)
    (taken : (savedRow row (current.movedTo command.target)).checks.refusal = none)
    (active : db.activeForOrder orderId ≠ []) (unreported : Unreported (transitionEvent current command gen) db) :
    OrderCall.transact hash folding sha256 ⟨gen, .transition orderId command⟩ db =
      (.ok (some (current.movedTo command.target)), addReport (transitionEvent current command gen)
        (putOrder (savedRow row (current.movedTo command.target)) db)) := by
  have key : row.id = orderId := Table.key_of_get? found
  have hid : (current.movedTo command.target).id = orderId := (congrArg DeliveryOrder.id read).trans key
  have hversion : current.version = row.version := congrArg DeliveryOrder.version read
  have hstatus : current.status = row.status := congrArg DeliveryOrder.status read
  have changed : (transitionEdit command gen).change current =
      .ok (current.movedTo command.target, some (transitionEvent current command gen)) := by
    rw [transitionEdit_change, if_neg (not_not.mpr (hversion.trans version)), if_pos (hstatus ▸ allowed)]
  have advanced : (current.movedTo command.target).version = row.version + 1 := congrArg (· + 1) hversion
  have stored : ((putOrder (savedRow row (current.movedTo command.target)) db).orders.get?
      (current.movedTo command.target).id).isSome = true := by
    rw [hid, ← key]
    exact Option.isSome_iff_exists.mpr ⟨_, Table.get?_put_self db.orders (savedRow row _)⟩
  have saved : (saveTransition (current.movedTo command.target) row.version (transitionEvent current command gen)
      gen).runAlone db = _ :=
    runAlone_saveTransition (hid.symm ▸ found) advanced taken
      (runAlone_saveAssignment_settled (.inr (hid.symm ▸ active)))
      rfl rfl stored ⟨unreported.accepted, unreported.history, unreported.versionFree, unreported.outbox⟩
  have ran : (editing orderId (transitionEdit command gen) gen).runAlone db =
      (.ok (current.movedTo command.target), addReport (transitionEvent current command gen)
        (putOrder (savedRow row (current.movedTo command.target)) db)) := by
    simp [editing, Prog.runAlone_bind, runAlone_get, order?, found, ← read, changed, saveChange, hversion, saved,
      Except.map]
  simp [OrderCall.transact, OrderJob.program, OrderOp.run, OrderJob.transition_eq_editing, Prog.transact_eq, ran,
    Except.map, Except.isOk, Except.toBool]

theorem releases_breaks (released : Releases db call) :
    ¬ AllCarried (call.transact hash folding sha256 db).2 := by
  obtain ⟨gen, op⟩ := call
  obtain ⟨orderId, command, row, rfl, found, active, version, allowed, ends, taken, unreported⟩ := released
  rw [transition_alone found rfl version allowed taken active unreported]
  intro good
  obtain ⟨row', found', status⟩ := good orderId active
  have key : row.id = orderId := Table.key_of_get? found
  have stored : row' = savedRow row ((domain row (db.assignmentsOf orderId)).movedTo command.target) := by
    refine Option.some.inj (found'.symm.trans ?_)
    rw [← key]
    exact Table.get?_put_self db.orders (savedRow row _)
  rw [stored] at status
  change command.target = .assigned ∨ command.target = .pickedUp at status
  rcases ends with ends | ends <;> simp [ends] at status

theorem allCarried_step (step : QueueStep hash folding sha256 db call db') (good : AllCarried db) :
    AllCarried db' ↔ ¬ Releases db call := by
  obtain ⟨queue, rfl⟩ := step
  constructor
  · exact fun carried released => releases_breaks released carried
  · intro kept
    rcases transact_effect hash folding sha256 call db with
      ⟨answer, _, effect⟩ | ⟨e, _, _, same⟩
    · exact allCarried_effect effect queue good kept
    · rwa [same]

variable {trace : List (Transition Database OrderCall)}

theorem active_iff_claimed (run : Exec (QueueStep hash folding sha256) .empty trace db) (id : UUID) :
    db.activeForOrder id ≠ [] ↔ ClaimedIn hash folding sha256 trace id := by
  induction run with
  | start =>
    simp only [ClaimedIn, List.not_mem_nil, false_and, exists_false, iff_false, ne_eq, not_not]
    rfl
  | @next trace before call after previous taken ih =>
    obtain ⟨queue, rfl⟩ := taken
    have grown : ClaimedIn hash folding sha256
        (trace ++ [⟨before, call, (call.transact hash folding sha256 before).2⟩]) id ↔
        ClaimedIn hash folding sha256 trace id ∨ call.Claims hash folding sha256 before id := by
      simp [ClaimedIn, or_and_right, exists_or]
    rw [grown, ← ih]
    rcases transact_effect hash folding sha256 call before with
      ⟨answer, answered, effect⟩ | ⟨e, failed, _, same⟩
    · rw [active_effect effect queue id]
      simp only [OrderCall.Claims, answered, Except.ok.injEq]
    · rw [same]
      simp [OrderCall.Claims, failed]

theorem busy_of_failed_claim {courierId tenantId : UUID} {correlationId : String}
    (claim : call.op = .claimNext courierId tenantId correlationId)
    (failed : (call.transact hash folding sha256 db).1 = .error courierBusy) :
    db.activeForCourier courierId ≠ [] := by
  obtain ⟨gen, op⟩ := call
  obtain rfl := claim
  rcases transact_effect hash folding sha256 ⟨gen, .claimNext courierId tenantId correlationId⟩ db with
    ⟨answer, answered, _⟩ | ⟨e, failed', failure, _⟩
  · simp [answered] at failed
  · obtain rfl := Except.error.inj (failed'.symm.trans failed)
    generalize hr : courierBusy = e at failure
    cases failure with
    | claim refused =>
      cases refused with
      | busy busy => exact busy
      | database raised =>
        subst hr
        exact absurd raised id
    | notFound edits | refused edits | unsaved edits => simp [OrderJob.edit?] at edits

/-- Couriers are occupied exactly while they carry an order, and claims fail only then, in the runs in
which no order with an active assignment is taken to `delivered` or `cancelled`, and only in those. -/
theorem occupied_iff_never_released (run : Exec (QueueStep hash folding sha256) .empty trace db) :
    ((∀ earlier t later, trace = earlier ++ t :: later → ∀ id, t.post.activeForOrder id ≠ [] ↔
        Carried t.post id ∧ ClaimedIn hash folding sha256 (earlier ++ [t]) id) ∧
      ∀ t ∈ trace, ∀ courierId tenantId correlationId, t.label.op = .claimNext courierId tenantId correlationId →
        (t.label.transact hash folding sha256 t.pre).1 = .error courierBusy →
        ∃ assignment ∈ t.pre.activeForCourier courierId, Carried t.pre assignment.orderId) ↔
    ∀ t ∈ trace, ¬ Releases t.pre t.label := by
  have empty : AllCarried .empty := fun id active => absurd rfl active
  rw [← run.good_iff_steps (fun _ => True) AllCarried (fun db call => ¬ Releases db call) trivial empty
    (fun _ _ _ _ _ => trivial) fun _ _ _ _ good step => allCarried_step step good]
  constructor
  · rintro ⟨occupied, _⟩ t ht id active
    obtain ⟨earlier, later, shape⟩ := List.append_of_mem ht
    exact ((occupied earlier t later shape id).mp active).1
  · intro carried
    refine ⟨fun earlier t later shape id => ?_, fun t ht courierId tenantId correlationId claim failed => ?_⟩
    · obtain ⟨before, step, _⟩ := (shape ▸ run : Exec _ _ (earlier ++ t :: later) db).split
      rw [← active_iff_claimed (before.next step) id]
      exact ⟨fun active => ⟨carried t (shape ▸ by simp) id active, active⟩, And.right⟩
    · obtain ⟨earlier, later, shape⟩ := List.append_of_mem ht
      obtain ⟨before, _⟩ := (shape ▸ run : Exec _ _ (earlier ++ t :: later) db).split
      have good : AllCarried t.pre :=
        before.final_of_posts empty fun u hu => carried u (shape ▸ List.mem_append_left _ hu)
      obtain ⟨assignment, mem⟩ := List.exists_mem_of_ne_nil _ (busy_of_failed_claim claim failed)
      refine ⟨assignment, mem, good _ (List.ne_nil_of_mem (a := assignment) ?_)⟩
      obtain ⟨found, active, _⟩ := mem_activeForCourier.mp mem
      simp [activeForOrder, Table.mem_toList, found, active]

end

/-- An order is created, claimed, picked up and delivered, and another one is created. -/
def deliveredFirst : List OrderCall :=
  [⟨.numbered 1, .create ⟨7, "Depot 1", "Harbour 2", 500⟩ none defaultTenantId⟩,
    ⟨.numbered 2, .claimNext 9 defaultTenantId "queue-claim"⟩,
    ⟨.numbered 3, .transition 1 ⟨.pickedUp, 2, 9, "courier", "pick-up"⟩⟩,
    ⟨.numbered 4, .transition 1 ⟨.delivered, 3, 9, "courier", "delivery"⟩⟩,
    ⟨.numbered 5, .create ⟨7, "Depot 1", "Harbour 2", 500⟩ none defaultTenantId⟩]

def plainNext (db : Database) (call : OrderCall) : Database :=
  (call.transact (fun _ => 0) PyText.asciiFolding id db).2

theorem plain_run (calls : List OrderCall)
    (queue : ∀ call ∈ calls, ∀ orderId courierId, call.op ≠ .assign orderId courierId) :
    Exec (QueueStep (fun _ => 0) PyText.asciiFolding id) .empty (Exec.traceOf plainNext .empty calls)
      (calls.foldl plainNext .empty) := by
  have step : ∀ db, ∀ call ∈ calls, QueueStep (fun _ => 0) PyText.asciiFolding id db call (plainNext db call) :=
    fun _ call mem => ⟨queue call mem, rfl⟩
  exact Exec.ofLabels .empty calls step

theorem occupied_after_claim :
    ((deliveredFirst.take 2).foldl plainNext .empty).activeForOrder 1 ≠ [] ∧
    ∀ orderId, ((deliveredFirst.take 2).foldl plainNext .empty).activeForOrder orderId ≠ [] ↔
      Carried ((deliveredFirst.take 2).foldl plainNext .empty) orderId ∧ ClaimedIn (fun _ => 0)
        PyText.asciiFolding id (Exec.traceOf plainNext .empty (deliveredFirst.take 2)) orderId := by
  have run := plain_run (deliveredFirst.take 2) (by simp [deliveredFirst])
  refine ⟨by decide +kernel, ((occupied_iff_never_released run).mpr ?_).1 [_] _ [] rfl⟩
  intro t ht
  rintro ⟨orderId, command, _, transition, _⟩
  simp only [deliveredFirst, List.take_succ_cons, List.take_zero, Exec.traceOf, List.mem_cons, List.not_mem_nil,
    or_false] at ht
  rcases ht with rfl | rfl <;> cases transition

/-- After a delivery the assignment is still active, and the courier cannot claim the next order. -/
theorem assignment_survives_delivery :
    (¬ ∀ trace db, Exec (QueueStep (fun _ => 0) PyText.asciiFolding id) .empty trace db → ∀ orderId,
      db.activeForOrder orderId ≠ [] ↔
        Carried db orderId ∧ ClaimedIn (fun _ => 0) PyText.asciiFolding id trace orderId) ∧
    ¬ ∀ trace db, Exec (QueueStep (fun _ => 0) PyText.asciiFolding id) .empty trace db →
      ∀ gen courierId tenantId correlationId, db.orders.toList.any (isCandidate tenantId) = true →
        (∀ assignment ∈ db.activeForCourier courierId, ¬ Carried db assignment.orderId) →
        (OrderCall.transact (fun _ => 0) PyText.asciiFolding id ⟨gen, .claimNext courierId tenantId correlationId⟩
          db).1 ≠ .error courierBusy := by
  have run := plain_run deliveredFirst (by simp [deliveredFirst])
  have delivered : ((deliveredFirst.foldl plainNext .empty).orders.get? 1).map OrderRow.status =
      some .delivered := by decide +kernel
  have gone : ¬ Carried (deliveredFirst.foldl plainNext .empty) 1 := by
    rintro ⟨row, found, status⟩
    rw [found, Option.map_some] at delivered
    simp [Option.some.inj delivered] at status
  constructor
  · intro all
    have active : (deliveredFirst.foldl plainNext .empty).activeForOrder 1 ≠ [] := by decide +kernel
    exact gone ((all _ _ run 1).mp active).1
  · intro all
    have taken : ((deliveredFirst.foldl plainNext .empty).activeForCourier 9).map AssignmentRow.orderId = [1] := by
      decide +kernel
    refine all _ _ run (.numbered 6) 9 defaultTenantId "queue-claim" (by decide +kernel) ?_ (by decide +kernel)
    intro assignment mem
    have same := List.mem_map_of_mem (f := AssignmentRow.orderId) mem
    rw [taken, List.mem_singleton] at same
    rwa [same]

end DeliveryService
