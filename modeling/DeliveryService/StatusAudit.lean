import DeliveryService.Audit
import DeliveryService.CourierRelease

namespace DeliveryService

open Database SqlAlchemyOrderRepository

def isAvailable (row : OrderRow) : Bool := row.status = .created

/-- `SELECT ... WHERE status = 'created' ORDER BY created_at, id LIMIT 1 FOR UPDATE SKIP LOCKED`, for all
tenants. -/
def lockAvailableOrder : Statement Database Lock Error (Option OrderRow) :=
  fun locked snapshot current =>
    let queue := (snapshot.orders.toList.filter isAvailable).insertionSort (fun a b => queueKey a ≤ queueKey b)
    let newest (row : OrderRow) : Option OrderRow :=
      if locked (.order row.id) then none else (current.orders.get? row.id).filter isAvailable
    match queue.findSome? newest with
    | none => .ok { value := none }
    | some row => .ok { value := some row, locks := [.order row.id] }

def claimAvailableOrder (courierId : UUID) (gen : Generated) : Sql (Option UUID) := do
  match ← Prog.perform lockAvailableOrder with
  | none => pure none
  | some row => do
    Prog.perform (flushOrder row.id .assigned (row.version + 1))
    Prog.perform (insertAssignment { id := gen.assignmentId, orderId := row.id, courierId })
    pure (some row.id)

/-- A transaction that may change the status of an order: a use case, or `claim_available_order`. -/
inductive StatusJob
  | call (request : OrderCall)
  | claimAvailable (courierId : UUID) (gen : Generated)

/-- The data after the job has committed or was rolled back. -/
def StatusJob.after (hash : String → Int) (folding : PyText.CaseFolding) (sha256 : String → String)
    (db : Database) : StatusJob → Database
  | .call request => (request.transact hash folding sha256 db).2
  | .claimAvailable courierId gen => ((claimAvailableOrder courierId gen).transact db).2

/-- One transaction after the other. -/
def StatusStep (hash : String → Int) (folding : PyText.CaseFolding) (sha256 : String → String)
    (db : Database) (job : StatusJob) (db' : Database) : Prop :=
  db' = job.after hash folding sha256 db

/-- The history rows of an order, oldest first. -/
def Database.transitionsOf (db : Database) (id : UUID) : List OrderStatusChanged :=
  db.history.toList.filter fun row => row.orderId = id

/-- Whatever status the transaction changes, it adds the history row of that change and an outbox row
with the same event id, and no other row. -/
def Reported (db db' : Database) : Prop :=
  ∀ id row row', db.orders.get? id = some row → db'.orders.get? id = some row' → row.status ≠ row'.status →
    ∃ event message, event.orderId = id ∧ event.fromStatus = row.status ∧ event.toStatus = row'.status ∧
      event.orderVersion = row'.version ∧ message.id = event.eventId ∧
      message.eventType = "order.status_changed" ∧ db'.history.toList = db.history.toList ++ [event] ∧
      db'.outbox.toList = db.outbox.toList ++ [message]

/-- The history of every order leads from `created` to its status, along growing versions. -/
def HistoryChained (db : Database) : Prop :=
  ∀ id row, db.orders.get? id = some row → StatusChain .created (db.transitionsOf id) row.status ∧
    ((db.transitionsOf id).map OrderStatusChanged.orderVersion).Pairwise (· < ·)

/-- The first order of the queue of all tenants. -/
def Database.available (db : Database) : Option OrderRow :=
  ((db.orders.toList.filter isAvailable).insertionSort fun a b => queueKey a ≤ queueKey b).head?

/-- `claim_available_order` finds an order that it can give to the courier. -/
def ClaimsUnreported (db : Database) (job : StatusJob) : Prop :=
  ∃ courierId gen row, job = .claimAvailable courierId gen ∧ db.available = some row ∧
    (claimedRow row).checks.refusal = none ∧ (claimedAssignment row courierId gen).Free db

/-- Every history row is about a stored order that has reached its version. -/
def HistoryBounded (db : Database) : Prop :=
  ∀ event ∈ db.history.toList, ∃ row, db.orders.get? event.orderId = some row ∧ event.orderVersion ≤ row.version

section

variable {hash : String → Int} {folding : PyText.CaseFolding} {sha256 : String → String} {db db' : Database}
  {job : StatusJob} {id : UUID}

theorem runAlone_lockAvailableOrder (db : Database) :
    (Prog.perform lockAvailableOrder).runAlone db = (.ok db.available, db) := by
  simp only [Prog.runAlone_perform, lockAvailableOrder, Bool.false_eq_true, if_false]
  rw [findSome?_newest mem_sorted_filter]
  unfold Database.available
  cases List.head? _ <;> rfl

theorem available_stored {row : OrderRow} (first : db.available = some row) :
    db.orders.get? row.id = some row ∧ row.status = .created := by
  obtain ⟨found, created⟩ := mem_sorted_filter row (List.mem_of_mem_head? first)
  exact ⟨found, by simpa [isAvailable] using created⟩

theorem runAlone_claimAvailable {row : OrderRow} (first : db.available = some row) (courierId : UUID)
    (gen : Generated) : (claimAvailableOrder courierId gen).runAlone db =
      match (claimedRow row).checks.refusal with
      | some e => (.error e, db)
      | none => (do
          Prog.perform (insertAssignment (claimedAssignment row courierId gen))
          pure (some row.id) : Sql (Option UUID)).runAlone (putOrder (claimedRow row) db) := by
  have flush : (Prog.perform (flushOrder row.id .assigned (row.version + 1))).runAlone db =
      match (claimedRow row).checks.refusal with
      | some e => (.error e, db)
      | none => (.ok (), putOrder (claimedRow row) db) := runAlone_flushOrder (available_stored first).1 _ _
  simp only [claimAvailableOrder, Prog.runAlone_bind, runAlone_lockAvailableOrder, first, flush]
  cases (claimedRow row).checks.refusal <;> rfl

theorem claimAvailable_after (courierId : UUID) (gen : Generated) (db : Database) :
    (∃ row, db.available = some row ∧ (claimedRow row).checks.refusal = none ∧
      (claimedAssignment row courierId gen).Free db ∧
      StatusJob.after hash folding sha256 db (.claimAvailable courierId gen) =
        addAssignment (claimedAssignment row courierId gen) (putOrder (claimedRow row) db)) ∨
    ¬ ClaimsUnreported db (.claimAvailable courierId gen) ∧
      StatusJob.after hash folding sha256 db (.claimAvailable courierId gen) = db := by
  cases first : db.available with
  | none =>
    refine .inr ⟨?_, ?_⟩
    · rintro ⟨_, _, row, _, found, _⟩
      simp [first] at found
    · simp [StatusJob.after, Prog.transact_eq, claimAvailableOrder, Prog.runAlone_bind, runAlone_lockAvailableOrder,
        first]
  | some row =>
    have ran := runAlone_claimAvailable first courierId gen
    have blocked {e : Error} {view : Database}
        (failed : (claimAvailableOrder courierId gen).runAlone db = (.error e, view)) :
        StatusJob.after hash folding sha256 db (.claimAvailable courierId gen) = db := by
      simp [StatusJob.after, Prog.transact_eq, failed, Except.isOk, Except.toBool]
    cases taken : (claimedRow row).checks.refusal with
    | some e =>
      rw [taken] at ran
      refine .inr ⟨?_, blocked ran⟩
      rintro ⟨_, _, row', _, found, accepted, _⟩
      obtain rfl := Option.some.inj (first.symm.trans found)
      simp [taken] at accepted
    | none =>
      have stored : ((putOrder (claimedRow row) db).orders.get? row.id).isSome = true :=
        Option.isSome_iff_exists.mpr ⟨_, Table.get?_put_self db.orders (claimedRow row)⟩
      simp only [taken, Prog.runAlone_bind] at ran
      by_cases free : (claimedAssignment row courierId gen).Free (putOrder (claimedRow row) db)
      · rw [runAlone_insertAssignment_free stored free] at ran
        refine .inl ⟨row, rfl, taken, ⟨free.absent, free.orderFree, free.courierFree⟩, ?_⟩
        simp [StatusJob.after, Prog.transact_eq, ran, Except.isOk, Except.toBool]
      · obtain ⟨e, refused⟩ := runAlone_insertAssignment_blocked stored free
        rw [refused] at ran
        refine .inr ⟨?_, blocked ran⟩
        rintro ⟨_, _, row', same, found, _, unused⟩
        cases same
        obtain rfl := Option.some.inj (first.symm.trans found)
        exact free ⟨unused.absent, unused.orderFree, unused.courierFree⟩

/-- The event describes the change from the first row to the second one. -/
structure Describes (event : OrderStatusChanged) (row row' : OrderRow) : Prop where
  orderId : event.orderId = row.id
  fromStatus : event.fromStatus = row.status
  toStatus : event.toStatus = row'.status
  orderVersion : event.orderVersion = row'.version
  allowed : OrderStateMachine.allows row.status row'.status = true

/-- What the use cases do to statuses and history: nothing, or one order moves and is reported. -/
inductive StatusWrite (db db' : Database) : Prop
  | unmoved : db'.history = db.history →
      (∀ id row, db.orders.get? id = some row → ∃ row', db'.orders.get? id = some row' ∧
        row'.status = row.status ∧ row.version ≤ row'.version) →
      (∀ id row, db.orders.get? id = none → db'.orders.get? id = some row → row.status = .created) →
      StatusWrite db db'
  | moved {row event} (row' : OrderRow) : db.orders.get? row.id = some row → row'.id = row.id →
      row'.version = row.version + 1 → Describes event row row' → Unreported event db →
      db'.orders = db.orders.put row' → db'.history = db.history.insert event →
      db'.outbox = db.outbox.insert (statusChangedRow event) →
      StatusWrite db db'

theorem StatusWrite.refl (db : Database) : StatusWrite db db := by
  refine .unmoved rfl (fun _ row found => ⟨row, found, rfl, le_refl _⟩) fun _ _ absent found => ?_
  cases absent.symm.trans found

theorem reporting_describes {gen : Generated} {actorId : UUID} {actorRole correlationId : String}
    {current updated : DeliveryOrder} {moved : Except Error DeliveryOrder} {event : Option OrderStatusChanged}
    (h : reporting gen actorId actorRole correlationId current moved = .ok (updated, event)) :
    ∃ reported, event = some reported ∧ reported.orderId = current.id ∧ reported.fromStatus = current.status ∧
      reported.toStatus = updated.status ∧ reported.orderVersion = updated.version := by
  obtain ⟨after, _, h⟩ := bind_ok h
  obtain ⟨reported, built, h⟩ := bind_ok h
  obtain ⟨rfl, rfl⟩ := Prod.mk.inj (Except.ok.inj h)
  exact ⟨reported, rfl, fromTransition_describes built⟩

/-- A use case keeps the status and reports nothing, or reports the status that it sets. -/
theorem call_edit_reported {call : OrderCall} {orderId : UUID} {change : Edit} {gen : Generated}
    {current updated : DeliveryOrder} {event : Option OrderStatusChanged}
    (edits : OrderJob.edit? folding (.call call) = some (orderId, change, gen))
    (h : change.change current = .ok (updated, event)) :
    event = none ∧ updated.status = current.status ∨
    OrderStateMachine.allows current.status updated.status = true ∧
      ∃ reported, event = some reported ∧ reported.orderId = current.id ∧ reported.fromStatus = current.status ∧
        reported.toStatus = updated.status ∧ reported.orderVersion = updated.version := by
  obtain ⟨gen', op⟩ := call
  cases op with
  | create | claimNext => cases edits
  | assign orderId courierId =>
    cases edits
    obtain ⟨created, rfl⟩ := DeliveryOrder.assign_ok (moved_of_reporting h)
    exact .inr ⟨by rw [created]; rfl, reporting_describes h⟩
  | update orderId command expectedVersion =>
    cases edits
    simp only [updateEdit] at h
    split at h
    next => cases h
    next =>
      obtain ⟨after, accepted, h⟩ := bind_ok h
      obtain ⟨rfl, rfl⟩ := Prod.mk.inj (Except.ok.inj h)
      exact .inl ⟨rfl, by rw [DeliveryOrder.updateDetails_ok accepted]⟩
  | transition orderId command =>
    cases edits
    simp only [transitionEdit] at h
    split at h
    next => cases h
    next =>
      obtain ⟨allowed, rfl⟩ := DeliveryOrder.transition_ok (moved_of_reporting h)
      exact .inr ⟨allowed, reporting_describes h⟩

theorem SaveEffect.rows {current updated : DeliveryOrder} {gen : Generated}
    (h : SaveEffect current updated gen db db') : ∃ row, db.orders.get? row.id = some row ∧
      row.id = current.id ∧ row.status = current.status ∧ row.version = current.version ∧
      db'.orders = db.orders.put (savedRow row updated) ∧
      db'.history = db.history ∧ db'.outbox = db.outbox := by
  cases h with
  | @kept row found read | @assigned row _ found read =>
    have key : row.id = current.id := Table.key_of_get? found
    exact ⟨row, key ▸ found, key, (congrArg DeliveryOrder.status read).symm, (congrArg DeliveryOrder.version read).symm,
      rfl, rfl, rfl⟩

theorem statusWrite_put {row : OrderRow} (row' : OrderRow) (found : db.orders.get? row.id = some row)
    (key : row'.id = row.id) (status : row'.status = row.status) (version : row'.version = row.version + 1)
    (orders : db'.orders = db.orders.put row') (history : db'.history = db.history) : StatusWrite db db' := by
  refine .unmoved history (fun id stored h => ?_) fun id stored absent h => ?_
  · by_cases here : id = row'.id
    · rw [here, key] at h
      obtain rfl := Option.some.inj (found.symm.trans h)
      exact ⟨row', by rw [orders, here, Table.get?_put_self], status, by omega⟩
    · exact ⟨stored, by rw [orders, Table.get?_put_of_ne _ _ here, h], rfl, le_refl _⟩
  · by_cases here : id = row'.id
    · rw [here, key, found] at absent
      cases absent
    · rw [orders, Table.get?_put_of_ne _ _ here, absent] at h
      cases h

theorem SqlEffect.statusWrite {call : OrderCall} {answer : Option DeliveryOrder}
    (h : SqlEffect folding sha256 (.call call) answer db db') : StatusWrite db db' := by
  cases h with
  | replayed | skipped => exact .refl db
  | @created gen command key tenantId order _ _ made fresh =>
    have orders : (createWrite order (createRecord? sha256 command key tenantId) gen db).orders =
        db.orders.insert (rowOf order) := by
      cases createRecord? sha256 command key tenantId <;> rfl
    refine .unmoved ?_ (fun id row found => ⟨row, ?_, rfl, le_refl _⟩) fun id row absent found => ?_
    · cases createRecord? sha256 command key tenantId <;> rfl
    · rw [orders]
      exact Table.get?_insert_of_some found
    · rw [orders, Table.insert_of_absent fresh, Table.get?_put] at found
      split_ifs at found
      · rw [← Option.some.inj found, rowOf, DeliveryOrder.create_ok made]
      · cases absent.symm.trans found
  | @claimed gen courierId tenantId correlationId row _ found qualifies free unreported =>
    have created : row.status = .created := by
      simp only [isCandidate, Bool.and_eq_true, decide_eq_true_eq] at qualifies
      exact qualifies.2
    exact .moved (claimedRow row) found rfl rfl
      ⟨rfl, created.symm, rfl, rfl, by rw [created]; rfl⟩ unreported rfl rfl rfl
  | @edited _ orderId change gen current updated _ middle event edits hid accepted version unreported saved =>
    obtain ⟨row, found, key, status, versions, orders, history, outbox⟩ := saved.rows
    rcases call_edit_reported edits accepted with ⟨rfl, kept⟩ | ⟨allowed, reported, rfl, own, source, target, at'⟩
    · exact statusWrite_put (savedRow row updated) found rfl (kept.trans status.symm) rfl orders history
    · have advanced : reported.orderVersion = (savedRow row updated).version := by
        rw [at', version, ← versions]
        rfl
      refine .moved (savedRow row updated) found rfl rfl
        ⟨own.trans key.symm, source.trans status.symm, target, advanced, status ▸ allowed⟩ (unreported _ rfl)
        orders ?_ ?_
      · exact congrArg (fun table => table.insert reported) history
      · exact congrArg (fun table => table.insert (statusChangedRow reported)) outbox

theorem call_statusWrite (call : OrderCall) (db : Database) :
    StatusWrite db (StatusJob.after hash folding sha256 db (.call call)) := by
  rcases transact_effect hash folding sha256 call db with ⟨answer, _, effect⟩ | ⟨e, _, _, same⟩
  · exact effect.statusWrite
  · have unchanged : StatusJob.after hash folding sha256 db (.call call) = db := same
    rw [unchanged]
    exact .refl db

theorem StatusWrite.reported (h : StatusWrite db db') : Reported db db' := by
  intro id row row' found found' changed
  cases h with
  | unmoved _ kept _ =>
    obtain ⟨stored, found'', same, _⟩ := kept id row found
    obtain rfl := Option.some.inj (found'.symm.trans found'')
    exact absurd same.symm changed
  | @moved before event after stored key version describes unreported orders history outbox =>
    rw [orders, Table.get?_put] at found'
    split_ifs at found' with here
    · obtain rfl := Option.some.inj found'
      rw [here, key] at found
      obtain rfl := Option.some.inj (stored.symm.trans found)
      refine ⟨event, statusChangedRow event, describes.orderId.trans (key.symm.trans here.symm), describes.fromStatus,
        describes.toStatus, describes.orderVersion, rfl, rfl, ?_, ?_⟩
      · rw [history, Table.toList_insert_of_absent unreported.history]
      · rw [outbox, Table.toList_insert_of_absent unreported.outbox]
    · obtain rfl := Option.some.inj (found.symm.trans found')
      exact absurd rfl changed

theorem historyBounded_of_kept (bounded : HistoryBounded db) (history : db'.history = db.history)
    (grown : ∀ id row, db.orders.get? id = some row → ∃ row', db'.orders.get? id = some row' ∧
      row.version ≤ row'.version) : HistoryBounded db' := by
  intro event mem
  rw [history] at mem
  obtain ⟨row, found, reached⟩ := bounded event mem
  obtain ⟨row', found', le⟩ := grown _ row found
  exact ⟨row', found', reached.trans le⟩

theorem StatusWrite.historyBounded (h : StatusWrite db db') (bounded : HistoryBounded db) : HistoryBounded db' := by
  cases h with
  | unmoved history kept _ =>
    refine historyBounded_of_kept bounded history fun id row found => ?_
    obtain ⟨row', found', _, le⟩ := kept id row found
    exact ⟨row', found', le⟩
  | @moved row event row' stored key version describes unreported orders history _ =>
    intro other mem
    rw [history, Table.toList_insert_of_absent unreported.history] at mem
    rw [orders, Table.get?_put]
    rcases List.mem_append.mp mem with old | new
    · obtain ⟨before, found, reached⟩ := bounded other old
      split_ifs with here
      · rw [here, key] at found
        obtain rfl := Option.some.inj (stored.symm.trans found)
        exact ⟨row', rfl, by omega⟩
      · exact ⟨before, found, reached⟩
    · obtain rfl := List.mem_singleton.mp new
      exact ⟨row', by rw [if_pos (describes.orderId.trans key.symm)], describes.orderVersion.le⟩

theorem transitionsOf_absent (bounded : HistoryBounded db) (absent : db.orders.get? id = none) :
    db.transitionsOf id = [] := by
  refine List.filter_eq_nil_iff.mpr fun event mem own => ?_
  obtain ⟨row, found, _⟩ := bounded event mem
  rw [of_decide_eq_true own, absent] at found
  cases found

theorem StatusWrite.chained (h : StatusWrite db db') (bounded : HistoryBounded db) (chained : HistoryChained db) :
    HistoryChained db' := by
  intro id row' found'
  cases h with
  | unmoved history kept fresh =>
    have same : db'.transitionsOf id = db.transitionsOf id := by rw [transitionsOf, transitionsOf, history]
    rw [same]
    cases found : db.orders.get? id with
    | none =>
      rw [transitionsOf_absent bounded found, fresh id row' found found']
      exact ⟨rfl, List.Pairwise.nil⟩
    | some row =>
      obtain ⟨stored, found'', status, _⟩ := kept id row found
      obtain rfl := Option.some.inj (found'.symm.trans found'')
      rw [status]
      exact chained id row found
  | @moved row event after stored key version describes unreported orders history _ =>
    have grown : db'.transitionsOf id = db.transitionsOf id ++ [event].filter fun row => row.orderId = id := by
      rw [transitionsOf, history, Table.toList_insert_of_absent unreported.history, List.filter_append]
      rfl
    rw [orders, Table.get?_put] at found'
    rw [grown]
    split_ifs at found' with here
    · obtain rfl := Option.some.inj found'
      rw [key] at here
      subst here
      obtain ⟨chain, increasing⟩ := chained row.id row stored
      have own : [event].filter (fun stored => stored.orderId = row.id) = [event] := by simp [describes.orderId]
      rw [own]
      refine ⟨chain.append describes.fromStatus describes.toStatus describes.allowed, ?_⟩
      rw [List.map_append, List.pairwise_append]
      refine ⟨increasing, List.pairwise_singleton _ _, fun earlier mem later last => ?_⟩
      obtain ⟨old, listed, rfl⟩ := List.mem_map.mp mem
      obtain rfl := List.mem_singleton.mp last
      obtain ⟨stored', own⟩ := List.mem_filter.mp listed
      obtain ⟨reached, found, le⟩ := bounded old stored'
      rw [of_decide_eq_true own] at found
      obtain rfl := Option.some.inj (stored.symm.trans found)
      rw [describes.orderVersion, version]
      omega
    · have other : [event].filter (fun stored => stored.orderId = id) = [] := by
        simpa [describes.orderId, ← key] using Ne.symm here
      rw [other, List.append_nil]
      exact chained id row' found'

theorem StatusChain.target_eq {source target target' : OrderStatus} {events : List OrderStatusChanged}
    (h : StatusChain source events target) (h' : StatusChain source events target') : target = target' := by
  induction events generalizing source with
  | nil => exact h.symm.trans h'
  | cons event rest ih => exact ih h.2.2 h'.2.2

/-- The data after `claim_available_order` has given an order to a courier. -/
def claimedUnreported (row : OrderRow) (courierId : UUID) (gen : Generated) (db : Database) : Database :=
  addAssignment (claimedAssignment row courierId gen) (putOrder (claimedRow row) db)

theorem not_reported_claim {row : OrderRow} (first : db.available = some row) (courierId : UUID) (gen : Generated) :
    ¬ Reported db (claimedUnreported row courierId gen db) := by
  intro reported
  obtain ⟨found, created⟩ := available_stored first
  have moved : row.status ≠ (claimedRow row).status := by simp [created, claimedRow]
  obtain ⟨event, _, _, _, _, _, _, _, grown, _⟩ :=
    reported row.id row (claimedRow row) found (Table.get?_put_self db.orders (claimedRow row)) moved
  have same : db.history.toList = db.history.toList ++ [event] := grown
  simp at same

theorem not_chained_claim {row : OrderRow} (first : db.available = some row) (courierId : UUID) (gen : Generated)
    (chained : HistoryChained db) : ¬ HistoryChained (claimedUnreported row courierId gen db) := by
  intro chained'
  obtain ⟨found, created⟩ := available_stored first
  have before := (chained row.id row found).1
  have after := (chained' row.id (claimedRow row) (Table.get?_put_self db.orders (claimedRow row))).1
  have same := before.target_eq after
  simp [created, claimedRow] at same

theorem historyBounded_claim {row : OrderRow} (first : db.available = some row) (courierId : UUID) (gen : Generated)
    (bounded : HistoryBounded db) : HistoryBounded (claimedUnreported row courierId gen db) := by
  obtain ⟨found, _⟩ := available_stored first
  have orders : (claimedUnreported row courierId gen db).orders = db.orders.put (claimedRow row) := rfl
  refine historyBounded_of_kept bounded rfl fun id stored h => ?_
  rw [orders, Table.get?_put]
  split_ifs with here
  · obtain rfl := Option.some.inj (found.symm.trans (here ▸ h))
    exact ⟨_, rfl, by simp [claimedRow]⟩
  · exact ⟨stored, h, le_refl _⟩

theorem job_cases (job : StatusJob) (db : Database) :
    ¬ ClaimsUnreported db job ∧ StatusWrite db (job.after hash folding sha256 db) ∨
    ClaimsUnreported db job ∧ ∃ row courierId gen, db.available = some row ∧
      job.after hash folding sha256 db = claimedUnreported row courierId gen db := by
  cases job with
  | call request =>
    refine .inl ⟨?_, call_statusWrite request db⟩
    rintro ⟨_, _, _, other, _⟩
    cases other
  | claimAvailable courierId gen =>
    rcases claimAvailable_after courierId gen db with ⟨row, first, taken, free, after⟩ | ⟨unclaimed, same⟩
    · exact .inr ⟨⟨courierId, gen, row, rfl, first, taken, free⟩, row, courierId, gen, first, after⟩
    · refine .inl ⟨unclaimed, ?_⟩
      rw [same]
      exact .refl db

theorem reported_iff (job : StatusJob) (db : Database) :
    Reported db (job.after hash folding sha256 db) ↔ ¬ ClaimsUnreported db job := by
  rcases job_cases job db with ⟨unclaimed, write⟩ | ⟨claimed, row, courierId, gen, first, after⟩
  · exact ⟨fun _ => unclaimed, fun _ => write.reported⟩
  · rw [after]
    exact ⟨fun reported => absurd reported (not_reported_claim first courierId gen),
      fun unclaimed => absurd claimed unclaimed⟩

theorem historyBounded_step (bounded : HistoryBounded db) (step : StatusStep hash folding sha256 db job db') :
    HistoryBounded db' := by
  obtain rfl := step
  rcases job_cases job db with ⟨_, write⟩ | ⟨_, row, courierId, gen, first, after⟩
  · exact write.historyBounded bounded
  · rw [after]
    exact historyBounded_claim first courierId gen bounded

theorem historyChained_step (bounded : HistoryBounded db) (chained : HistoryChained db)
    (step : StatusStep hash folding sha256 db job db') : HistoryChained db' ↔ ¬ ClaimsUnreported db job := by
  obtain rfl := step
  rcases job_cases job db with ⟨unclaimed, write⟩ | ⟨claimed, row, courierId, gen, first, after⟩
  · exact ⟨fun _ => unclaimed, fun _ => write.chained bounded chained⟩
  · rw [after]
    exact ⟨fun chained' => absurd chained' (not_chained_claim first courierId gen chained),
      fun unclaimed => absurd claimed unclaimed⟩

/-- In every database a transaction reports the status that it changes unless it is a claim of
`claim_available_order`, and along a run the histories stay unbroken exactly without such claims. -/
theorem status_audited_iff_no_available_claim {trace : List (Transition Database StatusJob)}
    (run : Exec (StatusStep hash folding sha256) .empty trace db) :
    (∀ db job, Reported db (job.after hash folding sha256 db) ↔ ¬ ClaimsUnreported db job) ∧
    ((∀ t ∈ trace, Reported t.pre t.post ∧ HistoryChained t.post) ↔ ∀ t ∈ trace, ¬ ClaimsUnreported t.pre t.label) := by
  refine ⟨fun db job => reported_iff job db, ?_⟩
  have base : HistoryBounded .empty := by
    intro event mem
    cases mem
  have good : HistoryChained .empty := by
    intro id row found
    cases found
  have chains := run.good_iff_steps HistoryBounded HistoryChained (fun db job => ¬ ClaimsUnreported db job) base good
    (fun _ _ _ bounded step => historyBounded_step bounded step)
    fun _ _ _ bounded chained step => historyChained_step bounded chained step
  constructor
  · exact fun audited => chains.mp fun t ht => (audited t ht).2
  · intro unclaimed t ht
    refine ⟨?_, chains.mpr unclaimed t ht⟩
    rw [run.step_of_mem ht]
    exact (reported_iff t.label t.pre).mpr (unclaimed t ht)

end

def plainAfter (db : Database) (job : StatusJob) : Database :=
  job.after (fun _ => 0) PyText.asciiFolding id db

/-- The first order is created. -/
def createOne : StatusJob :=
  .call ⟨.numbered 1, .create ⟨7, "Depot 1", "Harbour 2", 500⟩ none defaultTenantId⟩

theorem plain_audit_run (jobs : List StatusJob) : Exec (StatusStep (fun _ => 0) PyText.asciiFolding id) .empty
    (Exec.traceOf plainAfter .empty jobs) (jobs.foldl plainAfter .empty) := by
  have step : ∀ db, ∀ job ∈ jobs, StatusStep (fun _ => 0) PyText.asciiFolding id db job (plainAfter db job) :=
    fun _ _ _ => rfl
  exact Exec.ofLabels .empty jobs step

theorem status_audited_after_claim : ∃ trace db,
    Exec (StatusStep (fun _ => 0) PyText.asciiFolding id) .empty trace db ∧
      (db.transitionsOf 1).map OrderStatusChanged.toStatus = [.assigned] ∧ HistoryChained db := by
  have run := plain_audit_run [createOne, .call ⟨.numbered 2, .claimNext 9 defaultTenantId "queue-claim"⟩]
  have audited := (status_audited_iff_no_available_claim run).2.mpr (by
    intro t ht
    rintro ⟨_, _, _, claim, _⟩
    simp only [Exec.traceOf, List.mem_cons, List.not_mem_nil, or_false] at ht
    rcases ht with rfl | rfl <;> cases claim)
  exact ⟨_, _, run, by decide +kernel, (audited _ (List.mem_cons_of_mem _ (List.mem_singleton.mpr rfl))).2⟩

/-- `claim_available_order` assigns the order without a history row. -/
theorem available_claim_unreported :
    ¬ ∀ trace db, Exec (StatusStep (fun _ => 0) PyText.asciiFolding id) .empty trace db →
      ∀ t ∈ trace, Reported t.pre t.post ∧ HistoryChained t.post := by
  intro all
  have run := plain_audit_run [createOne, .claimAvailable 9 (.numbered 2)]
  have chained := (all _ _ run _ (List.mem_cons_of_mem _ (List.mem_singleton.mpr rfl))).2
  have moved : ((plainAfter (plainAfter .empty createOne) (.claimAvailable 9 (.numbered 2))).orders.get? 1).map
      OrderRow.status = some .assigned := by decide +kernel
  have silent : (plainAfter (plainAfter .empty createOne) (.claimAvailable 9 (.numbered 2))).transitionsOf 1 = [] := by
    decide +kernel
  obtain ⟨row, found, assigned⟩ := Option.map_eq_some_iff.mp moved
  have chain := (chained 1 row found).1
  rw [silent, assigned] at chain
  cases chain

end DeliveryService
