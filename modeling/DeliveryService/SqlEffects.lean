import DeliveryService.SqlJobs

namespace DeliveryService

open Database SqlAlchemyOrderRepository

/-- What `save` makes of the committed data. -/
inductive SaveEffect (current updated : DeliveryOrder) (gen : Generated) (db : Database) : Database → Prop
  | kept {row} : db.orders.get? current.id = some row → current = domain row (db.assignmentsOf current.id) →
      (savedRow row updated).checks.refusal = none →
      updated.courierId = none ∨ db.activeForOrder current.id ≠ [] →
      SaveEffect current updated gen db (putOrder (savedRow row updated) db)
  | assigned {row courierId} : db.orders.get? current.id = some row →
      current = domain row (db.assignmentsOf current.id) → (savedRow row updated).checks.refusal = none →
      updated.courierId = some courierId →
      (addedAssignment updated courierId gen).Free db →
      SaveEffect current updated gen db
        (addAssignment (addedAssignment updated courierId gen) (putOrder (savedRow row updated) db))

theorem SqlAlchemyOrderRepository.Saved.effect {current updated : DeliveryOrder} {gen : Generated}
    {held : List Lock} {write : Database → Database} {db : Database}
    (h : Saved current updated gen held write db) : SaveEffect current updated gen db (write db) := by
  obtain ⟨-, -, row, found, read, accepted, ⟨rfl, settled⟩ | ⟨courierId, courier, reserved, rfl⟩⟩ := h
  · exact .kept found read accepted settled
  · exact .assigned found read accepted courier reserved.toFree

/-- The scope and the fingerprint of a create request with a non-empty idempotency key. -/
def createRecord? (sha256 : String → String) (command : CreateOrderCommand) (idempotencyKey : Option String)
    (tenantId : UUID) : Option (String × String) :=
  match idempotencyKey with
  | none => none
  | some key =>
    if key = "" then none
    else some (idempotencyScope tenantId command.customerId key, sha256 command.canonicalRequest)

/-- The rows that a first create adds. -/
def createWrite (order : DeliveryOrder) (record : Option (String × String)) (gen : Generated) :
    Database → Database :=
  (match record with
    | none => id
    | some (scope, requestFingerprint) => addRecord (recordRow scope requestFingerprint order gen.recordedAt)) ∘
  addOutbox (createdRow (OrderCreated.fromOrder gen.eventId order)) ∘ addOrder (rowOf order)

section

variable (folding : PyText.CaseFolding) (sha256 : String → String)

/-- What the jobs do to the committed data when they commit. -/
inductive SqlEffect : OrderJob → Option DeliveryOrder → Database → Database → Prop
  | replayed {gen command key tenantId scope requestFingerprint record order db} :
      createRecord? sha256 command key tenantId = some (scope, requestFingerprint) →
      db.idempotency.get? scope = some record → replayRecord requestFingerprint record = .ok order →
      SqlEffect (.call ⟨gen, .create command key tenantId⟩) (some order) db db
  | created {gen command key tenantId order db} :
      (∀ scope requestFingerprint, createRecord? sha256 command key tenantId = some (scope, requestFingerprint) →
        db.idempotency.get? scope = none) →
      DeliveryOrder.create gen.orderId tenantId command.customerId command.pickupAddress
        command.destinationAddress command.weightGrams gen.now = .ok order →
      db.orders.get? order.id = none → db.outbox.get? gen.eventId = none →
      SqlEffect (.call ⟨gen, .create command key tenantId⟩) (some order) db
        (createWrite order (createRecord? sha256 command key tenantId) gen db)
  | skipped {gen courierId tenantId correlationId db} :
      SqlEffect (.call ⟨gen, .claimNext courierId tenantId correlationId⟩) none db db
  | claimed {gen courierId tenantId correlationId row db} :
      db.orders.get? row.id = some row → isCandidate tenantId row = true →
      (claimedAssignment row courierId gen).Free db →
      Unreported (claimEvent row courierId gen.now correlationId gen) db →
      SqlEffect (.call ⟨gen, .claimNext courierId tenantId correlationId⟩)
        (some ((queued row).takenBy courierId)) db
        (claimWrite row (claimedAssignment row courierId gen)
          (claimEvent row courierId gen.now correlationId gen) db)
  | edited {job orderId change gen current updated db db'} (event : Option OrderStatusChanged) :
      job.edit? folding = some (orderId, change, gen) → current.id = orderId →
      change.change current = .ok (updated, event) → updated.version = current.version + 1 →
      (∀ reported, event = some reported → Unreported reported db) → SaveEffect current updated gen db db' →
      SqlEffect job (some updated) db (event.elim db' fun event => addReport event db')

/-- Why the jobs are rolled back. -/
inductive SqlFailure : OrderJob → Error → Database → Prop
  | replay {gen command key tenantId scope requestFingerprint record e db} :
      createRecord? sha256 command key tenantId = some (scope, requestFingerprint) →
      db.idempotency.get? scope = some record → replayRecord requestFingerprint record = .error e →
      SqlFailure (.call ⟨gen, .create command key tenantId⟩) e db
  | create {gen command key tenantId e db} :
      (∀ scope requestFingerprint, createRecord? sha256 command key tenantId = some (scope, requestFingerprint) →
        db.idempotency.get? scope = none) →
      DeliveryOrder.create gen.orderId tenantId command.customerId command.pickupAddress
        command.destinationAddress command.weightGrams gen.now = .error e ∨ e.FromDatabase False →
      SqlFailure (.call ⟨gen, .create command key tenantId⟩) e db
  | claim {gen courierId tenantId correlationId e db} : ClaimFailure courierId db e →
      SqlFailure (.call ⟨gen, .claimNext courierId tenantId correlationId⟩) e db
  | notFound {job orderId change gen db} : job.edit? folding = some (orderId, change, gen) →
      SqlFailure job (.orderNotFound orderId) db
  | refused {job orderId change gen current e db} : job.edit? folding = some (orderId, change, gen) →
      current.id = orderId → db.ReadAt current → change.change current = .error e → SqlFailure job e db
  | unsaved {job orderId change gen current e db} : job.edit? folding = some (orderId, change, gen) →
      current.id = orderId → SaveTransitionFailure current db e → SqlFailure job e db

/-- How a job ends. -/
def sqlSpec (job : OrderJob) : Prog.Ending Database Lock Error (Option DeliveryOrder) :=
  fun r _ write db => match r with
    | .ok answer => SqlEffect folding sha256 job answer db (write db)
    | .error e => SqlFailure folding sha256 job e db

end

section

variable {hash : String → Int} {folding : PyText.CaseFolding} {sha256 : String → String} {db : Database}

theorem wp_edit {job : OrderJob} {orderId : UUID} {change : Edit} {gen : Generated}
    (h : job.edit? folding = some (orderId, change, gen)) :
    Prog.wp (isolation hash) (sqlSpec folding sha256 job) (job.program hash folding sha256) [] id db := by
  rw [OrderJob.program_eq_editing hash folding sha256 h]
  refine Prog.wp_map (Prog.wp_bind (wp_get fun answer later env read => ?_))
  cases answer with
  | none => exact fun last _ => .notFound h
  | some current =>
    obtain ⟨hid, readNow⟩ := read current rfl
    refine Prog.wp_bind (Prog.wp_ofExcept fun first env => ?_)
    have readFirst := readNow.step env.1
    cases changed : change.change current with
    | error e => exact .refused h hid readFirst changed
    | ok outcome =>
      obtain ⟨updated, event⟩ := outcome
      obtain ⟨same, _⟩ := change.lawful current updated event changed
      cases event with
      | none =>
        refine Prog.wp_bind (wp_save same readFirst (fun held write last _ saved => ?_)
          fun e _ _ last _ failure => .unsaved h hid (.save failure))
        exact fun end' after => .edited none h hid changed saved.version (by simp) (saved.env after).effect
      | some event =>
        refine Prog.wp_bind (wp_saveTransition same readFirst (fun held write last saved unreported _ _ => ?_)
          fun e _ _ last _ failure => .unsaved h hid failure)
        intro end' after
        refine .edited (some event) h hid changed saved.version ?_ (saved.env after).effect
        rintro _ ⟨⟩
        exact (unreported.env after).toUnreported

theorem wp_claim {gen : Generated} {courierId tenantId : UUID} {correlationId : String} :
    Prog.wp (isolation hash) (sqlSpec folding sha256 (.call ⟨gen, .claimNext courierId tenantId correlationId⟩))
      (OrderJob.program hash folding sha256 (.call ⟨gen, .claimNext courierId tenantId correlationId⟩)) [] id db :=
  wp_claimNextCreatedOrder (fun _ _ => .skipped)
    (fun _ _ _ found qualifies reserved unreported =>
      .claimed found qualifies reserved.toFree unreported.toUnreported)
    fun _ _ _ _ _ failure => .claim failure

/-- The second part of `create`, after no record was found. -/
def addCreated (command : CreateOrderCommand) (tenantId : UUID) (gen : Generated)
    (record : Option (String × String)) : Sql DeliveryOrder := do
  let order ← MonadExcept.ofExcept (DeliveryOrder.create gen.orderId tenantId command.customerId
    command.pickupAddress command.destinationAddress command.weightGrams gen.now)
  add order
  recordCreatedEvent (OrderCreated.fromOrder gen.eventId order)
  match record with
  | some (scope, requestFingerprint) => rememberIdempotency scope requestFingerprint order gen
  | none => pure ()
  pure order

theorem wp_addCreated {command : CreateOrderCommand} {key : Option String} {tenantId : UUID} {gen : Generated}
    {held : List Lock} (absent : ∀ scope requestFingerprint,
      createRecord? sha256 command key tenantId = some (scope, requestFingerprint) →
      .advisory (hash scope) ∈ held ∧ db.idempotency.get? scope = none) :
    Prog.wp (isolation hash) (fun r held write later =>
        sqlSpec folding sha256 (.call ⟨gen, .create command key tenantId⟩) (r.map some) held write later)
      (addCreated command tenantId gen (createRecord? sha256 command key tenantId)) held id db := by
  have unrecorded : ∀ later, (isolation hash).Env held db later → ∀ scope requestFingerprint,
      createRecord? sha256 command key tenantId = some (scope, requestFingerprint) →
      later.idempotency.get? scope = none := by
    intro later env scope requestFingerprint keyed
    obtain ⟨locked, none⟩ := absent scope requestFingerprint keyed
    exact env.2 (.advisory (hash scope)) locked scope rfl ▸ none
  refine Prog.wp_bind (Prog.wp_ofExcept fun first env₁ => ?_)
  cases created : DeliveryOrder.create gen.orderId tenantId command.customerId command.pickupAddress
    command.destinationAddress command.weightGrams gen.now with
  | error e => exact .create (unrecorded first env₁) (.inl created)
  | ok order =>
    have failed : ∀ e later, (isolation hash).Env held first later → e.FromDatabase False →
        SqlFailure folding sha256 (.call ⟨gen, .create command key tenantId⟩) e later :=
      fun e later env raised => .create (unrecorded later (env₁.trans env)) (.inr raised)
    refine Prog.wp_bind (wp_insertOrder (fun _ => rfl) (fun second env₂ fresh => ?_) failed)
    refine Prog.wp_bind (wp_insertOutbox (fun _ => rfl) (fun third env₃ freshOutbox => ?_)
      fun e later env raised => failed e later (env₂.trans env.of_cons) raised)
    have settled : ∀ last, (isolation hash).Env (.outbox gen.eventId :: .order order.id :: held) third last →
        SqlEffect folding sha256 (.call ⟨gen, .create command key tenantId⟩) (some order) last
          (createWrite order (createRecord? sha256 command key tenantId) gen last) := by
      intro last env
      have kept := ((env₃.trans env.of_cons).2 (.order (rowOf order).id) (by simp)).1
      have keptOutbox := env.2 (.outbox gen.eventId) (by simp)
      exact .created (unrecorded last (env₁.trans (env₂.trans (env₃.trans env.of_cons).of_cons))) created
        (kept ▸ fresh) (keptOutbox ▸ freshOutbox)
    cases keyed : createRecord? sha256 command key tenantId with
    | none =>
      rw [keyed] at settled
      exact settled
    | some record =>
      obtain ⟨scope, requestFingerprint⟩ := record
      rw [keyed] at settled
      refine Prog.wp_bind (wp_insertRecord (fun _ => rfl) ?_ (fun fourth env₄ _ => ?_) fun e later env raised => ?_)
      · simp [recordRow, (absent scope requestFingerprint keyed).1]
      · exact fun last env => settled last (env₄.trans env.of_cons)
      · exact failed e later (env₂.trans (env₃.trans env.of_cons).of_cons) raised

theorem create_eq_addCreated {gen : Generated} {command : CreateOrderCommand} {key : Option String}
    {tenantId : UUID} (unkeyed : createRecord? sha256 command key tenantId = none) :
    OrderService.create (sqlAlchemyOrderRepository hash) sha256 command key tenantId gen =
      addCreated command tenantId gen none := by
  cases key with
  | none => rfl
  | some text =>
    have empty : text = "" := by simpa [createRecord?] using unkeyed
    simp only [OrderService.create, OrderService.replay, empty, if_true]
    rfl

theorem create_eq_lookup {gen : Generated} {command : CreateOrderCommand} {key : Option String}
    {tenantId : UUID} {scope requestFingerprint : String}
    (keyed : createRecord? sha256 command key tenantId = some (scope, requestFingerprint)) :
    OrderService.create (sqlAlchemyOrderRepository hash) sha256 command key tenantId gen =
      idempotentOrder hash scope requestFingerprint >>= fun existing => match existing with
        | some order => pure order
        | none => addCreated command tenantId gen (some (scope, requestFingerprint)) := by
  cases key with
  | none => simp [createRecord?] at keyed
  | some text =>
    simp only [createRecord?] at keyed
    split at keyed
    next => simp at keyed
    next nonempty =>
      obtain ⟨rfl, rfl⟩ := Prod.mk.inj (Option.some.inj keyed)
      simp only [OrderService.create, OrderService.replay, nonempty, if_false, bind_assoc, pure_bind]
      rfl

theorem wp_create {gen : Generated} {command : CreateOrderCommand} {key : Option String} {tenantId : UUID} :
    Prog.wp (isolation hash) (sqlSpec folding sha256 (.call ⟨gen, .create command key tenantId⟩))
      (OrderJob.program hash folding sha256 (.call ⟨gen, .create command key tenantId⟩)) [] id db := by
  refine Prog.wp_map ?_
  cases keyed : createRecord? sha256 command key tenantId with
  | none =>
    rw [create_eq_addCreated keyed, ← keyed]
    exact wp_addCreated (by simp [keyed])
  | some record =>
    obtain ⟨scope, requestFingerprint⟩ := record
    rw [create_eq_lookup keyed]
    refine Prog.wp_bind (wp_idempotentOrder (fun later env absent => ?_) fun record later env found => ?_)
    · simp only [← keyed]
      refine wp_addCreated fun scope' requestFingerprint' same => ?_
      rw [keyed] at same
      obtain ⟨rfl, rfl⟩ := Prod.mk.inj (Option.some.inj same)
      exact ⟨by simp, absent⟩
    · cases replay : replayRecord requestFingerprint record with
      | error e => exact .replay keyed found replay
      | ok order => exact fun last after => .replayed keyed (after.1.records _ _ found) replay

/-- Every job ends as specified, whatever the other transactions do. -/
theorem sqlSpec_verified (job : OrderJob) (db : Database) :
    Prog.wp (isolation hash) (sqlSpec folding sha256 job) (job.program hash folding sha256) [] id db := by
  cases changed : job.edit? folding with
  | some change => exact wp_edit changed
  | none =>
    rcases job with ⟨gen, ⟨⟩ | ⟨⟩ | ⟨⟩ | ⟨⟩ | ⟨⟩⟩ | ⟨⟩
    · exact wp_create
    · simp [OrderJob.edit?] at changed
    · exact wp_claim
    · simp [OrderJob.edit?] at changed
    · simp [OrderJob.edit?] at changed
    · simp [OrderJob.edit?] at changed

/-- One order moves to a greater version, perhaps with a new assignment; nothing else moves. -/
theorem step_of_write {db' : Database} {old row : OrderRow} (found : db.orders.get? row.id = some old)
    (grown : old.version < row.version) (orders : db'.orders = db.orders.put row)
    (assignments : db'.assignments = db.assignments ∨ ∃ added : AssignmentRow, added.orderId = row.id ∧
      db'.assignments = db.assignments.insert added)
    (records : db'.idempotency = db.idempotency) : db.Step db' := by
  refine ⟨fun id stored h => ?_, fun id stored h => ?_, fun scope record h => records ▸ h⟩
  · by_cases here : id = row.id
    · subst here
      rw [found] at h
      exact ⟨row, by simp [orders], .inr (Option.some.inj h ▸ grown)⟩
    · refine ⟨stored, by rw [orders, Table.get?_put_of_ne _ _ here, h], .inl ⟨rfl, ?_⟩⟩
      rcases assignments with same | ⟨added, other, same⟩
      · simp only [assignmentsOf, same]
      · simp only [assignmentsOf, same]
        exact Table.filter_insert_of_false _ (by simpa [other] using Ne.symm here)
  · rcases assignments with same | ⟨added, _, same⟩
    · exact same ▸ h
    · exact same ▸ Table.get?_insert_of_some h

theorem SaveEffect.step {current updated : DeliveryOrder} {gen : Generated} {db' : Database}
    (h : SaveEffect current updated gen db db') (same : updated.id = current.id) : db.Step db' := by
  have stored : ∀ {row}, db.orders.get? current.id = some row →
      db.orders.get? (savedRow row updated).id = some row := fun found => by
    rw [savedRow, Table.key_of_get? found, found]
  cases h with
  | kept found => exact step_of_write (stored found) (by simp [savedRow]) rfl (.inl rfl) rfl
  | assigned found =>
    exact step_of_write (stored found) (by simp [savedRow]) rfl
      (.inr ⟨_, same.trans (Table.key_of_get? found).symm, rfl⟩) rfl

theorem step_addReport (event : OrderStatusChanged) (db : Database) : db.Step (addReport event db) :=
  ⟨fun _ row found => ⟨row, found, .inl ⟨rfl, rfl⟩⟩, fun _ _ found => found, fun _ _ found => found⟩

theorem step_createWrite (order : DeliveryOrder) (record : Option (String × String)) (gen : Generated)
    (db : Database) : db.Step (createWrite order record gen db) := by
  cases record with
  | none =>
    exact ⟨fun _ row found => ⟨row, Table.get?_insert_of_some found, .inl ⟨rfl, rfl⟩⟩, fun _ _ found => found,
      fun _ _ found => found⟩
  | some record =>
    exact ⟨fun _ row found => ⟨row, Table.get?_insert_of_some found, .inl ⟨rfl, rfl⟩⟩, fun _ _ found => found,
      fun _ _ found => Table.get?_insert_of_some found⟩

theorem SqlEffect.step {job : OrderJob} {answer : Option DeliveryOrder} {db' : Database}
    (h : SqlEffect folding sha256 job answer db db') : db.Step db' := by
  cases h with
  | replayed | skipped => exact Step.refl db
  | created => exact step_createWrite _ _ _ _
  | @claimed gen courierId tenantId correlationId row _ found =>
    have stored : db.orders.get? (claimedRow row).id = some row := found
    have moved : db.Step (addAssignment (claimedAssignment row courierId gen) (putOrder (claimedRow row) db)) :=
      step_of_write stored (by simp [claimedRow]) rfl (.inr ⟨_, rfl, rfl⟩) rfl
    exact moved.trans (step_addReport _ _)
  | @edited _ _ change _ current updated _ db' event changed hid accepted version _ saved =>
    have moved := saved.step (change.lawful current updated event accepted).1
    cases event with
    | none => exact moved
    | some event => exact moved.trans (step_addReport event db')

end

end DeliveryService
