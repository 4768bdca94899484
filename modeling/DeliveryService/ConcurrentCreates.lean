import DeliveryService.ConcurrentWrites
import DeliveryService.SqlAlone

namespace DeliveryService

open Database SqlAlchemyOrderRepository

/-- The scope and the fingerprint under which a job creates an order. -/
def OrderJob.record? (sha256 : String → String) : OrderJob → Option (String × String)
  | .call ⟨_, .create command key tenantId⟩ => createRecord? sha256 command key tenantId
  | _ => none

theorem OrderJob.record?_of_edit {folding : PyText.CaseFolding} {sha256 : String → String} {job : OrderJob}
    {change : UUID × Edit × Generated} (h : job.edit? folding = some change) : job.record? sha256 = none := by
  rcases job with ⟨gen, ⟨⟩ | ⟨⟩ | ⟨⟩ | ⟨⟩ | ⟨⟩⟩ | ⟨⟩
  · cases h
  all_goals rfl

theorem replayRecord_ok {requestFingerprint : String} {record : IdempotencyRow} {order : DeliveryOrder}
    (h : replayRecord requestFingerprint record = .ok order) :
    record.response.requestFingerprint = requestFingerprint := by
  by_contra other
  simp [replayRecord, other] at h

/-- A commit that adds an order, its `order.created` row and its idempotency record for the scope. -/
def CreatesUnder {κ : Type} (sha256 : String → String) (scope : String)
    (t : Transition (SqlCluster κ) (SqlEvent κ)) : Prop :=
  ∃ k gen command key tenantId order requestFingerprint,
    t.label = .commit k (.call ⟨gen, .create command key tenantId⟩) (some order) ∧
    createRecord? sha256 command key tenantId = some (scope, requestFingerprint) ∧
    t.pre.db.orders.get? order.id = none ∧ t.pre.db.outbox.get? gen.eventId = none ∧
    t.pre.db.idempotency.get? scope = none ∧
    t.post.db = createWrite order (some (scope, requestFingerprint)) gen t.pre.db

section

variable {hash : String → Int} {folding : PyText.CaseFolding} {sha256 : String → String} {db db' : Database}
  {job : OrderJob} {scope requestFingerprint : String}

theorem createWrite_record {order : DeliveryOrder} {gen : Generated} (absent : db.idempotency.get? scope = none) :
    (createWrite order (some (scope, requestFingerprint)) gen db).idempotency.get? scope =
      some (recordRow scope requestFingerprint order gen.recordedAt) := by
  change (db.idempotency.insert (recordRow scope requestFingerprint order gen.recordedAt)).get? scope = _
  rw [Table.insert_of_absent absent]
  exact Table.get?_put_self _ (recordRow scope requestFingerprint order gen.recordedAt)

/-- A committed create answers with the order that the record of its scope holds from then on. -/
theorem SqlEffect.recorded {answer : Option DeliveryOrder} (h : SqlEffect folding sha256 job answer db db')
    (keyed : job.record? sha256 = some (scope, requestFingerprint)) :
    ∃ record order, answer = some order ∧ db'.idempotency.get? scope = some record ∧
      replayRecord requestFingerprint record = .ok order ∧
      (db.idempotency.get? scope = some record ∧ db' = db ∨ db.idempotency.get? scope = none) := by
  cases h with
  | @replayed gen command key tenantId scope' requestFingerprint' record order _ keyed' found replay =>
    obtain ⟨rfl, rfl⟩ := Prod.mk.inj (Option.some.inj (keyed.symm.trans keyed'))
    exact ⟨record, order, rfl, found, replay, .inl ⟨found, rfl⟩⟩
  | @created gen command key tenantId order _ absent made fresh freshOutbox =>
    have none := absent _ _ keyed
    change createRecord? sha256 command key tenantId = _ at keyed
    rw [keyed]
    exact ⟨_, order, rfl, createWrite_record none, replayRecord_recordRow _ _ _ _, .inr none⟩
  | skipped | claimed => cases keyed
  | edited event changed => simp [OrderJob.record?_of_edit changed] at keyed

/-- Where the record of a scope appears, an order was created under it. -/
theorem SqlEffect.creates {κ : Type} {t : Transition (SqlCluster κ) (SqlEvent κ)} {k : κ}
    {answer : Option DeliveryOrder} (h : SqlEffect folding sha256 job answer t.pre.db t.post.db)
    (label : t.label = .commit k job answer)
    (changed : t.post.db.idempotency.get? scope ≠ t.pre.db.idempotency.get? scope) : CreatesUnder sha256 scope t := by
  generalize hdb : t.post.db = db' at h changed
  cases h with
  | replayed | skipped | claimed => exact absurd rfl changed
  | @created gen command key tenantId order _ absent made fresh freshOutbox =>
    cases keyed : createRecord? sha256 command key tenantId with
    | none =>
      rw [keyed] at changed
      exact absurd rfl changed
    | some record =>
      obtain ⟨scope', requestFingerprint⟩ := record
      rw [keyed] at changed hdb
      by_cases same : scope = scope'
      · subst same
        exact ⟨k, gen, command, key, tenantId, order, requestFingerprint, label, keyed, fresh, freshOutbox,
          absent _ _ keyed, hdb⟩
      · exact absurd (Table.get?_insert_of_ne _ (recordRow scope' requestFingerprint order gen.recordedAt) same)
          changed
  | @edited _ _ change gen current updated _ middle event edits hid accepted version _ saved =>
    have same : middle.idempotency = t.pre.db.idempotency := by
      cases saved <;> rfl
    refine absurd ?_ changed
    cases event with
    | none => exact congrArg (Table.get? · scope) same
    | some event => exact congrArg (Table.get? · scope) same

variable {κ : Type} [DecidableEq κ] {db₀ : Database} {σ : SqlCluster κ}
  {trace : List (Transition (SqlCluster κ) (SqlEvent κ))} {t : Transition (SqlCluster κ) (SqlEvent κ)}

theorem sql_step (run : Exec (SqlStep hash folding sha256) (Cluster.quiet db₀) trace σ) (ht : t ∈ trace) :
    t.pre.db.Step t.post.db := by
  rcases (sql_meets run ht).unchanged_or_commit with same | ⟨_, _, _, _, write, _, effect, after⟩
  · rw [same]
    exact Step.refl _
  · rw [after]
    exact SqlEffect.step effect

theorem committed_effect (run : Exec (SqlStep hash folding sha256) (Cluster.quiet db₀) trace σ) (ht : t ∈ trace)
    {k : κ} {answer : Option DeliveryOrder} (label : t.label = .commit k job answer) :
    SqlEffect folding sha256 job answer t.pre.db t.post.db := by
  have meets := sql_meets run ht
  rw [label] at meets
  obtain ⟨_, write, effect, after⟩ := meets
  exact after ▸ effect

theorem record_stays (run : Exec (SqlStep hash folding sha256) (Cluster.quiet db₀) trace σ)
    {earlier middle later : List (Transition (SqlCluster κ) (SqlEvent κ))} {t' : Transition (SqlCluster κ) (SqlEvent κ)}
    (shape : trace = earlier ++ t :: (middle ++ t' :: later)) {record : IdempotencyRow}
    (stored : t.post.db.idempotency.get? scope = some record) : t'.pre.db.idempotency.get? scope = some record := by
  have rest := (shape ▸ run : Exec _ _ (earlier ++ t :: (middle ++ t' :: later)) σ).split.2.2
  refine (rest.carried (P := fun s => s.db.idempotency.get? scope = some record) stored ?_ t'
    (List.mem_append_right _ (List.mem_cons_self ..))).1
  intro u hu found
  exact (sql_step run (shape ▸ List.mem_append_right _ (List.mem_cons_of_mem _ hu))).records _ _ found

theorem creates_once (run : Exec (SqlStep hash folding sha256) (Cluster.quiet db₀) trace σ)
    {earlier middle later : List (Transition (SqlCluster κ) (SqlEvent κ))} {t' : Transition (SqlCluster κ) (SqlEvent κ)}
    (shape : trace = earlier ++ t :: (middle ++ t' :: later)) (first : CreatesUnder sha256 scope t) :
    ¬ CreatesUnder sha256 scope t' := by
  obtain ⟨_, gen, _, _, _, order, requestFingerprint, _, _, _, _, absent, wrote⟩ := first
  rintro ⟨_, _, _, _, _, _, _, _, _, _, _, absent', _⟩
  have stored : (createWrite order (some (scope, requestFingerprint)) gen t.pre.db).idempotency.get? scope = some _ :=
    createWrite_record absent
  rw [← wrote] at stored
  simp [record_stays run shape stored] at absent'

theorem same_answer_of_later (run : Exec (SqlStep hash folding sha256) (Cluster.quiet db₀) trace σ)
    {earlier middle later : List (Transition (SqlCluster κ) (SqlEvent κ))} {t' : Transition (SqlCluster κ) (SqlEvent κ)}
    (shape : trace = earlier ++ t :: (middle ++ t' :: later)) {k k' : κ} {job' : OrderJob}
    {answer answer' : Option DeliveryOrder} (label : t.label = .commit k job answer)
    (label' : t'.label = .commit k' job' answer') (keyed : job.record? sha256 = some (scope, requestFingerprint))
    (keyed' : job'.record? sha256 = some (scope, requestFingerprint)) : answer = answer' := by
  obtain ⟨record, order, rfl, stored, replay, _⟩ :=
    (committed_effect run (shape ▸ by simp) label).recorded keyed
  obtain ⟨record', order', rfl, _, replay', found | absent⟩ :=
    (committed_effect run (shape ▸ by simp) label').recorded keyed'
  · have same := record_stays run shape stored
    rw [found.1] at same
    rw [Option.some.inj same, replay] at replay'
    rw [Except.ok.inj replay']
  · simp [record_stays run shape stored] at absent

/-- What a first create needs besides a free key: a valid order, and rows that the tables take. -/
structure CreateAccepted (gen : Generated) (command : CreateOrderCommand) (tenantId : UUID)
    (scope requestFingerprint : String) (order : DeliveryOrder) (db : Database) : Prop where
  made : DeliveryOrder.create gen.orderId tenantId command.customerId command.pickupAddress
    command.destinationAddress command.weightGrams gen.now = .ok order
  row : (rowOf order).checks.refusal = none
  record : (recordRow scope requestFingerprint order gen.recordedAt).checks.refusal = none
  fresh : db.orders.get? order.id = none
  freshOutbox : db.outbox.get? gen.eventId = none

/-- While a key is free, a create that runs next takes it. -/
theorem create_alone {gen : Generated} {command : CreateOrderCommand} {key : Option String} {tenantId : UUID}
    {order : DeliveryOrder} (keyed : createRecord? sha256 command key tenantId = some (scope, requestFingerprint))
    (free : db.idempotency.get? scope = none)
    (accepted : CreateAccepted gen command tenantId scope requestFingerprint order db) :
    (OrderJob.program hash folding sha256 (.call ⟨gen, .create command key tenantId⟩)).transact db =
      (.ok (some order), createWrite order (some (scope, requestFingerprint)) gen db) := by
  have added := runAlone_addCreated accepted.made accepted.row accepted.fresh accepted.freshOutbox
    fun scope' requestFingerprint' same => by
      obtain ⟨rfl, rfl⟩ := Prod.mk.inj (Option.some.inj same)
      exact ⟨accepted.record, free⟩
  have ran : (OrderService.create (sqlAlchemyOrderRepository hash) sha256 command key tenantId gen).runAlone db =
      (.ok order, createWrite order (some (scope, requestFingerprint)) gen db) := by
    simp only [create_eq_lookup keyed, Prog.runAlone_bind, runAlone_idempotentOrder, free, added]
  simp [Prog.transact_eq, OrderJob.program, OrderOp.run, ran, Except.map, Except.isOk, Except.toBool]

theorem not_active_after_abort (run : Exec (SqlStep hash folding sha256) (Cluster.quiet db₀) trace σ)
    (ht : t ∈ trace) {k : κ} (h : t.label = .crash k job ∨ ∃ e, t.label = .rollback k job e) :
    t.post.db = t.pre.db ∧ t.post.active k = none := by
  have step := run.step_of_mem ht
  refine ⟨unchanged_unless_answered run ht (by rcases h with label | ⟨e, label⟩ <;> simp [label]), ?_⟩
  generalize t.pre = before at step
  generalize t.post = after at step ⊢
  rcases h with label | ⟨e, label⟩
  · rw [label] at step
    cases step with
    | crash => simp [Cluster.active_setActive]
  · rw [label] at step
    cases step with
    | rollback => simp [Cluster.active_setActive]

theorem creates_of_changed_record (run : Exec (SqlStep hash folding sha256) (Cluster.quiet db₀) trace σ)
    (ht : t ∈ trace) (changed : t.post.db.idempotency.get? scope ≠ t.pre.db.idempotency.get? scope) :
    CreatesUnder sha256 scope t := by
  by_cases answered : ∃ k job order, t.label = .commit k job (some order)
  · obtain ⟨k, job, order, label⟩ := answered
    exact (committed_effect run ht label).creates label changed
  · simp only [not_exists] at answered
    rw [unchanged_unless_answered run ht answered] at changed
    exact absurd rfl changed

theorem committed_create (run : Exec (SqlStep hash folding sha256) (Cluster.quiet db₀) trace σ) (ht : t ∈ trace)
    {k : κ} {answer : Option DeliveryOrder} (label : t.label = .commit k job answer)
    (keyed : job.record? sha256 = some (scope, requestFingerprint)) :
    t.post.db = t.pre.db ∨ CreatesUnder sha256 scope t := by
  obtain ⟨record, order, _, stored, _, ⟨_, same⟩ | absent⟩ := (committed_effect run ht label).recorded keyed
  · exact .inl same
  · exact .inr (creates_of_changed_record run ht (by simp [stored, absent]))

theorem same_answer (run : Exec (SqlStep hash folding sha256) (Cluster.quiet db₀) trace σ) (ht : t ∈ trace)
    {t' : Transition (SqlCluster κ) (SqlEvent κ)} (ht' : t' ∈ trace) {k k' : κ} {job' : OrderJob}
    {answer answer' : Option DeliveryOrder} (label : t.label = .commit k job answer)
    (label' : t'.label = .commit k' job' answer') (keyed : job.record? sha256 = some (scope, requestFingerprint))
    (keyed' : job'.record? sha256 = some (scope, requestFingerprint)) : answer = answer' := by
  obtain ⟨earlier, later, shape⟩ := List.append_of_mem ht
  rw [shape, List.mem_append, List.mem_cons] at ht'
  rcases ht' with before | rfl | after
  · obtain ⟨start, middle, split⟩ := List.append_of_mem before
    have shape' : trace = start ++ t' :: (middle ++ t :: later) := by simp [shape, split]
    exact (same_answer_of_later run shape' label' label keyed' keyed).symm
  · rw [label] at label'
    cases label'
    rfl
  · obtain ⟨middle, rest, split⟩ := List.append_of_mem after
    exact same_answer_of_later run (shape.trans (by rw [split])) label label' keyed keyed'

theorem SqlFailure.conflict {e : Error} {record : IdempotencyRow} (h : SqlFailure folding sha256 job e db)
    (keyed : job.record? sha256 = some (scope, requestFingerprint)) (found : db.idempotency.get? scope = some record)
    (other : record.response.requestFingerprint ≠ requestFingerprint) :
    e = .idempotencyConflict "idempotency key was already used for another request" := by
  cases h with
  | replay keyed' found' refused =>
    obtain ⟨rfl, rfl⟩ := Prod.mk.inj (Option.some.inj (keyed.symm.trans keyed'))
    obtain rfl := Option.some.inj (found.symm.trans found')
    simp only [replayRecord, ne_eq, other, not_false_eq_true, if_true] at refused
    exact (Except.error.inj refused).symm
  | create absent => simp [absent _ _ keyed] at found
  | claim => cases keyed
  | notFound changed | refused changed | unsaved changed => simp [OrderJob.record?_of_edit changed] at keyed

/-- Concurrent creates under one idempotency scope make one order: one commit adds the rows, the others
answer with its order, another request is refused, and an aborted attempt leaves the key free. -/
theorem concurrent_creates_make_one_order
    (run : Exec (SqlStep hash folding sha256) (Cluster.quiet db₀) trace σ) :
    (∀ earlier t middle t' later scope, trace = earlier ++ t :: (middle ++ t' :: later) →
      CreatesUnder sha256 scope t → ¬ CreatesUnder sha256 scope t') ∧
    (∀ t ∈ trace, ∀ scope, t.post.db.idempotency.get? scope ≠ t.pre.db.idempotency.get? scope →
      CreatesUnder sha256 scope t) ∧
    (∀ t ∈ trace, ∀ k job answer scope requestFingerprint, t.label = .commit k job answer →
      job.record? sha256 = some (scope, requestFingerprint) →
      t.post.db = t.pre.db ∨ CreatesUnder sha256 scope t) ∧
    (∀ t ∈ trace, ∀ t' ∈ trace, ∀ k k' job job' answer answer' scope requestFingerprint,
      t.label = .commit k job answer → t'.label = .commit k' job' answer' →
      job.record? sha256 = some (scope, requestFingerprint) →
      job'.record? sha256 = some (scope, requestFingerprint) → answer = answer') ∧
    (∀ t ∈ trace, ∀ k job scope requestFingerprint record, job.record? sha256 = some (scope, requestFingerprint) →
      t.pre.db.idempotency.get? scope = some record → record.response.requestFingerprint ≠ requestFingerprint →
      (∀ answer, t.label ≠ .commit k job answer) ∧ ∀ e, t.label = .rollback k job e →
        e = .idempotencyConflict "idempotency key was already used for another request" ∧
        t.post.db = t.pre.db) ∧
    ∀ t ∈ trace, ∀ k job, (t.label = .crash k job ∨ ∃ e, t.label = .rollback k job e) →
      t.post.db = t.pre.db ∧ t.post.active k = none ∧
      ∀ gen command key tenantId order scope requestFingerprint,
        createRecord? sha256 command key tenantId = some (scope, requestFingerprint) →
        t.pre.db.idempotency.get? scope = none →
        CreateAccepted gen command tenantId scope requestFingerprint order t.post.db →
        (OrderJob.program hash folding sha256 (.call ⟨gen, .create command key tenantId⟩)).transact t.post.db =
          (.ok (some order), createWrite order (some (scope, requestFingerprint)) gen t.post.db) := by
  refine ⟨fun earlier t middle t' later scope shape => creates_once run shape,
    fun t ht scope changed => creates_of_changed_record run ht changed,
    fun t ht k job answer scope requestFingerprint label keyed => committed_create run ht label keyed,
    fun t ht t' ht' k k' job job' answer answer' scope requestFingerprint label label' keyed keyed' =>
      same_answer run ht ht' label label' keyed keyed', ?_, ?_⟩
  · intro t ht k job scope requestFingerprint record keyed found other
    refine ⟨fun answer label => ?_, fun e label => ⟨?_, ?_⟩⟩
    · obtain ⟨record', order, _, _, replay, ⟨found', _⟩ | absent⟩ := (committed_effect run ht label).recorded keyed
      · obtain rfl := Option.some.inj (found.symm.trans found')
        exact other (replayRecord_ok replay)
      · simp [absent] at found
    · have meets := sql_meets run ht
      rw [label] at meets
      obtain ⟨⟨_, _, failure⟩, _⟩ := meets
      exact SqlFailure.conflict failure keyed found other
    · exact unchanged_unless_answered run ht (by simp [label])
  · intro t ht k job aborted
    obtain ⟨unchanged, released⟩ := not_active_after_abort run ht aborted
    refine ⟨unchanged, released, fun gen command key tenantId order scope requestFingerprint keyed free accepted => ?_⟩
    exact create_alone keyed (unchanged ▸ free) accepted

end

/-- The same request under the key `k`, drawing the given ids. -/
def createKeyed (id : UUID) : OrderJob :=
  .call ⟨.numbered id, .create ⟨7, "Depot 1", "Harbour 2", 500⟩ (some "k") defaultTenantId⟩

theorem record?_createKeyed (sha256 : String → String) (id : UUID) : (createKeyed id).record? sha256 =
    some (idempotencyScope defaultTenantId 7 "k",
      sha256 (CreateOrderCommand.canonicalRequest ⟨7, "Depot 1", "Harbour 2", 500⟩)) := by
  simp [createKeyed, OrderJob.record?, createRecord?]

/-- The database after the first request. -/
def createdKeyed : Database := ((plainProgram (createKeyed 1)).transact .empty).2

theorem replayed_createdKeyed : ((plainProgram (createKeyed 1)).transact .empty).1.isOk = true ∧
    ((plainProgram (createKeyed 2)).resume .empty createdKeyed).1.isOk = true := by
  decide +kernel

/-- The second request has asked for the lock on the key when the first one takes it and commits. -/
theorem concurrent_creates_wait : ∃ (trace : List (Transition (SqlCluster Nat) (SqlEvent Nat)))
    (σ : SqlCluster Nat), Exec (SqlStep (fun _ => 0) PyText.asciiFolding id) (Cluster.quiet .empty) trace σ ∧
      ∃ t ∈ trace, ∃ t' ∈ trace, ∃ answer, t.label = .commit 0 (createKeyed 1) answer ∧ (t.pre.active 1).isSome ∧
        t'.label = .commit 1 (createKeyed 2) answer := by
  obtain ⟨first, second⟩ := replayed_createdKeyed
  obtain ⟨answer', ended⟩ := Except.exists_of_isOk second
  obtain ⟨trace, answer, run, ⟨t, ht, label, _, waiting, _⟩, t', ht', label', _⟩ :=
    Cluster.exec_overtaken plainProgram 1 0 (by decide) .empty (createKeyed 2) (createKeyed 1) first ended
  have same := (concurrent_creates_make_one_order run).2.2.2.1 t ht t' ht' _ _ _ _ _ _ _ _ label label'
    (record?_createKeyed id 1) (record?_createKeyed id 2)
  exact ⟨_, _, run, t, ht, t', ht', answer, label, waiting, same ▸ label'⟩

end DeliveryService
