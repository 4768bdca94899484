import DeliveryService.Consumers
import DeliveryService.Site
import DeliveryService.SortedBy

namespace DeliveryService

/-- `transitional_outbox_pending_clause` -/
def OutboxRow.pending (row : OutboxRow) : Bool := row.publishedAt = none && row.legacyProcessedAt = none

/-- `mark_outbox_published` -/
def OutboxRow.marked (moment : Datetime) (row : OutboxRow) : OutboxRow :=
  { row with publishedAt := some moment, legacyProcessedAt := some moment }

def OutboxRow.relayKey (row : OutboxRow) : ℤ ×ₗ UUID := toLex (row.createdAt.instant, row.id)

/-- How a call of `EventPublisher.publish` ends: it returns only when the broker confirms. Without that it raises,
and the broker may have the event all the same. -/
inductive Publication
  | confirmed
  | lost (message : String)
  | refused (message : String)
deriving DecidableEq

def Publication.delivered : Publication → Bool
  | .confirmed => true
  | .lost _ => true
  | .refused _ => false

abbrev RelayScript := Script MessageDatabase MessageLock OutboxEvent Publication MessageError

/-- The newest version of a row of the snapshot, unless somebody else has locked it or it is pending no more. -/
def newestPending (locked : MessageLock → Bool) (current : MessageDatabase) (row : OutboxRow) : Option OutboxRow :=
  if locked (.outbox row.id) then none else (current.outbox.get? row.id).filter OutboxRow.pending

/-- `SELECT ... ORDER BY created_at, id LIMIT :batch_size FOR UPDATE SKIP LOCKED` -/
def selectPending (batchSize : Nat) : MessageStatement (List OutboxRow) :=
  fun locked snapshot current =>
    let queue := (snapshot.outbox.toList.filter OutboxRow.pending).sortedBy OutboxRow.relayKey
    let rows := (queue.filterMap (newestPending locked current)).take batchSize
    .ok { value := rows, locks := rows.map fun row => .outbox row.id }

def MessageDatabase.markPublished (ids : List UUID) (moment : Datetime) (db : MessageDatabase) : MessageDatabase :=
  { db with
    outbox := db.outbox.map (fun row => if row.id ∈ ids then row.marked moment else row)
      (fun row => by split <;> rfl) }

/-- The flush of both columns of the marked rows. -/
def flushMarks (ids : List UUID) (moment : Datetime) : MessageStatement Unit :=
  fun _ _ current =>
    if ids.all fun id => (current.outbox.get? id).isSome then
      .ok { value := (), locks := ids.map .outbox, write := MessageDatabase.markPublished ids moment }
    else .error (.database (.staleData "outbox"))

open Script in
/-- The loop over the locked rows. -/
def publishRows (publishedIds : List UUID) : List OutboxRow → RelayScript (List UUID)
  | [] => pure publishedIds
  | row :: rest => do
    match ← request row.event with
    | .confirmed => publishRows (publishedIds ++ [row.id]) rest
    | .lost message => raise (.outside message)
    | .refused message => raise (.outside message)

open Script in
def publishPendingOutbox (inTransaction : Bool) (publishedAt : Datetime) (batchSize : Int := 50) :
    RelayScript (List UUID) :=
  if inTransaction = false then raise (.runtimeError "publish_pending_outbox requires an active transaction")
  else if ¬ (1 ≤ batchSize ∧ batchSize ≤ 200) then raise (.valueError "batch_size must be between 1 and 200")
  else do
    let rows ← perform (selectPending batchSize.toNat)
    let publishedIds ← publishRows [] rows
    perform (flushMarks publishedIds publishedAt)
    pure publishedIds

/-- A new row of the outbox, not published yet. -/
def OutboxEvent.row (event : OutboxEvent) (createdAt : Datetime) : OutboxRow :=
  { id := event.id, eventType := event.eventType, payload := event.payload, createdAt }

open Script in
/-- What any transaction with new events does to the outbox. -/
def insertEvents : List (OutboxEvent × Datetime) → RelayScript (List UUID)
  | [] => pure []
  | event :: rest => do
    perform (insertOutboxRow (event.1.row event.2))
    insertEvents rest

/-- The transactions on the outbox. -/
inductive OutboxJob
  | relay (publishedAt : Datetime) (batchSize : Int)
  | insert (events : List (OutboxEvent × Datetime))

def OutboxJob.body : OutboxJob → RelayScript (List UUID)
  | .relay publishedAt batchSize => publishPendingOutbox true publishedAt batchSize
  | .insert events => insertEvents events

/-- The broker keeps every event that it was handed, in order. -/
def broker : Service (List OutboxEvent) OutboxEvent Publication where
  admits _ _ _ := True
  after log event publication := if publication.delivered then log ++ [event] else log

section

variable {locked : MessageLock → Bool} {snapshot current : MessageDatabase}

theorem newestPending_eq_some {old row : OutboxRow} (newest : newestPending locked current old = some row) :
    row.id = old.id ∧ current.outbox.get? row.id = some row ∧ row.pending = true := by
  unfold newestPending at newest
  split at newest
  next => cases newest
  next =>
    obtain ⟨found, pending⟩ := Option.filter_eq_some_iff.mp newest
    have same : row.id = old.id := Table.key_of_get? found
    exact ⟨same, same ▸ found, pending⟩

/-- The rows that the relay locks. -/
def lockedRows (batchSize : Nat) (locked : MessageLock → Bool) (snapshot current : MessageDatabase) : List OutboxRow :=
  (((snapshot.outbox.toList.filter OutboxRow.pending).sortedBy OutboxRow.relayKey).filterMap
    (newestPending locked current)).take batchSize

theorem selectPending_eq (batchSize : Nat) : selectPending batchSize locked snapshot current =
    .ok { value := lockedRows batchSize locked snapshot current
          locks := (lockedRows batchSize locked snapshot current).map fun row => .outbox row.id } := rfl

theorem mem_lockedRows {batchSize : Nat} {row : OutboxRow} (mem : row ∈ lockedRows batchSize locked snapshot current) :
    current.outbox.get? row.id = some row ∧ row.pending = true := by
  obtain ⟨old, _, newest⟩ := List.mem_filterMap.mp (List.mem_of_mem_take mem)
  exact (newestPending_eq_some newest).2

theorem nodup_lockedRows (batchSize : Nat) :
    ((lockedRows batchSize locked snapshot current).map OutboxRow.id).Nodup := by
  have queue : (((snapshot.outbox.toList.filter OutboxRow.pending).sortedBy OutboxRow.relayKey).map
      OutboxRow.id).Nodup := by
    refine ((List.perm_insertionSort _ _).map OutboxRow.id).nodup_iff.mpr ?_
    exact snapshot.outbox.nodup_keys.sublist (List.filter_sublist.map OutboxRow.id)
  have kept : ((((snapshot.outbox.toList.filter OutboxRow.pending).sortedBy OutboxRow.relayKey).filterMap
      (newestPending locked current)).map OutboxRow.id).Nodup :=
    queue.sublist (List.map_filterMap_sublist (fun old row newest => (newestPending_eq_some newest).1) _)
  exact kept.sublist ((List.take_sublist _ _).map OutboxRow.id)

end

/-- Transactions on the outbox need no more than their row locks. -/
abbrev outboxIsolation : Isolation MessageDatabase MessageLock := MessageDatabase.isolation fun _ => True

abbrev RelayProgress := Progress MessageDatabase MessageLock OutboxEvent Publication

/-- The events that a transaction has handed to the broker are those of different pending rows that it has
locked. -/
structure InFlight (p : RelayProgress) (db : MessageDatabase) : Prop where
  once : (p.calls.map fun call => call.1.id).Nodup
  locked : ∀ call ∈ p.calls, .outbox call.1.id ∈ p.held
  pending : ∀ call ∈ p.calls, ∃ row, db.outbox.get? call.1.id = some row ∧ row.pending = true ∧ row.event = call.1

theorem InFlight.later {p : RelayProgress} {db db' : MessageDatabase} (inFlight : InFlight p db)
    (later : outboxIsolation.Later p.held db db') : InFlight p db' := by
  refine ⟨inFlight.once, inFlight.locked, fun call mem => ?_⟩
  obtain ⟨row, found, rest⟩ := inFlight.pending call mem
  have same : db.outbox.get? call.1.id = db'.outbox.get? call.1.id := later.agree (inFlight.locked call mem)
  exact ⟨row, same ▸ found, rest⟩

theorem InFlight.finish {p : RelayProgress} {db : MessageDatabase} (inFlight : InFlight p db) {β : Type}
    (snapshot : MessageDatabase) (finished : Done MessageDatabase MessageLock β) :
    InFlight (p.finish snapshot finished) db :=
  ⟨inFlight.once, fun call mem => List.mem_append_right _ (inFlight.locked call mem), inFlight.pending⟩

/-- A write that only adds pending rows. -/
def AddsPending (write : MessageDatabase → MessageDatabase) : Prop :=
  ∀ db, db.Step (write db) ∧ (∀ id row, db.outbox.get? id = some row → (write db).outbox.get? id = some row) ∧
    ∀ id row, (write db).outbox.get? id = some row → db.outbox.get? id = some row ∨ row.pending = true

/-- A relay that returns has a confirmation for each row and marks these rows; another transaction calls nobody
and adds pending rows. -/
def OutboxJob.spec (job : OutboxJob) :
    Script.Spec outboxIsolation OutboxEvent Publication MessageError (List UUID) where
  always := InFlight
  ending r p _ := match job, r with
    | .relay publishedAt _, .ok ids => (∀ call ∈ p.calls, call.2 = .confirmed) ∧
        ids = (p.calls.map fun call => call.1.id) ∧ p.write = MessageDatabase.markPublished ids publishedAt
    | .insert _, .ok _ => p.calls = [] ∧ AddsPending p.write
    | _, .error _ => True
  stable later inFlight := inFlight.later later

section

variable {S : Script.Spec outboxIsolation OutboxEvent Publication MessageError (List UUID)} {p : RelayProgress}
  {db : MessageDatabase}

/-- Rows that are locked stay pending. -/
theorem pending_later {rows : List OutboxRow} {held : List MessageLock} {now : MessageDatabase}
    (later : outboxIsolation.Later held db now) (locked : ∀ row ∈ rows, .outbox row.id ∈ held)
    (pending : ∀ row ∈ rows, db.outbox.get? row.id = some row ∧ row.pending = true) :
    ∀ row ∈ rows, now.outbox.get? row.id = some row ∧ row.pending = true := by
  intro row mem
  have same : db.outbox.get? row.id = now.outbox.get? row.id := later.agree (locked row mem)
  exact ⟨same ▸ (pending row mem).1, (pending row mem).2⟩

theorem InFlight.answer {row : OutboxRow} (inFlight : InFlight p db) (o : Publication)
    (fresh : (p.calls.map (fun call => call.1.id) ++ [row.id]).Nodup) (held : .outbox row.id ∈ p.held)
    (pending : db.outbox.get? row.id = some row ∧ row.pending = true) : InFlight (p.answer row.event o) db := by
  refine ⟨?_, fun call mem => ?_, fun call mem => ?_⟩
  · simp only [Progress.answer, List.map_append, List.map_cons, List.map_nil]
    exact fresh
  · rcases List.mem_append.mp mem with old | last
    · exact inFlight.locked call old
    · obtain rfl := List.mem_singleton.mp last
      exact held
  · rcases List.mem_append.mp mem with old | last
    · exact inFlight.pending call old
    · obtain rfl := List.mem_singleton.mp last
      exact ⟨row, pending.1, pending.2, rfl⟩

/-- The loop: each row goes to the broker once, while its lock is held. -/
theorem wp_publishRows (always : S.always = InFlight) (raised : ∀ e p db, S.ending (.error e) p db)
    (rows : List OutboxRow) (publishedIds : List UUID) (inFlight : InFlight p db)
    (fresh : (p.calls.map (fun call => call.1.id) ++ rows.map OutboxRow.id).Nodup)
    (held : ∀ row ∈ rows, .outbox row.id ∈ p.held)
    (pending : ∀ row ∈ rows, db.outbox.get? row.id = some row ∧ row.pending = true)
    (done : ∀ later, outboxIsolation.Later p.held db later → S.ending (.ok (publishedIds ++ rows.map OutboxRow.id))
      { p with calls := p.calls ++ rows.map fun row => (row.event, .confirmed) } later) :
    Script.wp S (publishRows publishedIds rows) p db := by
  induction rows generalizing p db publishedIds with
  | nil =>
    refine Script.wp_pure (always ▸ inFlight) fun later after => ?_
    simpa using done later after
  | cons row rest ih =>
    have still : ∀ {now}, outboxIsolation.Later p.held db now → ∀ row' ∈ row :: rest,
        now.outbox.get? row'.id = some row' ∧ row'.pending = true := fun later => pending_later later held pending
    have flying : ∀ o {now}, outboxIsolation.Later p.held db now → InFlight (p.answer row.event o) now := by
      intro o now later
      refine (inFlight.later later).answer o ?_ (held row (List.mem_cons_self ..))
        (still later row (List.mem_cons_self ..))
      refine fresh.sublist ((List.Sublist.refl _).append ?_)
      exact (List.nil_sublist _).cons_cons _
    have valid : outboxIsolation.valid db := trivial
    have known : S.always p db := always ▸ inFlight
    refine Script.wp_bind valid (Script.wp_request known fun o now before => ⟨?_, fun later after => ?_⟩)
    · change S.always _ _
      rw [always]
      exact flying o before
    have whole := before.trans after
    have known' : S.always (p.answer row.event o) later := always ▸ flying o whole
    cases o with
    | lost message => exact Script.wp_raise known' fun _ _ => raised _ _ _
    | refused message => exact Script.wp_raise known' fun _ _ => raised _ _ _
    | confirmed =>
      refine ih (publishedIds ++ [row.id]) (flying .confirmed whole) ?_ ?_ ?_ fun last after' => ?_
      · simpa [Progress.answer, OutboxRow.event] using fresh
      · exact fun row' mem => held row' (List.mem_cons_of_mem _ mem)
      · exact fun row' mem => still whole row' (List.mem_cons_of_mem _ mem)
      · simpa [Progress.answer] using done last (whole.trans after')

theorem get?_markPublished (ids : List UUID) (moment : Datetime) (db : MessageDatabase) (id : UUID) :
    (db.markPublished ids moment).outbox.get? id =
      (db.outbox.get? id).map fun row => if id ∈ ids then row.marked moment else row := by
  simp only [MessageDatabase.markPublished, Table.get?_map]
  cases found : db.outbox.get? id with
  | none => rfl
  | some row =>
    have same : row.id = id := Table.key_of_get? found
    simp only [Option.map_some, same]

theorem covers_markPublished {ids : List UUID} {held : List MessageLock} (moment : Datetime)
    (locked : ∀ id ∈ ids, .outbox id ∈ held) :
    outboxIsolation.Covers held (MessageDatabase.markPublished ids moment) := by
  intro l outside db
  cases l with
  | outbox id =>
    have other : id ∉ ids := fun mem => outside (locked id mem)
    change db.outbox.get? id = (db.markPublished ids moment).outbox.get? id
    rw [get?_markPublished]
    simp [other]
  | notificationEvent eventId => exact fun _ _ _ => Iff.rfl
  | inbox | notification | preference => rfl

theorem step_markPublished (ids : List UUID) (moment : Datetime) (db : MessageDatabase) :
    db.Step (db.markPublished ids moment) := by
  refine ⟨fun id row found => ?_, fun _ _ found => found⟩
  rw [get?_markPublished, found]
  refine ⟨_, rfl, ?_⟩
  split <;> exact ⟨rfl, rfl, rfl⟩

theorem wp_flushMarks (publishedAt : Datetime) (batchSize : Int) {ids : List UUID} (inFlight : InFlight p db)
    (confirmed : ∀ call ∈ p.calls, call.2 = .confirmed) (published : ids = p.calls.map fun call => call.1.id)
    (untouched : p.write = id) :
    Script.wp (OutboxJob.relay publishedAt batchSize).spec (do
      Script.perform (flushMarks ids publishedAt)
      pure ids) p db := by
  have valid : outboxIsolation.valid db := trivial
  refine Script.wp_bind valid (Script.wp_perform inFlight fun begun now locked before during _ => ?_)
  have flying := inFlight.later (before.trans during)
  simp only [flushMarks]
  split_ifs
  next =>
    refine ⟨covers_markPublished publishedAt fun id mem => ?_, flying.finish _ _, fun later after => ?_⟩
    · exact List.mem_append_left _ (List.mem_map.mpr ⟨id, mem, rfl⟩)
    · refine Script.wp_pure ((flying.finish _ _).later after) fun last _ => ⟨confirmed, published, ?_⟩
      simp only [Progress.finish, untouched, Function.comp_id]
  next => exact fun _ _ => trivial

theorem inFlight_rows {rows : List OutboxRow} (nodup : (rows.map OutboxRow.id).Nodup)
    (calls : p.calls = rows.map fun row => (row.event, .confirmed)) (held : ∀ row ∈ rows, .outbox row.id ∈ p.held)
    (pending : ∀ row ∈ rows, db.outbox.get? row.id = some row ∧ row.pending = true) : InFlight p db := by
  have each : ∀ call ∈ p.calls, ∃ row ∈ rows, call = (row.event, .confirmed) := by
    intro call mem
    rw [calls] at mem
    obtain ⟨row, inRows, same⟩ := List.mem_map.mp mem
    exact ⟨row, inRows, same.symm⟩
  refine ⟨?_, fun call mem => ?_, fun call mem => ?_⟩
  · rw [calls, List.map_map]
    exact nodup
  · obtain ⟨row, inRows, rfl⟩ := each call mem
    exact held row inRows
  · obtain ⟨row, inRows, rfl⟩ := each call mem
    exact ⟨row, (pending row inRows).1, (pending row inRows).2, rfl⟩

theorem wp_publishPendingOutbox (publishedAt : Datetime) (batchSize : Int) (db : MessageDatabase) :
    Script.wp (OutboxJob.relay publishedAt batchSize).spec (publishPendingOutbox true publishedAt batchSize) {} db := by
  have start : InFlight {} db := ⟨List.nodup_nil, fun _ mem => (by cases mem), fun _ mem => (by cases mem)⟩
  have valid : ∀ db, outboxIsolation.valid db := fun _ => trivial
  unfold publishPendingOutbox
  rw [if_neg (by simp)]
  split
  next => exact Script.wp_raise start fun _ _ => trivial
  next =>
    refine Script.wp_bind (valid db) (Script.wp_perform start fun begun now locked before during _ => ?_)
    rw [selectPending_eq]
    have nodup : ((lockedRows batchSize.toNat locked begun now).map OutboxRow.id).Nodup := nodup_lockedRows _
    have selected : ∀ row ∈ lockedRows batchSize.toNat locked begun now,
        now.outbox.get? row.id = some row ∧ row.pending = true := fun row => mem_lockedRows
    simp only [id]
    generalize lockedRows batchSize.toNat locked begun now = rows at nodup selected
    have held : ∀ row ∈ rows, .outbox row.id ∈ (rows.map fun row => MessageLock.outbox row.id) ++ [] := by
      intro row mem
      simpa using ⟨row, mem, rfl⟩
    have still : ∀ {later}, outboxIsolation.Later ((rows.map fun row => MessageLock.outbox row.id) ++ []) now later →
        ∀ row ∈ rows, later.outbox.get? row.id = some row ∧ row.pending = true :=
      fun after => pending_later after held selected
    refine ⟨fun l _ db => outboxIsolation.agree_refl l db, ?_, fun later after => ?_⟩
    · exact ⟨List.nodup_nil, fun _ mem => (by cases mem), fun _ mem => (by cases mem)⟩
    refine Script.wp_bind (valid later) (wp_publishRows rfl (fun _ _ _ => trivial) rows [] ?_ ?_ held (still after)
      fun last after' => ?_)
    · exact ⟨List.nodup_nil, fun _ mem => (by cases mem), fun _ mem => (by cases mem)⟩
    · exact nodup
    have published := still (after.trans after')
    refine wp_flushMarks publishedAt batchSize (inFlight_rows nodup rfl held published) (fun call mem => ?_) ?_ rfl
    · obtain ⟨row, _, rfl⟩ := List.mem_map.mp mem
      rfl
    · simp [Progress.finish, OutboxRow.event]

theorem inserts_addOutbox (event : OutboxEvent) (createdAt : Datetime) :
    AddsPending (MessageDatabase.addOutbox (event.row createdAt)) := by
  refine fun db => ⟨MessageDatabase.step_addOutbox db _, fun id row found => Table.get?_insert_of_some found, ?_⟩
  intro id row found
  simp only [MessageDatabase.addOutbox, Table.insert] at found
  split at found
  next => exact .inl found
  next =>
    rw [Table.get?_put] at found
    split at found
    next =>
      obtain rfl := Option.some.inj found
      exact .inr rfl
    next => exact .inl found

theorem AddsPending.comp {write write' : MessageDatabase → MessageDatabase} (h : AddsPending write)
    (h' : AddsPending write') :
    AddsPending (write' ∘ write) := by
  intro db
  obtain ⟨step, kept, added⟩ := h db
  obtain ⟨step', kept', added'⟩ := h' (write db)
  refine ⟨step.trans step', fun id row found => kept' id row (kept id row found), fun id row found => ?_⟩
  rcases added' id row found with old | new
  · exact added id row old
  · exact .inr new

theorem wp_insertEvents (all events : List (OutboxEvent × Datetime)) (calls : p.calls = [])
    (inserts : AddsPending p.write)
    (db : MessageDatabase) : Script.wp (OutboxJob.insert all).spec (insertEvents events) p db := by
  have silent : ∀ {q : RelayProgress} {db}, q.calls = [] → InFlight q db := by
    intro q db none
    refine ⟨?_, ?_, ?_⟩ <;> simp [none]
  induction events generalizing p db with
  | nil => exact Script.wp_pure (silent calls) fun _ _ => ⟨calls, inserts⟩
  | cons event rest ih =>
    have valid : outboxIsolation.valid db := trivial
    refine Script.wp_bind valid (wp_insertMessage (silent calls) ?_ (fun _ _ _ _ _ _ _ _ => trivial) ?_)
    · exact MessageDatabase.covers_addOutbox (List.mem_cons_self ..)
    · intro start now before during _
      have inserts' := inserts.comp (inserts_addOutbox event.1 event.2)
      refine ⟨silent calls, fun later after => ?_⟩
      exact ih (p := ⟨_, MessageDatabase.addOutbox (event.1.row event.2) ∘ p.write, _, p.calls⟩) calls inserts' later

theorem outbox_verified (job : OutboxJob) (db : MessageDatabase) : Script.wp job.spec job.body {} db := by
  cases job with
  | relay publishedAt batchSize => exact wp_publishPendingOutbox publishedAt batchSize db
  | insert events =>
    refine wp_insertEvents events events rfl (fun db => ⟨.refl db, fun _ _ found => found, ?_⟩) db
    exact fun _ _ found => .inl found

theorem outbox_promise {job : OutboxJob} {ids : List UUID} (ended : job.spec.ending (.ok ids) p db) :
    db.Step (p.write db) := by
  cases job with
  | relay publishedAt batchSize =>
    rw [ended.2.2]
    exact step_markPublished ids publishedAt db
  | insert events => exact (ended.2 db).1

end

end DeliveryService
