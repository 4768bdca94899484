import DeliveryService.Migrations
import DeliveryService.RelayDelivery

namespace DeliveryService

/-- How the values of the outbox are stored in cells. -/
structure OutboxCodec (V : Type) [Ddl.SqlValue V] where
  uuid : UUID → V
  text : String → V
  payload : Payload → V
  moment : Datetime → V
  moment_ne_null : ∀ value, moment value ≠ Ddl.SqlValue.null

/-- A row of the outbox before `0004_outbox_relay`. -/
structure LegacyOutboxRow where
  id : UUID
  eventType : String
  payload : Payload
  processedAt : Option Datetime
deriving DecidableEq

section

variable {V : Type} [Ddl.SqlValue V] (codec : OutboxCodec V)

def OutboxCodec.moment? : Option Datetime → V
  | none => Ddl.SqlValue.null
  | some value => codec.moment value

def LegacyOutboxRow.cells (row : LegacyOutboxRow) : Ddl.Row V :=
  [("id", codec.uuid row.id), ("event_type", codec.text row.eventType), ("payload", codec.payload row.payload),
    ("processed_at", codec.moment? row.processedAt)]

def OutboxRow.cells (row : OutboxRow) : Ddl.Row V :=
  [("id", codec.uuid row.id), ("event_type", codec.text row.eventType), ("payload", codec.payload row.payload),
    ("processed_at", codec.moment? row.legacyProcessedAt), ("published_at", codec.moment? row.publishedAt),
    ("created_at", codec.moment row.createdAt)]

/-- The row as the migration leaves it. -/
def LegacyOutboxRow.upgraded (now : Datetime) (row : LegacyOutboxRow) : OutboxRow where
  id := row.id
  eventType := row.eventType
  payload := row.payload
  createdAt := now
  legacyProcessedAt := row.processedAt
  publishedAt := row.processedAt

/-- What the previous image sees of a row. -/
def OutboxRow.legacy (row : OutboxRow) : LegacyOutboxRow := ⟨row.id, row.eventType, row.payload, row.legacyProcessedAt⟩

variable [DecidableEq V] {codec} {evaluate : ServerDefault → V}

theorem upgradeOps_outbox : upgradeOps 3 4 = revision0004.upgrade := rfl

theorem onRow_outbox {now : Datetime} (clock : evaluate .now = codec.moment now) (row : LegacyOutboxRow) :
    (upgradeOps 3 4).foldl (fun cells op => op.onRow evaluate "outbox" cells) (row.cells codec) =
      (row.upgraded now).cells codec := by
  obtain ⟨id, eventType, payload, processedAt⟩ := row
  simp [upgradeOps_outbox, revision0004, Ddl.Op.onRow, LegacyOutboxRow.cells, OutboxRow.cells,
    LegacyOutboxRow.upgraded, SqlType.optional, SqlType.required, Ddl.Column.initial, clock, Ddl.Row.overwrite,
    Ddl.Row.value, Ddl.Row.lookup_cons]

omit [DecidableEq V] in
theorem restrict_cells (row : OutboxRow) :
    (row.cells codec).restrict ["id", "event_type", "payload", "processed_at"] = row.legacy.cells codec := by
  simp [Ddl.Row.restrict, OutboxRow.cells, OutboxRow.legacy, LegacyOutboxRow.cells, Ddl.Row.value, Ddl.Row.lookup_cons]

omit [DecidableEq V] in
theorem processed_null_iff (row : LegacyOutboxRow) :
    (row.cells codec).value "processed_at" = Ddl.SqlValue.null ↔ row.processedAt = none := by
  have cell : (row.cells codec).value "processed_at" = codec.moment? row.processedAt := by
    simp [LegacyOutboxRow.cells, Ddl.Row.value, Ddl.Row.lookup_cons]
  rw [cell]
  cases row.processedAt with
  | none => simp [OutboxCodec.moment?]
  | some value => simp [OutboxCodec.moment?, codec.moment_ne_null value]

/-- The backfill of the migration, over a whole table. -/
theorem rowsOf_upgrade {now : Datetime} (clock : evaluate .now = codec.moment now) {db upgraded : ServiceDatabase V}
    {legacy : List LegacyOutboxRow} (stored : db.rowsOf "outbox" = legacy.map fun row => row.cells codec)
    (ran : alembicUpgrade evaluate 3 4 db = some upgraded) :
    upgraded.rowsOf "outbox" = legacy.map fun row => (row.upgraded now).cells codec := by
  have each : ∀ op ∈ upgradeOps 3 4, op.rowwise = true := by decide
  rw [Ddl.rowsOf_run each ran, stored, List.map_map]
  exact List.map_congr_left fun row _ => onRow_outbox clock row

theorem rowsOf_downgrade {db : ServiceDatabase V} (revision : db.catalog = catalogAt 4) {rows : List OutboxRow}
    (stored : db.rowsOf "outbox" = rows.map fun row => row.cells codec) :
    ∃ older, alembicDowngrade evaluate 4 3 db = some older ∧
      older.rowsOf "outbox" = rows.map fun row => row.legacy.cells codec := by
  have known : ∃ s ∈ catalogAt 3, s.name = "outbox" ∧ s.columnNames = ["id", "event_type", "payload", "processed_at"] := by
    decide +kernel
  obtain ⟨s, mem, named, columns⟩ := known
  refine ⟨_, alembicDowngrade_eq (by decide) (by decide) revision evaluate, ?_⟩
  have shown := Ddl.Tables.rowsOf_restrict (distinct_catalogAt 3 (by decide)).1 mem db
  rw [named, columns, stored, List.map_map] at shown
  rw [shown]
  exact List.map_congr_left fun row _ => restrict_cells row

end

/-- Both marks say the same. -/
def OutboxRow.Paired (row : OutboxRow) : Prop := row.publishedAt = row.legacyProcessedAt

theorem OutboxRow.paired_of_pending {row : OutboxRow} (pending : row.pending = true) : row.Paired := by
  simp only [OutboxRow.pending, Bool.and_eq_true, decide_eq_true_eq] at pending
  rw [OutboxRow.Paired, pending.1, pending.2]

theorem OutboxRow.Paired.pending_iff {row : OutboxRow} (paired : row.Paired) :
    row.legacyProcessedAt = none ↔ row.pending = true := by
  rw [OutboxRow.Paired] at paired
  simp [OutboxRow.pending, paired]

section

variable {κ : Type} [DecidableEq κ] {σ : RelaySite κ} {start : MessageDatabase}
  {trace : List (Transition (RelaySite κ) (RelayEvent κ))}

theorem paired_of_commit {p : RelayProgress} {db : MessageDatabase} {job : OutboxJob} {ids : List UUID}
    (ended : job.spec.ending (.ok ids) p db) (paired : ∀ id row, db.outbox.get? id = some row → row.Paired) :
    ∀ id row, (p.write db).outbox.get? id = some row → row.Paired := by
  intro id row found
  cases job with
  | insert events =>
    rcases (ended.2 db).2.2 id row found with old | new
    · exact paired id row old
    · exact OutboxRow.paired_of_pending new
  | relay publishedAt batchSize =>
    rw [ended.2.2, get?_markPublished] at found
    obtain ⟨before, stored, rfl⟩ := Option.map_eq_some_iff.mp found
    split_ifs
    · rfl
    · exact paired id before stored

/-- The dual write keeps both columns equal, whatever is interleaved. -/
theorem paired_of_run (run : Exec (Site.Step OutboxJob.body broker) (Site.quiet start []) trace σ)
    (paired : ∀ id row, start.outbox.get? id = some row → row.Paired) :
    ∀ id row, σ.db.outbox.get? id = some row → row.Paired := by
  induction run with
  | start => exact paired
  | @next trace s l s' previous taken ih =>
    have sound := (sound_of_outbox_run (previous.next taken) (List.mem_append_right _ (List.mem_singleton.mpr rfl))).1
    cases taken with
    | begin | start | finish | fail | call | rollback | crash => exact ih
    | @commit k session ids active shape =>
      exact paired_of_commit ((sound.onTrack k session active).ending (r := .ok ids) shape) ih

theorem settled_of_run (run : Exec (Site.Step OutboxJob.body broker) (Site.quiet start []) trace σ) {id : UUID}
    {row : OutboxRow} (found : start.outbox.get? id = some row) (settled : row.pending = false) :
    σ.db.outbox.get? id = some row := by
  induction run with
  | start => exact found
  | @next trace s l s' previous taken ih =>
    have sound := (sound_of_outbox_run (previous.next taken) (List.mem_append_right _ (List.mem_singleton.mpr rfl))).1
    cases taken with
    | begin | start | finish | fail | call | rollback | crash => exact ih
    | @commit k session ids active shape =>
      have track := sound.onTrack k session active
      exact get?_commit_of_not_pending track.always (track.ending (r := .ok ids) shape) ih settled

/-- A stored event is never lost: what each step keeps is there at the end. -/
theorem event_kept {s s' : RelaySite κ} {later : List (Transition (RelaySite κ) (RelayEvent κ))}
    (rest : Exec (Site.Step OutboxJob.body broker) s later s')
    (each : ∀ t ∈ later, ∀ id row, t.pre.db.outbox.get? id = some row →
      ∃ row', t.post.db.outbox.get? id = some row' ∧ row'.event = row.event)
    {id : UUID} {row : OutboxRow} (found : s.db.outbox.get? id = some row) :
    ∃ row', s'.db.outbox.get? id = some row' ∧ row'.event = row.event := by
  induction rest with
  | start => exact ⟨row, found, rfl⟩
  | next previous taken ih =>
    obtain ⟨before, stored, same⟩ := ih fun t ht => each t (List.mem_append_left _ ht)
    obtain ⟨after, kept, still⟩ := each _ (List.mem_append_right _ (List.mem_singleton.mpr rfl)) id before stored
    exact ⟨after, kept, still.trans same⟩

theorem event_of_run (run : Exec (Site.Step OutboxJob.body broker) (Site.quiet start []) trace σ) {id : UUID}
    {row : OutboxRow} (found : start.outbox.get? id = some row ∨ ∃ t ∈ trace, t.post.db.outbox.get? id = some row) :
    ∃ row', σ.db.outbox.get? id = some row' ∧ row'.event = row.event := by
  have each : ∀ t ∈ trace, ∀ id row, t.pre.db.outbox.get? id = some row →
      ∃ row', t.post.db.outbox.get? id = some row' ∧ row'.event = row.event := by
    intro t ht id row stored
    obtain ⟨row', kept, same, _⟩ := outboxRow_kept run ht stored
    exact ⟨row', kept, same⟩
  rcases found with first | ⟨t, ht, later⟩
  · exact event_kept run each first
  · obtain ⟨before, after, shape⟩ := List.append_of_mem ht
    have rest := (shape ▸ run : Exec _ _ (before ++ t :: after) σ).split.2.2
    exact event_kept rest (fun u hu => each u (shape ▸ List.mem_append_right _ (List.mem_cons_of_mem _ hu))) later

theorem not_pending_of_marked (run : Exec (Site.Step OutboxJob.body broker) (Site.quiet start []) trace σ) {id : UUID}
    {marked row : OutboxRow} (mark : MarkedIn trace id marked) (found : σ.db.outbox.get? id = some row) :
    row.pending = false := by
  obtain ⟨t, mem, k, session, ids, label, _, confirmed, _, stored⟩ := mark
  have own : marked.id = id := Table.key_of_get? stored
  have sent : committedWith id t.label = true := by
    rw [label]
    exact handed_iff.mpr ⟨_, confirmed, own, rfl⟩
  obtain ⟨row', found', settled⟩ := (bounded_of_run id run).marked (List.countP_pos_iff.mpr ⟨t, mem, sent⟩)
  obtain rfl := Option.some.inj (found.symm.trans found')
  exact settled

end

/-- The rollback window of `0004_outbox_relay`. The migration carries every old mark over; then, whatever transactions
run and wherever they fail, no stored event is lost, a row is pending for the new relay exactly while it was not
processed before and no committed relay has marked it, and the downgrade leaves `processed_at` empty in exactly these
rows. -/
theorem outbox_window {V : Type} [Ddl.SqlValue V] [DecidableEq V] (codec : OutboxCodec V) {evaluate : ServerDefault → V}
    {now : Datetime} (clock : evaluate .now = codec.moment now) {db : ServiceDatabase V}
    (revision : db.catalog = catalogAt 3) {legacy : List LegacyOutboxRow}
    (stored : db.rowsOf "outbox" = legacy.map fun row => row.cells codec) :
    ∃ upgraded, alembicUpgrade evaluate 3 4 db = some upgraded ∧
      (upgraded.rowsOf "outbox" = legacy.map fun row => (row.upgraded now).cells codec) ∧
      ∀ (κ : Type) [DecidableEq κ] (start : MessageDatabase) trace (σ : RelaySite κ),
        start.outbox.toList = legacy.map (fun row => row.upgraded now) →
        Exec (Site.Step OutboxJob.body broker) (Site.quiet start []) trace σ →
        (∀ old ∈ legacy, ∃ row, σ.db.outbox.get? old.id = some row ∧ row.event = ⟨old.id, old.eventType, old.payload⟩) ∧
        (∀ t ∈ trace, ∀ id row, t.post.db.outbox.get? id = some row →
          ∃ row', σ.db.outbox.get? id = some row' ∧ row'.event = row.event) ∧
        (∀ id row, σ.db.outbox.get? id = some row →
          (row.pending = true ↔ (∀ old ∈ legacy, old.id = id → old.processedAt = none) ∧ ¬ ∃ row, MarkedIn trace id row) ∧
          ((row.legacy.cells codec).value "processed_at" = Ddl.SqlValue.null ↔ row.pending = true)) ∧
        ∀ current : ServiceDatabase V, current.catalog = catalogAt 4 →
          (current.rowsOf "outbox" = σ.db.outbox.toList.map fun row => row.cells codec) →
          ∃ older, alembicDowngrade evaluate 4 3 current = some older ∧
            older.rowsOf "outbox" = σ.db.outbox.toList.map fun row => row.legacy.cells codec := by
  obtain ⟨upgraded, ran⟩ : ∃ upgraded, alembicUpgrade evaluate 3 4 db = some upgraded :=
    Option.isSome_iff_exists.mp <|
      (isSome_alembicUpgrade (by decide) (by decide) revision evaluate).mpr fun first => absurd first (by decide)
  refine ⟨upgraded, ran, rowsOf_upgrade clock stored ran, fun κ _ start trace σ begun run => ?_⟩
  have carried : ∀ old ∈ legacy, start.outbox.get? old.id = some (old.upgraded now) := by
    intro old mem
    exact Table.mem_toList.mp (begun ▸ List.mem_map_of_mem mem)
  have origin : ∀ id row, start.outbox.get? id = some row → ∃ old ∈ legacy, old.id = id ∧ old.upgraded now = row := by
    intro id row found
    have own : row.id = id := Table.key_of_get? found
    have mem : row ∈ start.outbox.toList := Table.mem_toList.mpr (own ▸ found)
    rw [begun] at mem
    obtain ⟨old, listed, rfl⟩ := List.mem_map.mp mem
    exact ⟨old, listed, own, rfl⟩
  have paired : ∀ id row, σ.db.outbox.get? id = some row → row.Paired := by
    refine paired_of_run run fun id row found => ?_
    obtain ⟨old, _, _, rfl⟩ := origin id row found
    rfl
  refine ⟨fun old mem => ?_, fun t ht id row found => ?_, fun id row found => ⟨⟨fun pending => ⟨fun old mem same => ?_, ?_⟩, ?_⟩, ?_⟩,
    fun current revision stored => rowsOf_downgrade revision stored⟩
  · exact event_of_run run (.inl (carried old mem))
  · exact event_of_run run (.inr ⟨t, ht, found⟩)
  · subst same
    by_contra processed
    have settled : (old.upgraded now).pending = false := by
      simp [OutboxRow.pending, LegacyOutboxRow.upgraded, processed]
    obtain rfl := Option.some.inj (found.symm.trans (settled_of_run run (carried old mem) settled))
    rw [settled] at pending
    cases pending
  · rintro ⟨marked, mark⟩
    rw [not_pending_of_marked run mark found] at pending
    cases pending
  · rintro ⟨unprocessed, unmarked⟩
    rcases origin_of_row run found with pending | first | mark
    · exact pending
    · obtain ⟨old, mem, same, rfl⟩ := origin id row first
      simp [OutboxRow.pending, LegacyOutboxRow.upgraded, unprocessed old mem same]
    · exact absurd ⟨row, mark⟩ unmarked
  · rw [processed_null_iff]
    exact (paired id row found).pending_iff

inductive OutboxCell
  | null
  | uuid (value : UUID)
  | text (value : String)
  | payload (value : Payload)
  | moment (value : Datetime)
deriving DecidableEq

instance instSqlValueOutboxCell : Ddl.SqlValue OutboxCell := ⟨.null, fun _ => false⟩

def outboxCodec : OutboxCodec OutboxCell := ⟨.uuid, .text, .payload, .moment, fun _ same => by cases same⟩

/-- The server evaluates its defaults at a moment. -/
def evaluateAt (now : Datetime) : ServerDefault → OutboxCell
  | .text value => .text value
  | .true => .text "true"
  | .now => .moment now

/-- An event that the previous relay has published, and one that waits. -/
def twoEvents : List LegacyOutboxRow :=
  [⟨1, "order.created", [], some (Generated.numbered 1).now⟩, ⟨2, "order.created", [], none⟩]

def thirdDatabase : ServiceDatabase OutboxCell :=
  (catalogAt 3).map fun s => Ddl.Table.restrict s <|
    if s.name = "outbox" then twoEvents.map fun row => row.cells outboxCodec else []

theorem two_events_window : ∃ upgraded,
    alembicUpgrade (evaluateAt (Generated.numbered 2).now) 3 4 thirdDatabase = some upgraded ∧
      ∃ trace, ∃ σ : RelaySite Bool, Exec (Site.Step OutboxJob.body broker)
        (Site.quiet ((MessageDatabase.empty.addOutbox (twoEvents[0].upgraded (Generated.numbered 2).now)).addOutbox
          (twoEvents[1].upgraded (Generated.numbered 2).now)) []) trace σ ∧
        (∃ row, σ.db.outbox.get? 1 = some row ∧ row.legacy.processedAt = some (Generated.numbered 1).now) ∧
        (∃ row, σ.db.outbox.get? 2 = some row ∧ row.legacy.processedAt ≠ none) ∧ ∃ row, MarkedIn trace 2 row := by
  have revision : thirdDatabase.catalog = catalogAt 3 := by
    rw [thirdDatabase, Ddl.Tables.catalog, List.map_map]
    exact List.map_id _
  have stored : thirdDatabase.rowsOf "outbox" = twoEvents.map fun row => row.cells outboxCodec := by decide +kernel
  obtain ⟨upgraded, ran, _, window⟩ :=
    outbox_window outboxCodec (show evaluateAt (Generated.numbered 2).now .now = _ from rfl) revision stored
  have follows : broker.Follows (fun event log => (.confirmed, log ++ [event])) fun _ => True :=
    ⟨fun _ _ _ => trivial, fun _ _ _ => rfl, fun _ _ _ => trivial⟩
  obtain ⟨trace, run, _⟩ := Site.exec_transact OutboxJob.body follows true (.relay (Generated.numbered 3).now 50)
    ((MessageDatabase.empty.addOutbox (twoEvents[0].upgraded (Generated.numbered 2).now)).addOutbox
      (twoEvents[1].upgraded (Generated.numbered 2).now)) trivial
  obtain ⟨_, _, rows, _⟩ := window Bool _ trace _ rfl run
  refine ⟨upgraded, ran, trace, _, run, ⟨_, rfl, rfl⟩, ⟨_, rfl, by decide⟩, ?_⟩
  by_contra unmarked
  have pending := (rows 2 _ rfl).1.mpr ⟨by decide, unmarked⟩
  revert pending
  decide

end DeliveryService
