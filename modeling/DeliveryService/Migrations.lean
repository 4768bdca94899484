import DeliveryService.Ddl
import Mathlib.Order.Nat

namespace DeliveryService

open Ddl

inductive SqlType
  | uuid
  | string (length : Nat)
  | integer
  | float
  | boolean
  | json
  | timestamptz
deriving DecidableEq

/-- `server_default` -/
inductive ServerDefault
  | text (value : String)
  | true
  | now
deriving DecidableEq

abbrev MigrationOp := Op SqlType ServerDefault

abbrev TableSchema := Schema SqlType ServerDefault

abbrev SqlColumn := Column SqlType ServerDefault

def SqlType.required (type : SqlType) (name : String) (default : Option ServerDefault := none) : SqlColumn :=
  { name, type, nullable := false, default }

def SqlType.optional (type : SqlType) (name : String) : SqlColumn := { name, type, nullable := true }

/-- One file of `alembic/versions`. -/
structure Revision where
  revision : String
  downRevision : Option String
  upgrade : List MigrationOp
  downgrade : List MigrationOp

def statusValues : String := "('created','assigned','picked_up','delivered','cancelled')"

def revision0001 : Revision where
  revision := "0001"
  downRevision := none
  upgrade := [
    .createTable {
      name := "delivery_order"
      columns := [
        SqlType.uuid.required "id",
        SqlType.uuid.required "customer_id",
        (SqlType.string 300).required "pickup_address",
        (SqlType.string 300).required "destination_address",
        SqlType.integer.required "weight_grams",
        (SqlType.string 32).required "status",
        SqlType.integer.required "version" (some (.text "1")),
        SqlType.timestamptz.required "created_at"]
      primaryKey := ["id"]
      checks := [
        ⟨"ck_order_weight", "weight_grams > 0 AND weight_grams <= 100000", ["weight_grams"]⟩,
        ⟨"ck_order_status", "status IN " ++ statusValues, ["status"]⟩,
        ⟨"ck_order_version", "version > 0", ["version"]⟩] },
    .createIndex "delivery_order" { name := "ix_delivery_order_customer_id", columns := ["customer_id"] },
    .createTable {
      name := "courier_assignment"
      columns := [
        SqlType.uuid.required "id",
        SqlType.uuid.required "order_id",
        SqlType.uuid.required "courier_id",
        SqlType.boolean.required "active" (some .true)]
      primaryKey := ["id"]
      foreignKeys := [⟨some "fk_assignment_order", ["order_id"], "delivery_order", ["id"], some "CASCADE"⟩] },
    .createIndex "courier_assignment" { name := "ix_courier_assignment_courier_id", columns := ["courier_id"] },
    .createTable {
      name := "idempotency_record"
      columns := [
        (SqlType.string 200).required "key",
        (SqlType.string 100).required "operation",
        SqlType.uuid.required "resource_id",
        SqlType.json.required "response",
        SqlType.timestamptz.required "created_at"]
      primaryKey := ["key"] },
    .createTable {
      name := "outbox"
      columns := [
        SqlType.uuid.required "id",
        (SqlType.string 100).required "event_type",
        SqlType.json.required "payload",
        SqlType.timestamptz.optional "processed_at"]
      primaryKey := ["id"] },
    .createTable {
      name := "consumer_inbox"
      columns := [
        SqlType.uuid.required "event_id",
        (SqlType.string 100).required "event_type",
        SqlType.timestamptz.required "processed_at"]
      primaryKey := ["event_id"] },
    .createTable {
      name := "delivery_notification"
      columns := [
        SqlType.uuid.required "id",
        SqlType.uuid.required "event_id",
        SqlType.uuid.required "order_id",
        (SqlType.string 300).required "message"]
      primaryKey := ["id"]
      uniques := [⟨none, ["event_id"]⟩]
      foreignKeys := [⟨none, ["event_id"], "consumer_inbox", ["event_id"], some "CASCADE"⟩] },
    .createIndex "delivery_notification" { name := "ix_delivery_notification_order_id", columns := ["order_id"] },
    .createTable {
      name := "identity"
      columns := [
        (SqlType.string 100).required "subject",
        (SqlType.string 300).required "password_hash"]
      primaryKey := ["subject"] },
    .createTable {
      name := "refresh_session"
      columns := [
        SqlType.uuid.required "jti",
        SqlType.uuid.required "family_id",
        (SqlType.string 100).required "subject",
        SqlType.timestamptz.required "expires_at",
        SqlType.timestamptz.optional "used_at",
        SqlType.timestamptz.optional "revoked_at",
        SqlType.uuid.optional "replacement_jti"]
      primaryKey := ["jti"] },
    .createIndex "refresh_session" { name := "ix_refresh_session_family_id", columns := ["family_id"] },
    .createIndex "refresh_session" { name := "ix_refresh_session_subject", columns := ["subject"] }]
  downgrade := [
    .dropIndex "refresh_session" "ix_refresh_session_subject",
    .dropIndex "refresh_session" "ix_refresh_session_family_id",
    .dropTable "refresh_session",
    .dropTable "identity",
    .dropIndex "delivery_notification" "ix_delivery_notification_order_id",
    .dropTable "delivery_notification",
    .dropTable "consumer_inbox",
    .dropTable "outbox",
    .dropTable "idempotency_record",
    .dropIndex "courier_assignment" "ix_courier_assignment_courier_id",
    .dropTable "courier_assignment",
    .dropIndex "delivery_order" "ix_delivery_order_customer_id",
    .dropTable "delivery_order"]

/-- The indexes of `0002_operational_indexes`, each with its table. -/
def operationalIndexes : List (String × Index) := [
  ("delivery_order", { name := "ix_delivery_order_status_created", columns := ["status", "created_at", "id"] }),
  ("courier_assignment",
    { name := "uq_active_assignment_order", columns := ["order_id"], unique := true, filter := some "active" }),
  ("courier_assignment",
    { name := "uq_active_assignment_courier", columns := ["courier_id"], unique := true, filter := some "active" }),
  ("idempotency_record", { name := "ix_idempotency_record_resource_id", columns := ["resource_id"] })]

def revision0002 : Revision where
  revision := "0002"
  downRevision := some "0001"
  upgrade := operationalIndexes.map fun new => .createIndex new.1 new.2
  downgrade := [
    .dropIndex "idempotency_record" "ix_idempotency_record_resource_id",
    .dropIndex "courier_assignment" "uq_active_assignment_courier",
    .dropIndex "courier_assignment" "uq_active_assignment_order",
    .dropIndex "delivery_order" "ix_delivery_order_status_created"]

def defaultTenant : String := "00000000-0000-0000-0000-000000000001"

def revision0003 : Revision where
  revision := "0003"
  downRevision := some "0002"
  upgrade := [
    .addColumn "delivery_order" (SqlType.uuid.required "tenant_id" (some (.text defaultTenant))),
    .createIndex "delivery_order" { name := "ix_delivery_order_tenant_id", columns := ["tenant_id"] },
    .addColumn "identity" (SqlType.uuid.required "tenant_id" (some (.text defaultTenant))),
    .createIndex "identity" { name := "ix_identity_tenant_id", columns := ["tenant_id"] }]
  downgrade := [
    .dropIndex "identity" "ix_identity_tenant_id",
    .dropColumn "identity" "tenant_id",
    .dropIndex "delivery_order" "ix_delivery_order_tenant_id",
    .dropColumn "delivery_order" "tenant_id"]

def revision0004 : Revision where
  revision := "0004"
  downRevision := some "0003"
  upgrade := [
    .addColumn "outbox" (SqlType.timestamptz.optional "published_at"),
    .addColumn "outbox" (SqlType.timestamptz.required "created_at" (some .now)),
    .backfill "outbox" "published_at" "processed_at",
    .createIndex "outbox"
      { name := "ix_outbox_pending_created", columns := ["published_at", "processed_at", "created_at", "id"] }]
  downgrade := [
    .dropIndex "outbox" "ix_outbox_pending_created",
    .dropColumn "outbox" "created_at",
    .dropColumn "outbox" "published_at"]

def revision0005 : Revision where
  revision := "0005"
  downRevision := some "0004"
  upgrade := [
    .addColumn "delivery_notification" ((SqlType.string 20).required "channel" (some (.text "email"))),
    .addColumn "delivery_notification" ((SqlType.string 20).required "status" (some (.text "pending"))),
    .addColumn "delivery_notification" ((SqlType.string 200).optional "provider_message_id"),
    .addColumn "delivery_notification" (SqlType.timestamptz.optional "sent_at"),
    .createTable {
      name := "notification_preference"
      columns := [
        SqlType.uuid.required "id",
        SqlType.uuid.required "tenant_id",
        SqlType.uuid.required "user_id",
        (SqlType.string 20).required "channel",
        SqlType.boolean.required "enabled" (some .true)]
      primaryKey := ["id"]
      checks := [⟨"ck_notification_channel", "channel IN ('email','telegram')", ["channel"]⟩]
      uniques := [⟨some "uq_notification_preference", ["tenant_id", "user_id", "channel"]⟩] },
    .createTable {
      name := "proof_metadata"
      columns := [
        SqlType.uuid.required "id",
        SqlType.uuid.required "tenant_id",
        SqlType.uuid.required "order_id",
        (SqlType.string 300).required "object_key",
        (SqlType.string 20).required "proof_kind",
        (SqlType.string 100).required "media_type",
        SqlType.integer.required "size_bytes",
        (SqlType.string 64).required "sha256",
        SqlType.timestamptz.required "created_at"]
      primaryKey := ["id"]
      checks := [
        ⟨"ck_proof_metadata_kind", "proof_kind IN ('pickup','delivery')", ["proof_kind"]⟩,
        ⟨"ck_proof_metadata_size", "size_bytes > 0", ["size_bytes"]⟩]
      uniques := [
        ⟨some "uq_proof_metadata_object_key", ["object_key"]⟩,
        ⟨some "uq_proof_metadata_digest", ["tenant_id", "order_id", "sha256"]⟩]
      foreignKeys := [⟨some "fk_proof_metadata_order", ["order_id"], "delivery_order", ["id"], some "CASCADE"⟩] },
    .createIndex "proof_metadata"
      { name := "ix_proof_metadata_order_created", columns := ["tenant_id", "order_id", "created_at"] }]
  downgrade := [
    .dropIndex "proof_metadata" "ix_proof_metadata_order_created",
    .dropTable "proof_metadata",
    .dropTable "notification_preference",
    .dropColumn "delivery_notification" "sent_at",
    .dropColumn "delivery_notification" "provider_message_id",
    .dropColumn "delivery_notification" "status",
    .dropColumn "delivery_notification" "channel"]

def revision0006 : Revision where
  revision := "0006"
  downRevision := some "0005"
  upgrade := [
    .createTable {
      name := "order_transition_history"
      columns := [
        SqlType.uuid.required "event_id",
        SqlType.uuid.required "tenant_id",
        SqlType.uuid.required "order_id",
        (SqlType.string 32).required "from_status",
        (SqlType.string 32).required "to_status",
        SqlType.integer.required "order_version",
        SqlType.uuid.required "actor_id",
        (SqlType.string 32).required "actor_role",
        SqlType.timestamptz.required "occurred_at",
        (SqlType.string 128).required "correlation_id"]
      primaryKey := ["event_id"]
      checks := [
        ⟨"ck_transition_history_from_status", "from_status IN " ++ statusValues, ["from_status"]⟩,
        ⟨"ck_transition_history_to_status", "to_status IN " ++ statusValues, ["to_status"]⟩,
        ⟨"ck_transition_history_changed", "from_status <> to_status", ["from_status", "to_status"]⟩,
        ⟨"ck_transition_history_version", "order_version > 1", ["order_version"]⟩]
      foreignKeys := [⟨some "fk_transition_history_order", ["order_id"], "delivery_order", ["id"], some "CASCADE"⟩] },
    .createIndex "order_transition_history"
      { name := "ix_transition_history_order_version", columns := ["tenant_id", "order_id", "order_version"],
        unique := true }]
  downgrade := [
    .dropIndex "order_transition_history" "ix_transition_history_order_version",
    .dropTable "order_transition_history"]

def revision0007 : Revision where
  revision := "0007"
  downRevision := some "0006"
  upgrade := [
    .createTable {
      name := "order_tracking_snapshot"
      columns := [
        SqlType.uuid.required "order_id",
        SqlType.uuid.required "tenant_id",
        SqlType.float.required "latitude",
        SqlType.float.required "longitude",
        SqlType.integer.required "sequence",
        (SqlType.string 32).required "order_status",
        SqlType.timestamptz.required "recorded_at",
        SqlType.uuid.required "client_event_id"]
      primaryKey := ["order_id"]
      checks := [
        ⟨"ck_tracking_latitude", "latitude >= -90 AND latitude <= 90", ["latitude"]⟩,
        ⟨"ck_tracking_longitude", "longitude >= -180 AND longitude <= 180", ["longitude"]⟩,
        ⟨"ck_tracking_sequence", "sequence > 0", ["sequence"]⟩]
      uniques := [⟨none, ["client_event_id"]⟩]
      foreignKeys := [⟨some "fk_tracking_snapshot_order", ["order_id"], "delivery_order", ["id"], some "CASCADE"⟩] },
    .createIndex "order_tracking_snapshot"
      { name := "ix_tracking_snapshot_tenant_order", columns := ["tenant_id", "order_id"], unique := true }]
  downgrade := [
    .dropIndex "order_tracking_snapshot" "ix_tracking_snapshot_tenant_order",
    .dropTable "order_tracking_snapshot"]

/-- `alembic/versions`, each revision after the one it names in `down_revision`. -/
def revisions : List Revision :=
  [revision0001, revision0002, revision0003, revision0004, revision0005, revision0006, revision0007]

example : revisions.map Revision.downRevision = none :: (revisions.dropLast.map fun r => some r.revision) := by decide

def revisionsBetween (first last : Nat) : List Revision := (revisions.drop first).take (last - first)

/-- The statements from the revision with number `first` to the one with number `last`. -/
def upgradeOps (first last : Nat) : List MigrationOp := (revisionsBetween first last).flatMap Revision.upgrade

/-- The statements back to the revision with number `first`. -/
def downgradeOps (last first : Nat) : List MigrationOp := (revisionsBetween first last).reverse.flatMap Revision.downgrade

/-- The tables of the revision with this number. -/
def catalogAt (number : Nat) : Catalog SqlType ServerDefault := shapes (upgradeOps 0 number) []

theorem revisionsBetween_append {first middle last : Nat} (before : first ≤ middle) (after : middle ≤ last) :
    revisionsBetween first last = revisionsBetween first middle ++ revisionsBetween middle last := by
  rw [revisionsBetween, show last - first = middle - first + (last - middle) by omega, List.take_add, List.drop_drop,
    show first + (middle - first) = middle by omega]
  rfl

theorem upgradeOps_append {first middle last : Nat} (before : first ≤ middle) (after : middle ≤ last) :
    upgradeOps first last = upgradeOps first middle ++ upgradeOps middle last := by
  rw [upgradeOps, revisionsBetween_append before after, List.flatMap_append]
  rfl

theorem downgradeOps_append {first middle last : Nat} (before : first ≤ middle) (after : middle ≤ last) :
    downgradeOps last first = downgradeOps last middle ++ downgradeOps middle first := by
  rw [downgradeOps, revisionsBetween_append before after, List.reverse_append, List.flatMap_append]
  rfl

theorem shapes_upgradeOps {first last : Nat} (ordered : first ≤ last) :
    shapes (upgradeOps first last) (catalogAt first) = catalogAt last := by
  rw [catalogAt, catalogAt, upgradeOps_append (Nat.zero_le first) ordered, shapes_append]

theorem legal_upgradeOps {first last : Nat} (ordered : first ≤ last) (known : last ≤ 7) :
    legalRun (upgradeOps first last) (catalogAt first) = true := by
  have all : legalRun (upgradeOps 0 7) [] = true := by decide +kernel
  rw [upgradeOps_append (Nat.zero_le first) (ordered.trans known), legalRun_append, Bool.and_eq_true,
    upgradeOps_append ordered known, legalRun_append, Bool.and_eq_true] at all
  exact all.2.1

theorem downgradeOps_step : ∀ number < 7, legalRun (downgradeOps (number + 1) number) (catalogAt (number + 1)) = true ∧
    shapes (downgradeOps (number + 1) number) (catalogAt (number + 1)) = catalogAt number := by
  decide +kernel

theorem legal_downgradeOps {first last : Nat} (ordered : first ≤ last) (known : last ≤ 7) :
    legalRun (downgradeOps last first) (catalogAt last) = true ∧
      shapes (downgradeOps last first) (catalogAt last) = catalogAt first := by
  induction last, ordered using Nat.le_induction with
  | base => simp [downgradeOps, revisionsBetween, legalRun, shapes]
  | succ last ordered ih =>
    obtain ⟨legal, shape⟩ := downgradeOps_step last known
    obtain ⟨rest, shaped⟩ := ih (Nat.le_of_succ_le known)
    rw [downgradeOps_append ordered (Nat.le_succ last), legalRun_append, shapes_append, shape, legal, rest, shaped]
    exact ⟨rfl, rfl⟩

/-- Neither direction touches the tables and columns of the older revision. -/
theorem spares_older : ∀ first ≤ 7, ∀ op ∈ upgradeOps first 7 ++ downgradeOps 7 first,
    op.spares (catalogAt first) = true := by
  decide +kernel

theorem distinct_catalogAt : ∀ number ≤ 7, (catalogAt number).names.Nodup ∧
    ∀ s ∈ catalogAt number, s.columnNames.Nodup := by
  decide +kernel

theorem tame_downgradeOps : ∀ last ≤ 7, ∀ first ≤ last, tameRun (downgradeOps last first) [] = true := by
  decide +kernel

theorem tame_upgradeOps : ∀ last ≤ 7, ∀ first ≤ last, first ≠ 1 → tameRun (upgradeOps first last) [] = true := by
  decide +kernel

/-- The index of a column with `index=True`, under the name that SQLAlchemy gives it. -/
def indexOf (table column : String) : Index := { name := "ix_" ++ table ++ "_" ++ column, columns := [column] }

/-- `Base.metadata`: the tables that the mapped classes of `db.py` declare. -/
def baseMetadata : Catalog SqlType ServerDefault := [
  { name := "delivery_order"
    columns := [
      SqlType.uuid.required "id",
      SqlType.uuid.required "tenant_id",
      SqlType.uuid.required "customer_id",
      (SqlType.string 300).required "pickup_address",
      (SqlType.string 300).required "destination_address",
      SqlType.integer.required "weight_grams",
      (SqlType.string 32).required "status",
      SqlType.integer.required "version",
      SqlType.timestamptz.required "created_at"]
    primaryKey := ["id"]
    checks := [
      ⟨"ck_order_weight", "weight_grams > 0 AND weight_grams <= 100000", ["weight_grams"]⟩,
      ⟨"ck_order_status", "status IN " ++ statusValues, ["status"]⟩,
      ⟨"ck_order_version", "version > 0", ["version"]⟩]
    indexes := [
      { name := "ix_delivery_order_status_created", columns := ["status", "created_at", "id"] },
      indexOf "delivery_order" "tenant_id",
      indexOf "delivery_order" "customer_id"] },
  { name := "courier_assignment"
    columns := [
      SqlType.uuid.required "id",
      SqlType.uuid.required "order_id",
      SqlType.uuid.required "courier_id",
      SqlType.boolean.required "active"]
    primaryKey := ["id"]
    foreignKeys := [⟨some "fk_assignment_order", ["order_id"], "delivery_order", ["id"], some "CASCADE"⟩]
    indexes := [
      { name := "uq_active_assignment_order", columns := ["order_id"], unique := true, filter := some "active" },
      { name := "uq_active_assignment_courier", columns := ["courier_id"], unique := true, filter := some "active" },
      indexOf "courier_assignment" "courier_id"] },
  { name := "idempotency_record"
    columns := [
      (SqlType.string 200).required "key",
      (SqlType.string 100).required "operation",
      SqlType.uuid.required "resource_id",
      SqlType.json.required "response",
      SqlType.timestamptz.required "created_at"]
    primaryKey := ["key"]
    indexes := [indexOf "idempotency_record" "resource_id"] },
  { name := "outbox"
    columns := [
      SqlType.uuid.required "id",
      (SqlType.string 100).required "event_type",
      SqlType.json.required "payload",
      SqlType.timestamptz.optional "processed_at",
      SqlType.timestamptz.required "created_at",
      SqlType.timestamptz.optional "published_at"]
    primaryKey := ["id"]
    indexes := [
      { name := "ix_outbox_pending_created", columns := ["published_at", "processed_at", "created_at", "id"] }] },
  { name := "order_transition_history"
    columns := [
      SqlType.uuid.required "event_id",
      SqlType.uuid.required "tenant_id",
      SqlType.uuid.required "order_id",
      (SqlType.string 32).required "from_status",
      (SqlType.string 32).required "to_status",
      SqlType.integer.required "order_version",
      SqlType.uuid.required "actor_id",
      (SqlType.string 32).required "actor_role",
      SqlType.timestamptz.required "occurred_at",
      (SqlType.string 128).required "correlation_id"]
    primaryKey := ["event_id"]
    checks := [
      ⟨"ck_transition_history_from_status", "from_status IN " ++ statusValues, ["from_status"]⟩,
      ⟨"ck_transition_history_to_status", "to_status IN " ++ statusValues, ["to_status"]⟩,
      ⟨"ck_transition_history_changed", "from_status <> to_status", ["from_status", "to_status"]⟩,
      ⟨"ck_transition_history_version", "order_version > 1", ["order_version"]⟩]
    foreignKeys := [⟨some "fk_transition_history_order", ["order_id"], "delivery_order", ["id"], some "CASCADE"⟩]
    indexes := [
      { name := "ix_transition_history_order_version", columns := ["tenant_id", "order_id", "order_version"],
        unique := true }] },
  { name := "order_tracking_snapshot"
    columns := [
      SqlType.uuid.required "order_id",
      SqlType.uuid.required "tenant_id",
      SqlType.float.required "latitude",
      SqlType.float.required "longitude",
      SqlType.integer.required "sequence",
      (SqlType.string 32).required "order_status",
      SqlType.timestamptz.required "recorded_at",
      SqlType.uuid.required "client_event_id"]
    primaryKey := ["order_id"]
    checks := [
      ⟨"ck_tracking_latitude", "latitude >= -90 AND latitude <= 90", ["latitude"]⟩,
      ⟨"ck_tracking_longitude", "longitude >= -180 AND longitude <= 180", ["longitude"]⟩,
      ⟨"ck_tracking_sequence", "sequence > 0", ["sequence"]⟩]
    uniques := [⟨none, ["client_event_id"]⟩]
    foreignKeys := [⟨some "fk_tracking_snapshot_order", ["order_id"], "delivery_order", ["id"], some "CASCADE"⟩]
    indexes := [
      { name := "ix_tracking_snapshot_tenant_order", columns := ["tenant_id", "order_id"], unique := true }] },
  { name := "consumer_inbox"
    columns := [
      SqlType.uuid.required "event_id",
      (SqlType.string 100).required "event_type",
      SqlType.timestamptz.required "processed_at"]
    primaryKey := ["event_id"] },
  { name := "delivery_notification"
    columns := [
      SqlType.uuid.required "id",
      SqlType.uuid.required "event_id",
      SqlType.uuid.required "order_id",
      (SqlType.string 300).required "message",
      (SqlType.string 20).required "channel",
      (SqlType.string 20).required "status",
      (SqlType.string 200).optional "provider_message_id",
      SqlType.timestamptz.optional "sent_at"]
    primaryKey := ["id"]
    uniques := [⟨none, ["event_id"]⟩]
    foreignKeys := [⟨none, ["event_id"], "consumer_inbox", ["event_id"], some "CASCADE"⟩]
    indexes := [indexOf "delivery_notification" "order_id"] },
  { name := "notification_preference"
    columns := [
      SqlType.uuid.required "id",
      SqlType.uuid.required "tenant_id",
      SqlType.uuid.required "user_id",
      (SqlType.string 20).required "channel",
      SqlType.boolean.required "enabled"]
    primaryKey := ["id"]
    checks := [⟨"ck_notification_channel", "channel IN ('email','telegram')", ["channel"]⟩]
    uniques := [⟨some "uq_notification_preference", ["tenant_id", "user_id", "channel"]⟩] },
  { name := "proof_metadata"
    columns := [
      SqlType.uuid.required "id",
      SqlType.uuid.required "tenant_id",
      SqlType.uuid.required "order_id",
      (SqlType.string 300).required "object_key",
      (SqlType.string 20).required "proof_kind",
      (SqlType.string 100).required "media_type",
      SqlType.integer.required "size_bytes",
      (SqlType.string 64).required "sha256",
      SqlType.timestamptz.required "created_at"]
    primaryKey := ["id"]
    checks := [
      ⟨"ck_proof_metadata_kind", "proof_kind IN ('pickup','delivery')", ["proof_kind"]⟩,
      ⟨"ck_proof_metadata_size", "size_bytes > 0", ["size_bytes"]⟩]
    uniques := [
      ⟨some "uq_proof_metadata_object_key", ["object_key"]⟩,
      ⟨some "uq_proof_metadata_digest", ["tenant_id", "order_id", "sha256"]⟩]
    foreignKeys := [⟨some "fk_proof_metadata_order", ["order_id"], "delivery_order", ["id"], some "CASCADE"⟩]
    indexes := [
      { name := "ix_proof_metadata_order_created", columns := ["tenant_id", "order_id", "created_at"] }] },
  { name := "identity"
    columns := [
      (SqlType.string 100).required "subject",
      SqlType.uuid.required "tenant_id",
      (SqlType.string 300).required "password_hash"]
    primaryKey := ["subject"]
    indexes := [indexOf "identity" "tenant_id"] },
  { name := "refresh_session"
    columns := [
      SqlType.uuid.required "jti",
      SqlType.uuid.required "family_id",
      (SqlType.string 100).required "subject",
      SqlType.timestamptz.required "expires_at",
      SqlType.timestamptz.optional "used_at",
      SqlType.timestamptz.optional "revoked_at",
      SqlType.uuid.optional "replacement_jti"]
    primaryKey := ["jti"]
    indexes := [indexOf "refresh_session" "family_id", indexOf "refresh_session" "subject"] }]

def withoutDefault (c : SqlColumn) : SqlColumn := { c with default := none }

/-- The same table, up to the order of its parts and the defaults of the server. -/
def SameTable (s t : TableSchema) : Prop :=
  s.name = t.name ∧ (s.columns.map withoutDefault).Perm (t.columns.map withoutDefault) ∧ s.primaryKey = t.primaryKey ∧
    s.checks.Perm t.checks ∧ s.uniques.Perm t.uniques ∧ s.foreignKeys.Perm t.foreignKeys ∧ s.indexes.Perm t.indexes

instance instDecidableSameTable (s t : TableSchema) : Decidable (SameTable s t) := inferInstanceAs (Decidable (_ ∧ _))

/-- A catalog has the declared tables and no others. -/
def Declares (declared catalog : Catalog SqlType ServerDefault) : Prop :=
  declared.names.Perm catalog.names ∧ ∀ s ∈ declared, ∃ t ∈ catalog, SameTable s t

instance instDecidableDeclares (declared catalog : Catalog SqlType ServerDefault) :
    Decidable (Declares declared catalog) := inferInstanceAs (Decidable (_ ∧ _))

theorem declares_head : Declares baseMetadata (catalogAt 7) := by decide +kernel

section

variable {V : Type} [SqlValue V] [DecidableEq V]

abbrev ServiceDatabase (V : Type) := Tables SqlType ServerDefault V

/-- `alembic upgrade`, in the one transaction of `do_run_migrations`: a refused statement leaves everything as it was. -/
def alembicUpgrade (evaluate : ServerDefault → V) (first last : Nat) (db : ServiceDatabase V) :
    Option (ServiceDatabase V) := run evaluate (upgradeOps first last) db

/-- `alembic downgrade` -/
def alembicDowngrade (evaluate : ServerDefault → V) (last first : Nat) (db : ServiceDatabase V) :
    Option (ServiceDatabase V) := run evaluate (downgradeOps last first) db

/-- The values of a column in the active assignments. -/
def activeValues (column : String) (db : ServiceDatabase V) : List V :=
  (((db.rowsOf "courier_assignment").filter fun row => SqlValue.isTrue (row.value "active")).map fun row =>
    row.value column).filter (· ≠ SqlValue.null)

/-- No order and no courier has two active assignments. -/
def AssignedOnce (db : ServiceDatabase V) : Prop :=
  (activeValues "order_id" db).Nodup ∧ (activeValues "courier_id" db).Nodup

instance instDecidableAssignedOnce (db : ServiceDatabase V) : Decidable (AssignedOnce db) :=
  inferInstanceAs (Decidable (_ ∧ _))

theorem keys_active (name column : String) (db : ServiceDatabase V) :
    Index.keys { name, columns := [column], unique := true, filter := some "active" } (db.rowsOf "courier_assignment") =
      (activeValues column db).map fun value => [value] := by
  simp only [Index.keys, activeValues, Option.all_some, List.map_cons, List.map_nil, List.filter_map, List.map_map]
  refine congrArg _ (congrArg₂ _ ?_ rfl)
  funext row
  simp [eq_comm]

theorem alembicDowngrade_eq {first last : Nat} (ordered : first ≤ last) (known : last ≤ 7) {db : ServiceDatabase V}
    (revision : db.catalog = catalogAt last) (evaluate : ServerDefault → V) :
    alembicDowngrade evaluate last first db = some (db.restrict (catalogAt first)) := by
  obtain ⟨legal, shape⟩ := legal_downgradeOps ordered known
  obtain ⟨after, ran⟩ : ∃ after, run evaluate (downgradeOps last first) db = some after :=
    run_of_tame (by rw [revision]; exact legal) (tame_downgradeOps last known first ordered) (by simp)
  have catalog : after.catalog = catalogAt first := by rw [catalog_run ran, revision, shape]
  have spared : ∀ op ∈ downgradeOps last first, op.spares (catalogAt first) = true := by
    intro op mem
    apply spares_older first (ordered.trans known) op
    rw [downgradeOps_append ordered known]
    exact List.mem_append_right _ (List.mem_append_right _ mem)
  obtain ⟨named, distinct⟩ := distinct_catalogAt first (ordered.trans known)
  have own : after.restrict after.catalog = after :=
    Tables.restrict_catalog (by rw [catalog]; exact named) (by rw [catalog]; exact distinct)
  rw [alembicDowngrade, ran, ← restrict_run spared ran, ← catalog, own]

theorem restrict_alembicUpgrade {first last : Nat} (ordered : first ≤ last) (known : last ≤ 7)
    {db upgraded : ServiceDatabase V} (revision : db.catalog = catalogAt first) {evaluate : ServerDefault → V}
    (ran : alembicUpgrade evaluate first last db = some upgraded) :
    upgraded.catalog = catalogAt last ∧ upgraded.restrict (catalogAt first) = db := by
  have spared : ∀ op ∈ upgradeOps first last, op.spares (catalogAt first) = true := by
    intro op mem
    apply spares_older first (ordered.trans known) op
    rw [upgradeOps_append ordered known]
    exact List.mem_append_left _ (List.mem_append_left _ mem)
  obtain ⟨named, distinct⟩ := distinct_catalogAt first (ordered.trans known)
  refine ⟨by rw [catalog_run ran, revision, shapes_upgradeOps ordered], ?_⟩
  rw [restrict_run spared ran, ← revision]
  exact Tables.restrict_catalog (by rw [revision]; exact named) (by rw [revision]; exact distinct)

theorem uniqueKeys_iff (db : ServiceDatabase V) :
    (∀ new ∈ operationalIndexes, new.2.unique = true → (new.2.keys (db.rowsOf new.1)).Nodup) ↔ AssignedOnce db := by
  have single : Function.Injective fun value : V => [value] := fun _ _ same => List.head_eq_of_cons_eq same
  simp only [operationalIndexes, List.forall_mem_cons, List.not_mem_nil, false_implies, implies_true, and_true,
    Bool.false_eq_true, true_and, forall_const, keys_active, List.nodup_map_iff single]
  rfl

def indexOps : List MigrationOp := operationalIndexes.map fun new => .createIndex new.1 new.2

theorem isSome_indexOps {last : Nat} (second : 2 ≤ last) (known : last ≤ 7) {db : ServiceDatabase V}
    (revision : db.catalog = catalogAt 1) (evaluate : ServerDefault → V) :
    (alembicUpgrade evaluate 1 last db).isSome = (run evaluate indexOps db).isSome := by
  have parts : upgradeOps 1 last = indexOps ++ upgradeOps 2 last := by
    rw [upgradeOps_append (Nat.le_succ 1) second]
    rfl
  have legal := legal_upgradeOps (Nat.le_of_succ_le second) known
  rw [← revision, parts, legalRun_append, Bool.and_eq_true] at legal
  rw [alembicUpgrade, parts, run_append]
  cases ran : run evaluate indexOps db with
  | none => rfl
  | some middle =>
    -- The later revisions add nothing that the old rows could refuse.
    obtain ⟨after, more⟩ : ∃ after, run evaluate (upgradeOps 2 last) middle = some after :=
      run_of_tame (by rw [catalog_run ran]; exact legal.2) (tame_upgradeOps last known 2 second (by decide)) (by simp)
    rw [Option.bind_some, more]
    rfl

/-- Only the two unique indexes can stop an upgrade, and only over the rows of the first revision. -/
theorem isSome_alembicUpgrade {first last : Nat} (ordered : first ≤ last) (known : last ≤ 7) {db : ServiceDatabase V}
    (revision : db.catalog = catalogAt first) (evaluate : ServerDefault → V) :
    (alembicUpgrade evaluate first last db).isSome = true ↔ (first = 1 → 2 ≤ last → AssignedOnce db) := by
  by_cases second : first = 1 ∧ 2 ≤ last
  · obtain ⟨rfl, second⟩ := second
    have legal : legalRun indexOps db.catalog = true := by
      rw [revision]
      exact legal_upgradeOps (Nat.le_succ 1) (by decide)
    have indexed : (run evaluate indexOps db).isSome = true ↔ _ := run_createIndexes legal
    rw [isSome_indexOps second known revision, indexed, uniqueKeys_iff]
    simp [second]
  · have tame : tameRun (upgradeOps first last) [] = true := by
      by_cases start : first = 1
      · obtain rfl : first = last := by omega
        simp [upgradeOps, revisionsBetween, tameRun]
      · exact tame_upgradeOps last known first ordered start
    have legal : legalRun (upgradeOps first last) db.catalog = true := by
      rw [revision]
      exact legal_upgradeOps ordered known
    obtain ⟨after, ran⟩ : ∃ after, run evaluate (upgradeOps first last) db = some after :=
      run_of_tame legal tame (by simp)
    rw [alembicUpgrade, ran]
    simp only [Option.isSome_some, true_iff]
    exact fun start more => absurd ⟨start, more⟩ second

/-- From any revision, over any rows, an upgrade reaches the tables of the later revision (at the head those that the
mapped classes declare) and the downgrade brings the old database back; it fails only from the first revision, for
an order or a courier with two active assignments. Whatever has been written in between, the downgrade goes through
and keeps the rows of the older tables in their columns. -/
theorem migrations_restore (evaluate : ServerDefault → V) {first last : Nat} (ordered : first ≤ last) (known : last ≤ 7) :
    (∀ db : ServiceDatabase V, db.catalog = catalogAt first →
      ((alembicUpgrade evaluate first last db).isSome = true ↔ (first = 1 → 2 ≤ last → AssignedOnce db)) ∧
      ∀ upgraded, alembicUpgrade evaluate first last db = some upgraded →
        upgraded.catalog = catalogAt last ∧ (last = 7 → Declares baseMetadata upgraded.catalog) ∧
          alembicDowngrade evaluate last first upgraded = some db) ∧
    ∀ db : ServiceDatabase V, db.catalog = catalogAt last →
      alembicDowngrade evaluate last first db = some (db.restrict (catalogAt first)) := by
  refine ⟨fun db revision => ⟨isSome_alembicUpgrade ordered known revision evaluate, fun upgraded ran => ?_⟩,
    fun db revision => alembicDowngrade_eq ordered known revision evaluate⟩
  obtain ⟨catalog, restored⟩ := restrict_alembicUpgrade ordered known revision ran
  refine ⟨catalog, fun head => ?_, ?_⟩
  · rw [catalog, head]
    exact declares_head
  · rw [alembicDowngrade_eq ordered known catalog evaluate, restored]

end

inductive CellText
  | null
  | text (value : String)
deriving DecidableEq

instance instSqlValueCellText : SqlValue CellText := ⟨.null, fun value => value = .text "true"⟩

def atNewYear : ServerDefault → CellText
  | .text value => .text value
  | .true => .text "true"
  | .now => .text "2026-01-01 00:00:00+00"

def assignmentRow (id orderId courierId : String) : Row CellText :=
  [("id", .text id), ("order_id", .text orderId), ("courier_id", .text courierId), ("active", .text "true")]

/-- The first revision with some assignments and one published event. -/
def firstDatabase (assignments : List (Row CellText)) : ServiceDatabase CellText :=
  (catalogAt 1).map fun s => Table.restrict s <|
    if s.name = "courier_assignment" then assignments
    else if s.name = "outbox" then
      [[("id", .text "e1"), ("event_type", .text "order.created"), ("payload", .text "\x7b\x7d"),
        ("processed_at", .text "2025-12-31 23:00:00+00")]]
    else []

theorem catalog_firstDatabase (assignments : List (Row CellText)) :
    (firstDatabase assignments).catalog = catalogAt 1 := by
  rw [firstDatabase, Tables.catalog, List.map_map]
  exact List.map_id _

def twoCouriers : List (Row CellText) := [assignmentRow "a1" "o1" "c1", assignmentRow "a2" "o2" "c2"]

def oneCourier : List (Row CellText) := [assignmentRow "a1" "o1" "c1", assignmentRow "a2" "o2" "c1"]

theorem two_couriers_restore :
    (∃ upgraded, alembicUpgrade atNewYear 1 7 (firstDatabase twoCouriers) = some upgraded ∧
      alembicDowngrade atNewYear 7 1 upgraded = some (firstDatabase twoCouriers)) ∧
      alembicUpgrade atNewYear 1 7 (firstDatabase oneCourier) = none := by
  have migrated := (migrations_restore atNewYear (show 1 ≤ 7 by decide) (Nat.le_refl 7)).1
  constructor
  · obtain ⟨succeeds, restores⟩ := migrated (firstDatabase twoCouriers) (catalog_firstDatabase twoCouriers)
    obtain ⟨upgraded, ran⟩ := Option.isSome_iff_exists.mp (succeeds.mpr fun _ _ => by decide +kernel)
    exact ⟨upgraded, ran, (restores upgraded ran).2.2⟩
  · obtain ⟨succeeds, _⟩ := migrated (firstDatabase oneCourier) (catalog_firstDatabase oneCourier)
    rw [← Option.not_isSome_iff_eq_none, succeeds]
    exact fun once => absurd (once rfl (by decide)) (by decide +kernel)

end DeliveryService
