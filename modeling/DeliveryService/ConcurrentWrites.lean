import DeliveryService.ReadCommitted
import DeliveryService.SqlEffects

namespace DeliveryService

open Database SqlAlchemyOrderRepository

abbrev SqlCluster (κ : Type) := Cluster Database Lock Error (Option DeliveryOrder) OrderJob κ

abbrev SqlEvent (κ : Type) := Event Error (Option DeliveryOrder) OrderJob κ

/-- The steps of concurrent transactions on the order tables. -/
abbrev SqlStep (hash : String → Int) (folding : PyText.CaseFolding) (sha256 : String → String) {κ : Type}
    [DecidableEq κ] : SqlCluster κ → SqlEvent κ → SqlCluster κ → Prop :=
  Cluster.Step (OrderJob.program hash folding sha256)

/-- How a commit may write an order: insert a new one, claim the committed row from the queue, or save
the order that an edit computed from the committed rows. -/
inductive OrderWrite (folding : PyText.CaseFolding) (job : OrderJob) (id : UUID) (db : Database) :
    OrderRow → Prop
  | created {gen command key tenantId order} : job = .call ⟨gen, .create command key tenantId⟩ →
      db.orders.get? id = none → order.id = id → order.version = 1 → OrderWrite folding job id db (rowOf order)
  | claimed {gen courierId tenantId correlationId row} :
      job = .call ⟨gen, .claimNext courierId tenantId correlationId⟩ → db.orders.get? id = some row →
      row.tenantId = tenantId → row.status = .created → OrderWrite folding job id db (claimedRow row)
  | edited {change gen current updated event row} : job.edit? folding = some (id, change, gen) →
      db.orders.get? id = some row → db.order? id = some current →
      change.change current = .ok (updated, event) → OrderWrite folding job id db (savedRow row updated)

section

variable {hash : String → Int} {folding : PyText.CaseFolding} {sha256 : String → String} {db db' : Database}
  {job : OrderJob} {id : UUID} {row row' : OrderRow}

theorem OrderWrite.version (h : OrderWrite folding job id db row') (found : db.orders.get? id = some row) :
    row'.version = row.version + 1 := by
  cases h with
  | created _ absent => simp [absent] at found
  | claimed _ stored => rw [Option.some.inj (found.symm.trans stored)]; rfl
  | edited _ stored => rw [Option.some.inj (found.symm.trans stored)]; rfl

theorem OrderWrite.status (h : OrderWrite folding job id db row') (found : db.orders.get? id = some row)
    (moved : row.status ≠ .created) : row'.status ≠ .created := by
  cases h with
  | created _ absent => simp [absent] at found
  | claimed => simp [claimedRow]
  | @edited change _ current updated event stored _ known read accepted =>
    obtain rfl := Option.some.inj (found.symm.trans known)
    have same : current.status = row.status := by
      rw [order?, found] at read
      exact congrArg DeliveryOrder.status (Option.some.inj read).symm
    rcases (change.lawful current updated event accepted).2 with kept | allowed
    · rw [savedRow, kept, same]
      exact moved
    · intro back
      change updated.status = .created at back
      simp [back, allows_created] at allowed

theorem SaveEffect.orders {current updated : DeliveryOrder} {gen : Generated}
    (h : SaveEffect current updated gen db db') : ∃ row, db.orders.get? current.id = some row ∧
      db.order? current.id = some current ∧ db'.orders = db.orders.put (savedRow row updated) := by
  cases h with
  | kept found read | assigned found read =>
    exact ⟨_, found, by rw [order?, found, Option.map_some, ← read], rfl⟩

theorem put_orders_cases {t : Table OrderRow.id} (row : OrderRow) (id : UUID) :
    (t.put row).get? id = t.get? id ∨ id = row.id ∧ (t.put row).get? id = some row := by
  rw [Table.get?_put]
  split
  next here => exact .inr ⟨here, rfl⟩
  next => exact .inl rfl

/-- A commit leaves an order alone or writes it in one of the three ways. -/
theorem SqlEffect.orders {answer : Option DeliveryOrder} (h : SqlEffect folding sha256 job answer db db')
    (id : UUID) : db'.orders.get? id = db.orders.get? id ∨
      ∃ row', db'.orders.get? id = some row' ∧ OrderWrite folding job id db row' := by
  cases h with
  | replayed | skipped => exact .inl rfl
  | @created gen command key tenantId order _ absent made fresh freshOutbox =>
    have wrote : (createWrite order (createRecord? sha256 command key tenantId) gen db).orders =
        db.orders.put (rowOf order) := by
      rw [← Table.insert_of_absent fresh]
      cases createRecord? sha256 command key tenantId <;> rfl
    rw [wrote]
    refine (put_orders_cases (rowOf order) id).imp_right ?_
    rintro ⟨rfl, stored⟩
    exact ⟨_, stored, .created rfl fresh rfl (by rw [DeliveryOrder.create_ok made])⟩
  | @claimed gen courierId tenantId correlationId row _ found qualifies =>
    refine (put_orders_cases (claimedRow row) id).imp_right ?_
    rintro ⟨rfl, stored⟩
    obtain ⟨tenant, status⟩ : row.tenantId = tenantId ∧ row.status = .created := by
      simpa [isCandidate] using qualifies
    exact ⟨_, stored, .claimed rfl found tenant status⟩
  | @edited _ _ change gen current updated _ middle event changed hid accepted version _ saved =>
    obtain ⟨row, found, read, wrote⟩ := saved.orders
    have same : (event.elim middle fun event => addReport event middle).orders =
        db.orders.put (savedRow row updated) := by
      rw [← wrote]
      cases event <;> rfl
    rw [same]
    refine (put_orders_cases (savedRow row updated) id).imp_right ?_
    rintro ⟨rfl, stored⟩
    have key : row.id = current.id := Table.key_of_get? found
    refine ⟨_, stored, ?_⟩
    change OrderWrite folding job row.id db _
    rw [key]
    exact .edited (hid ▸ changed) found read accepted

theorem SqlEffect.skips (h : SqlEffect folding sha256 job none db db') : db' = db := by
  cases h with
  | skipped => rfl

variable {κ : Type} [DecidableEq κ] {db₀ : Database} {σ : SqlCluster κ}
  {trace : List (Transition (SqlCluster κ) (SqlEvent κ))} {t : Transition (SqlCluster κ) (SqlEvent κ)}

theorem sql_meets (run : Exec (SqlStep hash folding sha256) (Cluster.quiet db₀) trace σ) (ht : t ∈ trace) :
    t.label.Meets (sqlSpec folding sha256) t.pre.db t.post.db :=
  Cluster.meets_of_run sqlSpec_verified (fun _ _ _ _ _ effect => SqlEffect.step effect) run ht

theorem unchanged_unless_answered (run : Exec (SqlStep hash folding sha256) (Cluster.quiet db₀) trace σ)
    (ht : t ∈ trace) (h : ∀ k job order, t.label ≠ .commit k job (some order)) : t.post.db = t.pre.db := by
  rcases (sql_meets run ht).unchanged_or_commit with same | ⟨k, job, answer, _, write, label, effect, after⟩
  · exact same
  · cases answer with
    | some order => exact absurd label (h k job order)
    | none => exact after.trans (SqlEffect.skips effect)

end

/-- The parameters of runs on fixed inputs. -/
abbrev plainProgram : OrderJob → Sql (Option DeliveryOrder) :=
  OrderJob.program (fun _ => 0) PyText.asciiFolding id

end DeliveryService
