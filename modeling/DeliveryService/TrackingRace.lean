import DeliveryService.DeliveryDatabase

namespace DeliveryService

open DeliveryDatabase

abbrev DeliveryCluster (folding : PyText.CaseFolding) (κ : Type) :=
  Cluster DeliveryDatabase DeliveryLock Error DeliveryAnswer (DeliveryJob folding) κ

abbrev DeliveryEvent (folding : PyText.CaseFolding) (κ : Type) := Event Error DeliveryAnswer (DeliveryJob folding) κ

abbrev DeliveryTransition (folding : PyText.CaseFolding) (κ : Type) :=
  Transition (DeliveryCluster folding κ) (DeliveryEvent folding κ)

/-- The steps of order requests and position reports that run concurrently. -/
abbrev DeliveryStep (folding : PyText.CaseFolding) (hash : String → Int) (sha256 : String → String) {κ : Type}
    [DecidableEq κ] : DeliveryCluster folding κ → DeliveryEvent folding κ → DeliveryCluster folding κ → Prop :=
  Cluster.Step (DeliveryJob.program hash sha256)

def OrderStatus.finished : OrderStatus → Bool
  | .delivered | .cancelled => true
  | .created | .assigned | .pickedUp => false

def DeliveryDatabase.Finished (db : DeliveryDatabase) (orderId : UUID) : Prop :=
  ∃ status, statusOf orderId db.orders = some status ∧ status.finished = true

section

variable {folding : PyText.CaseFolding} {κ : Type}

/-- The commit of a position report that was accepted for the order. -/
def WritesSnapshot (orderId : UUID) (t : DeliveryTransition folding κ) : Prop :=
  ∃ k request read event, t.label = .commit k (.record request) (.position read (some event)) ∧
    request.orderId = orderId

/-- The commit that takes the order to a final status. -/
def Finishes (orderId : UUID) (t : DeliveryTransition folding κ) : Prop :=
  ¬ t.pre.db.Finished orderId ∧ t.post.db.Finished orderId

/-- Positions are recorded for the committed status of an order, and none after the order has been finished. -/
structure RecordedWhileActive (trace : List (DeliveryTransition folding κ)) : Prop where
  writes : ∀ t ∈ trace, ∀ orderId, t.post.db.snapshots.get? orderId ≠ t.pre.db.snapshots.get? orderId →
    WritesSnapshot orderId t
  status : ∀ t ∈ trace, ∀ orderId, WritesSnapshot orderId t → ∃ row status,
    t.post.db.snapshots.get? orderId = some row ∧ statusOf orderId t.pre.db.orders = some status ∧
    row.orderStatus = status.value
  unfinished : ∀ earlier t later orderId, trace = earlier ++ t :: later → Finishes orderId t →
    ∀ u ∈ later, ¬ WritesSnapshot orderId u

/-- A position report ends by recording the position. -/
def PositionRecorded : Except Error DeliveryAnswer → Prop
  | .ok (.position _ (some _)) => True
  | _ => False

/-- No event changes the status of an order while a position report is in progress that has started to read it
and that its checks have not refused. -/
def StatusKept (hash : String → Int) (sha256 : String → String) (t : DeliveryTransition folding κ) : Prop :=
  ∀ k active request, t.post.active k = some active → active.job = .record request →
    ¬ Cluster.Unstarted (DeliveryJob.program hash sha256) active → active.MayEnd PositionRecorded →
    statusOf request.orderId t.pre.db.orders = statusOf request.orderId t.post.db.orders

/-- What a job observes: a position report the status of its order. -/
def DeliveryJob.observe : DeliveryJob folding → Database → Option OrderStatus
  | .order _, _ => none
  | .record request, db => statusOf request.orderId db

end

section

variable {folding : PyText.CaseFolding} {db : Database} {useCase : OrderJob} {orderId : UUID}

theorem allows_of_finished {current : OrderStatus} (finished : current.finished = true) (target : OrderStatus) :
    OrderStateMachine.allows current target = false := by
  cases current with
  | delivered | cancelled => simp [OrderStateMachine.allows, allowedTransitions]
  | created | assigned | pickedUp => simp [OrderStatus.finished] at finished

theorem OrderWrite.finished {row row' : OrderRow} (h : OrderWrite folding useCase orderId db row')
    (found : db.orders.get? orderId = some row) (finished : row.status.finished = true) :
    row'.status.finished = true := by
  cases h with
  | created _ absent => simp [absent] at found
  | claimed _ stored _ queued =>
    obtain rfl := Option.some.inj (found.symm.trans stored)
    simp [queued, OrderStatus.finished] at finished
  | @edited change _ current updated event stored _ known read accepted =>
    obtain rfl := Option.some.inj (found.symm.trans known)
    have same : current.status = row.status := by
      rw [Database.order?, found] at read
      exact congrArg DeliveryOrder.status (Option.some.inj read).symm
    change updated.status.finished = true
    rcases (change.lawful current updated event accepted).2 with kept | allowed
    · rw [kept, same]
      exact finished
    · rw [same, allows_of_finished finished] at allowed
      cases allowed

end

section

variable {folding : PyText.CaseFolding} {hash : String → Int} {sha256 : String → String} {κ : Type} [DecidableEq κ]
  {db₀ : DeliveryDatabase} {σ : DeliveryCluster folding κ} {trace : List (DeliveryTransition folding κ)}
  {t : DeliveryTransition folding κ} {orderId : UUID}

theorem finished_of_same {a b : DeliveryDatabase} (same : b.orders.orders.get? orderId = a.orders.orders.get? orderId)
    (finished : a.Finished orderId) : b.Finished orderId := by
  obtain ⟨status, known, final⟩ := finished
  refine ⟨status, ?_, final⟩
  rw [statusOf, same]
  exact known

section

variable {C : DeliveryJob folding → Contract Database Lock} {job : DeliveryJob folding} {answer : DeliveryAnswer}
  {held : List DeliveryLock} {write : DeliveryDatabase → DeliveryDatabase} {db : DeliveryDatabase}

theorem deliverySpec_finished (h : deliverySpec sha256 C job (.ok answer) held write db)
    (finished : db.Finished orderId) : (write db).Finished orderId := by
  cases job with
  | order call =>
    obtain ⟨_, useCase, _, effect⟩ := h
    rcases effect.orders orderId with same | ⟨row', stored, wrote⟩
    · exact finished_of_same same finished
    · obtain ⟨status, known, final⟩ := finished
      obtain ⟨row, found, rfl⟩ := Option.map_eq_some_iff.mp known
      exact ⟨row'.status, by rw [statusOf, stored, Option.map_some], wrote.finished found final⟩
  | record request =>
    cases answer with
    | order answer => exact h.elim
    | position read published =>
      cases published with
      | none =>
        rw [show write db = db from h]
        exact finished
      | some event =>
        obtain ⟨_, _, row, message, _, _, _, _, _, written⟩ := h
        rw [written]
        exact finished_of_same rfl finished

theorem deliverySpec_snapshots (h : deliverySpec sha256 C job (.ok answer) held write db)
    (changed : (write db).snapshots.get? orderId ≠ db.snapshots.get? orderId) :
    ∃ request read event, job = .record request ∧ answer = .position read (some event) ∧
      request.orderId = orderId := by
  cases job with
  | order call => exact absurd (by rw [h.1]) changed
  | record request =>
    cases answer with
    | order answer => exact h.elim
    | position read published =>
      cases published with
      | none => exact absurd (by rw [show write db = db from h]) changed
      | some event =>
        obtain ⟨_, _, row, message, _, _, _, order, _, written⟩ := h
        refine ⟨request, read, event, rfl, rfl, ?_⟩
        by_contra other
        have away : orderId ≠ row.orderId := fun same => other (order.symm.trans same.symm)
        rw [written] at changed
        exact changed (Table.get?_put_of_ne _ _ away)

end

theorem deliverySpec_isolated (job : DeliveryJob folding) (db : DeliveryDatabase) :
    Prog.wp (DeliveryDatabase.isolation hash) (deliverySpec sha256 (fun _ => Database.isolation hash) job)
      (job.program hash sha256) [] id db := by
  have verified : Prog.wp ((DeliveryDatabase.isolation hash).keeping fun _ => ())
      (deliverySpec sha256 (fun _ => (Database.isolation hash).keeping fun _ => ()) job) (job.program hash sha256) []
      id db := deliverySpec_verified (fun _ _ => ()) job db
  rwa [Contract.keeping_const, Contract.keeping_const] at verified

theorem delivery_meets (run : Exec (DeliveryStep folding hash sha256) (Cluster.quiet db₀) trace σ) (ht : t ∈ trace) :
    t.label.Meets (deliverySpec sha256 fun _ => Database.isolation hash) t.pre.db t.post.db :=
  Cluster.meets_of_run deliverySpec_isolated (fun _ _ _ _ _ ends => deliverySpec_step ends) run ht

theorem finished_step (run : Exec (DeliveryStep folding hash sha256) (Cluster.quiet db₀) trace σ) (ht : t ∈ trace)
    (finished : t.pre.db.Finished orderId) : t.post.db.Finished orderId := by
  rcases (delivery_meets run ht).unchanged_or_commit with same | ⟨_, _, _, _, write, _, ends, after⟩
  · rw [same]
    exact finished
  · rw [after]
    exact deliverySpec_finished ends finished

theorem writes_of_changed (run : Exec (DeliveryStep folding hash sha256) (Cluster.quiet db₀) trace σ) (ht : t ∈ trace)
    (changed : t.post.db.snapshots.get? orderId ≠ t.pre.db.snapshots.get? orderId) : WritesSnapshot orderId t := by
  rcases (delivery_meets run ht).unchanged_or_commit with same | ⟨k, _, _, _, write, label, ends, after⟩
  · exact absurd (by rw [same]) changed
  · rw [after] at changed
    obtain ⟨request, read, event, rfl, rfl, own⟩ := deliverySpec_snapshots ends changed
    exact ⟨k, request, read, event, label, own⟩

/-- An accepted report is stored with the status that the order still has, which is not final. -/
theorem status_of_writes (run : Exec (DeliveryStep folding hash sha256) (Cluster.quiet db₀) trace σ)
    (kept : ∀ t ∈ trace, StatusKept hash sha256 t) (ht : t ∈ trace) (writes : WritesSnapshot orderId t) :
    ∃ row status, t.post.db.snapshots.get? orderId = some row ∧ statusOf orderId t.pre.db.orders = some status ∧
      row.orderStatus = status.value ∧ status.finished = false := by
  have keeps : ∀ t ∈ trace, Cluster.Keeps (DeliveryJob.program hash sha256)
      (fun job => DeliveryJob.observe job ∘ orders) (fun _ => PositionRecorded) t := by
    intro t ht k active found started may
    cases job : active.job with
    | order call => rfl
    | record request => exact kept t ht k active request found job started may
  obtain ⟨k, request, read, event, label, rfl⟩ := writes
  obtain ⟨_, write, ⟨base, status, row, message, known, active, since, order, column, written⟩, after⟩ :=
    Cluster.ending_of_keeps (deliverySpec_verified DeliveryJob.observe) (fun _ _ _ _ _ ends => deliverySpec_step ends)
      deliverySpec_isolated run keeps ht label True.intro
  have current : statusOf request.orderId t.pre.db.orders = some status := since.2.symm.trans known
  have stored : t.post.db.snapshots.get? request.orderId = some row := by
    rw [after, written, ← order]
    exact Table.get?_put_self _ _
  refine ⟨row, status, stored, current, column, ?_⟩
  rcases active with rfl | rfl
  · rfl
  · rfl

/-- In a run where no commit changes the status of an order between the reading and the writing of a position
report that its checks let pass, every recorded position has the committed status of its order, and none is
recorded after the order is finished. -/
theorem recorded_while_active (run : Exec (DeliveryStep folding hash sha256) (Cluster.quiet db₀) trace σ)
    (kept : ∀ t ∈ trace, StatusKept hash sha256 t) : RecordedWhileActive trace where
  writes t ht orderId changed := writes_of_changed run ht changed
  status t ht orderId writes := by
    obtain ⟨row, status, stored, current, column, _⟩ := status_of_writes run kept ht writes
    exact ⟨row, status, stored, current, column⟩
  unfinished earlier t later orderId shape finishes u hu writes := by
    subst shape
    have member : ∀ v ∈ later, v ∈ earlier ++ t :: later :=
      fun v hv => List.mem_append_right _ (List.mem_cons_of_mem _ hv)
    obtain ⟨_, _, rest⟩ := run.split
    have still := rest.carried (P := fun σ => σ.db.Finished orderId) finishes.2
      fun v hv before => finished_step run (member v hv) before
    obtain ⟨status, known, final⟩ := (still u hu).1
    obtain ⟨_, status', _, current, _, open'⟩ := status_of_writes run kept (member u hu) writes
    obtain rfl := Option.some.inj (known.symm.trans current)
    rw [final] at open'
    cases open'

end

/-- A picked-up order of the default tenant with its courier. -/
def pickedUpOrder : DeliveryDatabase where
  orders := Database.addAssignment { id := 2, orderId := 1, courierId := 9 }
    (Database.addOrder { id := 1, tenantId := defaultTenantId, customerId := 7, pickupAddress := "Depot 1"
                         destinationAddress := "Harbour 2", weightGrams := 500, status := .pickedUp, version := 3
                         createdAt := (Generated.numbered 1).now } .empty)
  snapshots := .empty

def courierOfFirst : Actor := ⟨9, .courier, defaultTenantId⟩

def reportPosition : DeliveryJob PyText.asciiFolding :=
  .record ⟨courierOfFirst, 1, ⟨5, 10, 20, by norm_num, by norm_num⟩, (Generated.numbered 5).now⟩

def deliverFirst : DeliveryJob PyText.asciiFolding :=
  .order ⟨courierOfFirst, .numbered 6, .transitionOrder 1 .delivered ⟨3, by norm_num⟩ "delivery"⟩

/-- A number of statements, one after the other. -/
def statements (k : Bool) : Nat → List (Bool × Cluster.Move (DeliveryJob PyText.asciiFolding))
  | 0 => []
  | n + 1 => (k, .start) :: (k, .finish) :: statements k n

/-- The position is recorded, and then the order is delivered. -/
def deliveredAfterwards : List (Bool × Cluster.Move (DeliveryJob PyText.asciiFolding)) :=
  (true, .begin reportPosition) :: statements true 4 ++ (true, .commit) :: (false, .begin deliverFirst) ::
    statements false 8 ++ [(false, .commit)]

/-- The order is delivered after it has been read for the position and before the position is written. -/
def deliveredMeanwhile : List (Bool × Cluster.Move (DeliveryJob PyText.asciiFolding)) :=
  (true, .begin reportPosition) :: statements true 2 ++ (false, .begin deliverFirst) :: statements false 8 ++
    (false, .commit) :: statements true 2 ++ [(true, .commit)]

def writtenOrder? {folding : PyText.CaseFolding} {κ : Type} : DeliveryEvent folding κ → Option UUID
  | .commit _ (.record request) (.position _ (some _)) => some request.orderId
  | _ => none

theorem writes_of_writtenOrder {folding : PyText.CaseFolding} {κ : Type} {t : DeliveryTransition folding κ}
    {orderId : UUID} (h : writtenOrder? t.label = some orderId) : WritesSnapshot orderId t := by
  unfold writtenOrder? at h
  split at h
  next k request read event label => exact ⟨k, request, read, event, label, Option.some.inj h⟩
  next => cases h

instance decidableFinished (db : DeliveryDatabase) (orderId : UUID) : Decidable (db.Finished orderId) :=
  decidable_of_iff ((statusOf orderId db.orders).any OrderStatus.finished = true) (Option.any_eq_true _ _)

instance decidableFinishes {folding : PyText.CaseFolding} {κ : Type} (orderId : UUID)
    (t : DeliveryTransition folding κ) : Decidable (Finishes orderId t) :=
  inferInstanceAs (Decidable (_ ∧ _))

/-- No transaction is in progress after a commit. -/
def leavesIdle (t : DeliveryTransition PyText.asciiFolding Bool) : Bool :=
  match t.label with
  | .commit .. => (t.post.active true).isNone && (t.post.active false).isNone
  | _ => true

theorem statusKept_of_leavesIdle {hash : String → Int} {sha256 : String → String} {db₀ : DeliveryDatabase}
    {σ : DeliveryCluster PyText.asciiFolding Bool} {trace : List (DeliveryTransition PyText.asciiFolding Bool)}
    (run : Exec (DeliveryStep PyText.asciiFolding hash sha256) (Cluster.quiet db₀) trace σ)
    {t : DeliveryTransition PyText.asciiFolding Bool} (ht : t ∈ trace) (idle : leavesIdle t = true) :
    StatusKept hash sha256 t := by
  intro k active request found _ _ _
  rcases (delivery_meets run ht).unchanged_or_commit with same | ⟨_, _, _, _, _, label, _⟩
  · rw [same]
  · simp only [leavesIdle, label, Bool.and_eq_true, Option.isNone_iff_eq_none] at idle
    cases k with
    | true => simp [idle.1] at found
    | false => simp [idle.2] at found

theorem recorded_while_pickedUp : ∃ trace, ∃ σ : DeliveryCluster PyText.asciiFolding Bool,
    Exec (DeliveryStep PyText.asciiFolding (fun _ => 0) id) (Cluster.quiet pickedUpOrder) trace σ ∧
    (∃ t ∈ trace, WritesSnapshot 1 t) ∧ (∃ t ∈ trace, Finishes 1 t) ∧ RecordedWhileActive trace := by
  have outcome : ((Cluster.quiet pickedUpOrder).moves (DeliveryJob.program (fun _ => 0) id) deliveredAfterwards).any
      (fun r => r.1.all leavesIdle && r.1.any (fun t => writtenOrder? t.label = some 1) &&
        r.1.any fun t => Finishes 1 t) = true := by
    decide +kernel
  obtain ⟨⟨trace, σ⟩, ran, facts⟩ := (Option.any_eq_true _ _).mp outcome
  simp only [Bool.and_eq_true, List.all_eq_true, List.any_eq_true, decide_eq_true_eq] at facts
  obtain ⟨⟨idle, t, ht, written⟩, t', ht', finishes⟩ := facts
  have run : Exec (DeliveryStep PyText.asciiFolding (fun _ => 0) id) (Cluster.quiet pickedUpOrder) trace σ :=
    Cluster.exec_of_moves ran
  exact ⟨trace, σ, run, ⟨t, ht, writes_of_writtenOrder written⟩, ⟨t', ht', finishes⟩,
    recorded_while_active run fun t ht => statusKept_of_leavesIdle run ht (idle t ht)⟩

/-- A position is recorded as that of a picked-up order after the order has been delivered. -/
theorem recorded_after_delivery : ¬ ∀ (db₀ : DeliveryDatabase) trace
    (σ : DeliveryCluster PyText.asciiFolding Bool),
    Exec (DeliveryStep PyText.asciiFolding (fun _ => 0) id) (Cluster.quiet db₀) trace σ →
    RecordedWhileActive trace := by
  intro all
  have outcome : ((Cluster.quiet pickedUpOrder).moves (DeliveryJob.program (fun _ => 0) id) deliveredMeanwhile).any
      (fun r => match r.1.drop 22 with
        | t :: later => Finishes 1 t && later.any fun u => writtenOrder? u.label = some 1
        | [] => false) = true := by
    decide +kernel
  obtain ⟨⟨trace, σ⟩, ran, facts⟩ := (Option.any_eq_true _ _).mp outcome
  dsimp only at facts
  split at facts
  next t later rest =>
    simp only [Bool.and_eq_true, List.any_eq_true, decide_eq_true_eq] at facts
    obtain ⟨finishes, u, hu, written⟩ := facts
    have shape : trace = trace.take 22 ++ t :: later := by rw [← rest, List.take_append_drop]
    have safe := (all pickedUpOrder trace σ (Cluster.exec_of_moves ran)).unfinished _ t later 1 shape finishes
    exact safe u hu (writes_of_writtenOrder written)
  next => cases facts

end DeliveryService
