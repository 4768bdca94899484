import DeliveryService.Dict
import DeliveryService.Events
import DeliveryService.Exec
import DeliveryService.PyDatetime
import Mathlib.Data.List.Dedup

namespace DeliveryService

open PyJson

structure TrackingEvent where
  orderId : UUID
  status : String
  sequence : Int
  latitude : Option PyFloat := none
  longitude : Option PyFloat := none
  recordedAt : Option Timestamp := none
deriving DecidableEq

def TrackingEvent.payload (event : TrackingEvent) : Payload :=
  [("order_id", .str event.orderId.str), ("status", .str event.status), ("sequence", .int event.sequence),
    ("latitude", event.latitude.elim .null .float), ("longitude", event.longitude.elim .null .float),
    ("recorded_at", event.recordedAt.elim .null fun time => .str time.isoformat)]

structure TrackingSnapshot where
  orderId : UUID
  tenantId : UUID
  status : String
  sequence : Int
  latitude : Rat
  longitude : Rat
  recordedAt : Datetime
  clientEventId : UUID
deriving DecidableEq

def TrackingSnapshot.event (snapshot : TrackingSnapshot) : TrackingEvent where
  orderId := snapshot.orderId
  status := snapshot.status
  sequence := snapshot.sequence
  latitude := some (.finite snapshot.latitude)
  longitude := some (.finite snapshot.longitude)
  recordedAt := some (.aware snapshot.recordedAt)

/-- The arguments of `record`. -/
structure PositionReport where
  orderId : UUID
  tenantId : UUID
  status : String
  latitude : Rat
  longitude : Rat
  clientEventId : UUID
  recordedAt : Datetime
deriving DecidableEq

def PositionReport.snapshot (report : PositionReport) (sequence : Int) : TrackingSnapshot where
  orderId := report.orderId
  tenantId := report.tenantId
  status := report.status
  sequence := sequence
  latitude := report.latitude
  longitude := report.longitude
  recordedAt := report.recordedAt
  clientEventId := report.clientEventId

/-- An entry of the in-memory outbox. -/
structure TrackingMessage where
  eventId : String
  eventType : String
  payload : Payload
deriving DecidableEq

def TrackingSnapshot.message (snapshot : TrackingSnapshot) : TrackingMessage where
  eventId := snapshot.clientEventId.str
  eventType := "tracking.position_updated"
  payload := snapshot.event.payload

structure InMemoryTrackingSnapshotRepository where
  snapshots : Dict UUID TrackingSnapshot
  eventOrders : Dict UUID UUID
  outbox : List TrackingMessage

namespace InMemoryTrackingSnapshotRepository

def empty : InMemoryTrackingSnapshotRepository := ⟨.empty, .empty, []⟩

/-- The sequence of the next snapshot of the order. -/
def nextSequence (s : InMemoryTrackingSnapshotRepository) (orderId : UUID) : Int :=
  match s.snapshots.get? orderId with
  | none => 1
  | some current => current.sequence + 1

/-- Store a snapshot, note the order of its event and append its message. -/
def accept (s : InMemoryTrackingSnapshotRepository) (snapshot : TrackingSnapshot) :
    InMemoryTrackingSnapshotRepository where
  snapshots := s.snapshots.set snapshot.orderId snapshot
  eventOrders := s.eventOrders.set snapshot.clientEventId snapshot.orderId
  outbox := s.outbox ++ [snapshot.message]

def record (s : InMemoryTrackingSnapshotRepository) (report : PositionReport) :
    Except Error (TrackingSnapshot × Bool) × InMemoryTrackingSnapshotRepository :=
  if (s.eventOrders.get? report.clientEventId).any fun previousOrder => previousOrder ≠ report.orderId then
    (.error (.valueError "client_event_id belongs to another order"), s)
  else
    match s.snapshots.get? report.orderId with
    | some current =>
      if current.clientEventId = report.clientEventId then (.ok (current, false), s)
      else
        let snapshot := report.snapshot (current.sequence + 1)
        (.ok (snapshot, true), s.accept snapshot)
    | none =>
      let snapshot := report.snapshot 1
      (.ok (snapshot, true), s.accept snapshot)

end InMemoryTrackingSnapshotRepository

open InMemoryTrackingSnapshotRepository

/-- Calls run under the store's lock. -/
def TrackingStep (s : InMemoryTrackingSnapshotRepository) (report : PositionReport)
    (s' : InMemoryTrackingSnapshotRepository) : Prop :=
  s' = (s.record report).2

theorem trackingStep_record (s : InMemoryTrackingSnapshotRepository) (report : PositionReport) :
    TrackingStep s report (s.record report).2 := rfl

/-- What a call can do: refuse the event of another order, return the current snapshot, or accept. -/
inductive RecordEffect (s : InMemoryTrackingSnapshotRepository) (report : PositionReport) :
    Except Error (TrackingSnapshot × Bool) → InMemoryTrackingSnapshotRepository → Prop
  | foreign {owner : UUID} : s.eventOrders.get? report.clientEventId = some owner → owner ≠ report.orderId →
      RecordEffect s report (.error (.valueError "client_event_id belongs to another order")) s
  | repeated {current : TrackingSnapshot} : s.snapshots.get? report.orderId = some current →
      current.clientEventId = report.clientEventId →
      (∀ owner, s.eventOrders.get? report.clientEventId = some owner → owner = report.orderId) →
      RecordEffect s report (.ok (current, false)) s
  | accepted : (∀ owner, s.eventOrders.get? report.clientEventId = some owner → owner = report.orderId) →
      (∀ current, s.snapshots.get? report.orderId = some current → current.clientEventId ≠ report.clientEventId) →
      RecordEffect s report (.ok (report.snapshot (s.nextSequence report.orderId), true))
        (s.accept (report.snapshot (s.nextSequence report.orderId)))

theorem record_effect (s : InMemoryTrackingSnapshotRepository) (report : PositionReport) :
    RecordEffect s report (s.record report).1 (s.record report).2 := by
  unfold record
  split
  next foreign =>
    obtain ⟨owner, noted, other⟩ := (Option.any_eq_true _ _).mp foreign
    exact .foreign noted (by simpa using other)
  next own =>
    have owners : ∀ owner, s.eventOrders.get? report.clientEventId = some owner → owner = report.orderId := by
      intro owner noted
      simpa [noted] using own
    cases stored : s.snapshots.get? report.orderId with
    | none =>
      have next : s.nextSequence report.orderId = 1 := by rw [nextSequence, stored]
      exact next ▸ .accepted owners (by simp [stored])
    | some current =>
      have next : s.nextSequence report.orderId = current.sequence + 1 := by rw [nextSequence, stored]
      by_cases same : current.clientEventId = report.clientEventId
      · simp only [if_pos same]
        exact .repeated stored same owners
      · simp only [if_neg same]
        exact next ▸ .accepted owners fun other found => by rwa [← Option.some.inj (stored.symm.trans found)]

def isChange : Except Error (TrackingSnapshot × Bool) → Bool
  | .ok (_, changed) => changed
  | .error _ => false

/-- The call of a step accepted its event. -/
def accepts (t : Transition InMemoryTrackingSnapshotRepository PositionReport) : Bool :=
  isChange (t.pre.record t.label).1

/-- The events accepted in a run, in order. -/
def acceptedIds (trace : List (Transition InMemoryTrackingSnapshotRepository PositionReport)) : List UUID :=
  (trace.filter accepts).map fun t => t.label.clientEventId

/-- The events accepted for one order. -/
def acceptedFor (trace : List (Transition InMemoryTrackingSnapshotRepository PositionReport)) (orderId : UUID) :
    List UUID :=
  (trace.filter fun t => accepts t && t.label.orderId = orderId).map fun t => t.label.clientEventId

/-- The sequence of the stored snapshot, 0 before the first one. -/
def InMemoryTrackingSnapshotRepository.sequenceOf (s : InMemoryTrackingSnapshotRepository) (orderId : UUID) : Int :=
  ((s.snapshots.get? orderId).map TrackingSnapshot.sequence).getD 0

/-- The store keeps track of the accepted events of the run. -/
structure TracksAccepted (trace : List (Transition InMemoryTrackingSnapshotRepository PositionReport))
    (s : InMemoryTrackingSnapshotRepository) : Prop where
  outbox : s.outbox.map TrackingMessage.eventId = (acceptedIds trace).map UUID.str
  owners : ∀ id orderId, s.eventOrders.get? id = some orderId ↔ id ∈ acceptedFor trace orderId
  sequences : ∀ orderId, s.sequenceOf orderId = (acceptedFor trace orderId).length

/-- The call repeats an accepted event of its order that is not the latest one. -/
def ReplaysOldEvent (s : InMemoryTrackingSnapshotRepository) (report : PositionReport) : Prop :=
  s.eventOrders.get? report.clientEventId = some report.orderId ∧
    ∀ current ∈ s.snapshots.get? report.orderId, current.clientEventId ≠ report.clientEventId

instance (s : InMemoryTrackingSnapshotRepository) (report : PositionReport) :
    Decidable (ReplaysOldEvent s report) := by
  unfold ReplaysOldEvent
  infer_instance

/-- The call reports no change and changes neither a snapshot nor the outbox. -/
def HasNoEffect (t : Transition InMemoryTrackingSnapshotRepository PositionReport) : Prop :=
  (∃ snapshot, (t.pre.record t.label).1 = .ok (snapshot, false)) ∧
    t.post.snapshots = t.pre.snapshots ∧ t.post.outbox = t.pre.outbox

section

variable {s s' : InMemoryTrackingSnapshotRepository} {report : PositionReport}
  {trace : List (Transition InMemoryTrackingSnapshotRepository PositionReport)}

theorem acceptedIds_append (trace : List (Transition InMemoryTrackingSnapshotRepository PositionReport))
    (t : Transition InMemoryTrackingSnapshotRepository PositionReport) :
    acceptedIds (trace ++ [t]) = acceptedIds trace ++ if accepts t then [t.label.clientEventId] else [] := by
  cases h : accepts t <;> simp [acceptedIds, h]

theorem acceptedFor_append (trace : List (Transition InMemoryTrackingSnapshotRepository PositionReport))
    (t : Transition InMemoryTrackingSnapshotRepository PositionReport) (orderId : UUID) :
    acceptedFor (trace ++ [t]) orderId = acceptedFor trace orderId ++
      if accepts t = true ∧ t.label.orderId = orderId then [t.label.clientEventId] else [] := by
  by_cases h : accepts t = true ∧ t.label.orderId = orderId
  · simp [acceptedFor, h.1, h.2]
  · have off : (accepts t && decide (t.label.orderId = orderId)) = false := by simpa using h
    simp [acceptedFor, off, h]

theorem mem_acceptedIds {id : UUID} : id ∈ acceptedIds trace ↔ ∃ orderId, id ∈ acceptedFor trace orderId := by
  simp only [acceptedIds, acceptedFor, List.mem_map, List.mem_filter, Bool.and_eq_true, decide_eq_true_eq]
  constructor
  · rintro ⟨t, ⟨mem, accepted⟩, rfl⟩
    exact ⟨t.label.orderId, t, ⟨mem, accepted, rfl⟩, rfl⟩
  · rintro ⟨_, t, ⟨mem, accepted, _⟩, rfl⟩
    exact ⟨t, ⟨mem, accepted⟩, rfl⟩

theorem sequenceOf_accept (s : InMemoryTrackingSnapshotRepository) (report : PositionReport) (orderId : UUID) :
    (s.accept (report.snapshot (s.nextSequence report.orderId))).sequenceOf orderId =
      s.sequenceOf orderId + if report.orderId = orderId then 1 else 0 := by
  simp only [sequenceOf, accept, PositionReport.snapshot, Dict.get?_set]
  by_cases same : report.orderId = orderId
  · subst same
    cases stored : s.snapshots.get? report.orderId <;> simp [nextSequence, stored]
  · simp [same, Ne.symm same]

theorem tracksAccepted_kept {t : Transition InMemoryTrackingSnapshotRepository PositionReport}
    (tracks : TracksAccepted trace s) (refused : accepts t = false) : TracksAccepted (trace ++ [t]) s := by
  refine ⟨?_, fun id orderId => ?_, fun orderId => ?_⟩
  · simpa [acceptedIds_append, refused] using tracks.outbox
  · simpa [acceptedFor_append, refused] using tracks.owners id orderId
  · simpa [acceptedFor_append, refused] using tracks.sequences orderId

theorem tracksAccepted_accept {t : Transition InMemoryTrackingSnapshotRepository PositionReport}
    (tracks : TracksAccepted trace s) (accepted : accepts t = true)
    (own : ∀ owner, s.eventOrders.get? t.label.clientEventId = some owner → owner = t.label.orderId) :
    TracksAccepted (trace ++ [t]) (s.accept (t.label.snapshot (s.nextSequence t.label.orderId))) := by
  refine ⟨?_, fun id orderId => ?_, fun orderId => ?_⟩
  · simp [acceptedIds_append, accepted, accept, tracks.outbox, TrackingSnapshot.message, PositionReport.snapshot]
  · rw [acceptedFor_append, List.mem_append, ← tracks.owners]
    simp only [accept, PositionReport.snapshot, Dict.get?_set, accepted, true_and]
    by_cases same : id = t.label.clientEventId
    · subst same
      by_cases order : t.label.orderId = orderId
      · simp [order]
      · have other : s.eventOrders.get? t.label.clientEventId ≠ some orderId := fun noted =>
          order (own orderId noted).symm
        simp [order, other]
    · by_cases order : t.label.orderId = orderId <;> simp [same, order]
  · rw [sequenceOf_accept, tracks.sequences, acceptedFor_append]
    by_cases order : t.label.orderId = orderId <;> simp [accepted, order]

theorem tracksAccepted_step (tracks : TracksAccepted trace s) (step : TrackingStep s report s') :
    TracksAccepted (trace ++ [⟨s, report, s'⟩]) s' := by
  subst step
  have effect := record_effect s report
  have accepting : accepts ⟨s, report, (s.record report).2⟩ = isChange (s.record report).1 := rfl
  generalize s.record report = answer at effect accepting ⊢
  obtain ⟨result, after⟩ := answer
  cases effect with
  | foreign _ _ => exact tracksAccepted_kept tracks accepting
  | repeated _ _ _ => exact tracksAccepted_kept tracks accepting
  | accepted own _ => exact tracksAccepted_accept (t := ⟨s, report, _⟩) tracks accepting own

theorem tracksAccepted_run (run : Exec TrackingStep .empty trace s) : TracksAccepted trace s := by
  induction run with
  | start => exact ⟨rfl, by simp [InMemoryTrackingSnapshotRepository.empty, acceptedFor], fun _ => rfl⟩
  | next _ step ih => exact tracksAccepted_step ih step

theorem nodup_acceptedIds (run : Exec TrackingStep .empty trace s)
    (fresh : ∀ t ∈ trace, ¬ ReplaysOldEvent t.pre t.label) : (acceptedIds trace).Nodup := by
  induction run with
  | start => exact List.nodup_nil
  | @next trace s report s' previous step ih =>
    have before := ih fun t ht => fresh t (List.mem_append_left _ ht)
    rw [acceptedIds_append]
    split_ifs with accepted
    · rw [List.nodup_append]
      refine ⟨before, List.nodup_singleton _, ?_⟩
      rintro id mem _ last rfl
      obtain rfl := List.mem_singleton.mp last
      obtain ⟨orderId, mem⟩ := mem_acceptedIds.mp mem
      have noted := ((tracksAccepted_run previous).owners _ _).mpr mem
      have effect := record_effect s report
      change isChange (s.record report).1 = true at accepted
      generalize s.record report = answer at effect accepted
      obtain ⟨result, after⟩ := answer
      cases effect with
      | foreign _ _ => simp [isChange] at accepted
      | repeated _ _ _ => simp [isChange] at accepted
      | accepted own other =>
        obtain rfl := own orderId noted
        exact fresh ⟨s, report, s'⟩ (by simp) ⟨noted, other⟩
    · simpa using before

/-- A repeated event has no effect unless it replays one that is no longer the latest. -/
theorem hasNoEffect_of_repeated {t : Transition InMemoryTrackingSnapshotRepository PositionReport}
    (step : TrackingStep t.pre t.label t.post)
    (noted : t.pre.eventOrders.get? t.label.clientEventId = some t.label.orderId) :
    HasNoEffect t ↔ ¬ ReplaysOldEvent t.pre t.label := by
  have effect := record_effect t.pre t.label
  unfold HasNoEffect
  rw [step]
  generalize t.pre.record t.label = answer at effect ⊢
  obtain ⟨result, after⟩ := answer
  cases effect with
  | foreign found other => exact absurd (Option.some.inj (found.symm.trans noted)) other
  | repeated stored same _ => simpa [ReplaysOldEvent, stored, noted] using same
  | accepted _ other => simpa [ReplaysOldEvent, noted] using other

/-- Along a run each tracking event takes effect at most once exactly when no call replays an event of
its order that is no longer the latest one. -/
theorem tracking_once_iff_no_old_replay (run : Exec TrackingStep .empty trace s) :
    ((∀ earlier t later, trace = earlier ++ t :: later →
        t.label.clientEventId ∈ acceptedFor earlier t.label.orderId → HasNoEffect t) ∧
      (∀ orderId, s.sequenceOf orderId = (acceptedFor trace orderId).dedup.length) ∧
      (s.outbox.map TrackingMessage.eventId).Nodup) ↔
    ∀ t ∈ trace, ¬ ReplaysOldEvent t.pre t.label := by
  constructor
  · rintro ⟨once, _⟩ t ht replays
    obtain ⟨earlier, later, rfl⟩ := List.append_of_mem ht
    obtain ⟨before, step, _⟩ := run.split
    have mem := ((tracksAccepted_run before).owners _ _).mp replays.1
    exact (hasNoEffect_of_repeated step replays.1).mp (once earlier t later rfl mem) replays
  · intro fresh
    have tracks := tracksAccepted_run run
    have distinct := nodup_acceptedIds run fresh
    refine ⟨?_, fun orderId => ?_, ?_⟩
    · rintro earlier t later rfl mem
      obtain ⟨before, step, _⟩ := run.split
      have noted := ((tracksAccepted_run before).owners _ _).mpr mem
      exact (hasNoEffect_of_repeated step noted).mpr (fresh t (by simp))
    · have own : (acceptedFor trace orderId).Nodup := by
        refine distinct.sublist (List.Sublist.map _ (List.monotone_filter_right trace fun t => ?_))
        cases accepts t <;> simp
      rw [tracks.sequences, own.dedup]
    · rw [tracks.outbox]
      exact distinct.map UUID.str_injective

end

/-- A position of the first order. -/
def positionOfFirst (clientEventId : UUID) : PositionReport :=
  ⟨1, defaultTenantId, "assigned", 60, 30, clientEventId, ⟨2026, 1, 1, 12, 0, 0, 0, 0, by decide⟩⟩

theorem tracking_once_latest_repeated : ∃ trace s, Exec TrackingStep .empty trace s ∧ s.sequenceOf 1 = 2 ∧
    (s.outbox.map TrackingMessage.eventId).Nodup := by
  have run := Exec.ofLabels .empty [positionOfFirst 7, positionOfFirst 7, positionOfFirst 8]
    fun s report _ => trackingStep_record s report
  exact ⟨_, _, run, rfl, ((tracking_once_iff_no_old_replay run).mpr (by decide)).2.2⟩

/-- An event that is repeated after a newer one is recorded once more. -/
theorem old_event_recorded_again :
    ¬ ∀ trace s, Exec TrackingStep .empty trace s →
      (∀ earlier t later, trace = earlier ++ t :: later →
        t.label.clientEventId ∈ acceptedFor earlier t.label.orderId → HasNoEffect t) ∧
      (∀ orderId, s.sequenceOf orderId = (acceptedFor trace orderId).dedup.length) ∧
      (s.outbox.map TrackingMessage.eventId).Nodup := by
  intro all
  have run := Exec.ofLabels .empty [positionOfFirst 7, positionOfFirst 8, positionOfFirst 7]
    fun s report _ => trackingStep_record s report
  exact absurd (all _ _ run).2.2 (by decide)

end DeliveryService
