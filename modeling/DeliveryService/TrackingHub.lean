import DeliveryService.Tracking

namespace DeliveryService

/-- The queue of one subscriber of an order. -/
structure Subscription where
  orderId : UUID
  queue : List TrackingEvent := []

/-- The hub; a subscriber holds its queue by a handle. -/
structure TrackingHub where
  queueSize : Int
  subscribers : Dict Nat Subscription := .empty
  nextHandle : Nat := 0
  droppedUpdates : Nat := 0

namespace TrackingHub

def subscribe (hub : TrackingHub) (orderId : UUID) : Nat × TrackingHub :=
  (hub.nextHandle, { hub with
    subscribers := hub.subscribers.set hub.nextHandle { orderId }, nextHandle := hub.nextHandle + 1 })

/-- `unsubscribe`; a queue that does not serve this order stays. -/
def unsubscribe (hub : TrackingHub) (orderId : UUID) (handle : Nat) : TrackingHub :=
  match hub.subscribers.get? handle with
  | some subscriber =>
    if subscriber.orderId = orderId then { hub with subscribers := hub.subscribers.erase handle } else hub
  | none => hub

/-- `queue.full()`; a size of zero or less means no bound. -/
def full (hub : TrackingHub) (queue : List TrackingEvent) : Bool :=
  0 < hub.queueSize && hub.queueSize ≤ queue.length

/-- What a publication leaves in one queue: a full queue loses its oldest event. -/
def offer (hub : TrackingHub) (event : TrackingEvent) (queue : List TrackingEvent) : List TrackingEvent :=
  (if hub.full queue then queue.tail else queue) ++ [event]

def publish (hub : TrackingHub) (event : TrackingEvent) : TrackingHub :=
  { hub with
    subscribers := hub.subscribers.mapValues fun subscriber =>
      if subscriber.orderId = event.orderId then { subscriber with queue := hub.offer event subscriber.queue }
      else subscriber
    droppedUpdates := hub.droppedUpdates +
      hub.subscribers.values.countP fun subscriber =>
        subscriber.orderId = event.orderId && hub.full subscriber.queue }

/-- The subscriber has taken the first event of its queue. -/
def dequeue (hub : TrackingHub) (handle : Nat) (subscriber : Subscription) : TrackingHub :=
  { hub with subscribers := hub.subscribers.set handle { subscriber with queue := subscriber.queue.tail } }

end TrackingHub

/-- Where a `GET .../tracking/events?follow=true` connection stands: not answered yet, with the snapshot
that `sse_tracking` has read, or following with its queue, its floor and the ids it has sent. -/
inductive EventStream
  | idle
  | prepared (snapshot : TrackingEvent)
  | following (handle : Nat) (floor : Int) (sent : List Int)

/-- The store, the hub, one connection, and the positions that were recorded and published so far. -/
structure Channel where
  store : InMemoryTrackingSnapshotRepository := .empty
  hub : TrackingHub
  stream : EventStream := .idle
  recorded : List TrackingEvent := []
  published : List TrackingEvent := []

inductive ChannelEvent
  | read (status : String)
  | subscribe
  | take
  | record (report : PositionReport)
  | publish (event : TrackingEvent)

/-- The snapshot that `sse_tracking` hands to the stream. -/
def InMemoryTrackingSnapshotRepository.eventFor (s : InMemoryTrackingSnapshotRepository) (orderId : UUID)
    (status : String) : TrackingEvent :=
  match s.snapshots.get? orderId with
  | some current => current.event
  | none => { orderId, status, sequence := 0 }

/-- One event that `order_event_stream` takes: it is sent if it is newer than all before. -/
def follow (update : TrackingEvent) (floor : Int) (sent : List Int) : Int × List Int :=
  if update.sequence ≤ floor then (floor, sent) else (update.sequence, sent ++ [update.sequence])

/-- The events that a call of `record_tracking_position` hands to its background task. -/
def newPositions : Except Error (TrackingSnapshot × Bool) → List TrackingEvent
  | .ok (snapshot, true) => [snapshot.event]
  | _ => []

/-- The steps of the channel of one order: reading the snapshot, subscribing and sending it, taking one
event, recording a position of any order, and publishing a recorded one. -/
inductive ChannelStep (orderId : UUID) : Channel → ChannelEvent → Channel → Prop
  | read {s} (status : String) : s.stream = .idle →
      ChannelStep orderId s (.read status) { s with stream := .prepared (s.store.eventFor orderId status) }
  | subscribe {s snapshot} : s.stream = .prepared snapshot →
      ChannelStep orderId s .subscribe { s with
        hub := (s.hub.subscribe snapshot.orderId).2
        stream := .following (s.hub.subscribe snapshot.orderId).1 (max 0 snapshot.sequence) [snapshot.sequence] }
  | take {s handle floor sent subscriber update rest} : s.stream = .following handle floor sent →
      s.hub.subscribers.get? handle = some subscriber → subscriber.queue = update :: rest →
      ChannelStep orderId s .take { s with
        hub := s.hub.dequeue handle subscriber
        stream := .following handle (follow update floor sent).1 (follow update floor sent).2 }
  | record {s} (report : PositionReport) :
      ChannelStep orderId s (.record report) { s with
        store := (s.store.record report).2
        recorded := s.recorded ++ newPositions (s.store.record report).1 }
  | publish {s} (event : TrackingEvent) : event ∈ s.recorded →
      ChannelStep orderId s (.publish event) { s with
        hub := s.hub.publish event, published := s.published ++ [event] }

/-- Once a subscribed stream has nothing left to take and every recorded position is published, it has
sent an id at least as large as the sequence of the stored snapshot. -/
def NoGap (orderId : UUID) (s : Channel) : Prop :=
  ∀ handle floor sent, s.stream = .following handle floor sent →
    (∀ event ∈ s.recorded, event.orderId = orderId → event ∈ s.published) →
    (s.hub.subscribers.get? handle).map Subscription.queue = some [] →
    ∃ id ∈ sent, s.store.sequenceOf orderId ≤ id

/-- The newest position of the order is on its way to the stream, or still to be published. -/
def Reaches (orderId : UUID) (s : Channel) : Prop :=
  match s.stream with
  | .idle => True
  | .prepared snapshot => s.store.sequenceOf orderId ≤ snapshot.sequence ∨
      ∀ event ∈ s.published, event.orderId = orderId → event.sequence ≠ s.store.sequenceOf orderId
  | .following handle floor _ => s.store.sequenceOf orderId ≤ floor ∨
      (∃ subscriber, s.hub.subscribers.get? handle = some subscriber ∧
        ∃ event ∈ subscriber.queue, event.sequence = s.store.sequenceOf orderId) ∨
      ∀ event ∈ s.published, event.orderId = orderId → event.sequence ≠ s.store.sequenceOf orderId

/-- The position that the step publishes is not the newest one while a stream waits between an older
snapshot and its subscription, and it does not push the newest one out of the full queue of the stream. -/
def KeepsNewest (orderId : UUID) (s : Channel) : ChannelEvent → Prop
  | .publish event => event.orderId = orderId →
    match s.stream with
    | .idle => True
    | .prepared snapshot => event.sequence = s.store.sequenceOf orderId → event.sequence ≤ snapshot.sequence
    | .following handle floor _ => ∀ subscriber, s.hub.subscribers.get? handle = some subscriber →
        s.hub.full subscriber.queue = true → floor < s.store.sequenceOf orderId →
        (∃ oldest ∈ subscriber.queue.head?, oldest.sequence = s.store.sequenceOf orderId) →
        ∃ kept ∈ subscriber.queue.tail ++ [event], kept.sequence = s.store.sequenceOf orderId
  | _ => True

/-- What holds in every state of the channel. -/
structure ChannelWellFormed (orderId : UUID) (s : Channel) : Prop where
  keyed : ∀ current, s.store.snapshots.get? orderId = some current → current.orderId = orderId
  nonneg : 0 ≤ s.store.sequenceOf orderId
  bounded : ∀ event ∈ s.recorded, event.orderId = orderId → event.sequence ≤ s.store.sequenceOf orderId
  newest : s.store.sequenceOf orderId = 0 ∨
    ∃ event ∈ s.recorded, event.orderId = orderId ∧ event.sequence = s.store.sequenceOf orderId
  published : ∀ event ∈ s.published, event ∈ s.recorded
  prepared : ∀ snapshot, s.stream = .prepared snapshot → snapshot.orderId = orderId ∧ 0 ≤ snapshot.sequence
  following : ∀ handle floor sent, s.stream = .following handle floor sent →
    floor ∈ sent ∧ 0 ≤ floor ∧ ∃ subscriber, s.hub.subscribers.get? handle = some subscriber ∧
      subscriber.orderId = orderId ∧ ∀ event ∈ subscriber.queue, event ∈ s.published ∧ event.orderId = orderId

section

open InMemoryTrackingSnapshotRepository

variable {orderId : UUID} {s s' : Channel} {event : TrackingEvent}

theorem eventFor_sequence (s : InMemoryTrackingSnapshotRepository) (orderId : UUID) (status : String) :
    (s.eventFor orderId status).sequence = s.sequenceOf orderId := by
  unfold eventFor sequenceOf
  cases s.snapshots.get? orderId <;> rfl

theorem nextSequence_eq (s : InMemoryTrackingSnapshotRepository) (orderId : UUID) :
    s.nextSequence orderId = s.sequenceOf orderId + 1 := by
  unfold nextSequence sequenceOf
  cases s.snapshots.get? orderId <;> simp

theorem get?_publish {hub : TrackingHub} {handle : Nat} {subscriber : Subscription}
    (found : hub.subscribers.get? handle = some subscriber) :
    (hub.publish event).subscribers.get? handle =
      some (if subscriber.orderId = event.orderId then
        { subscriber with queue := hub.offer event subscriber.queue } else subscriber) := by
  simp [TrackingHub.publish, found]

theorem get?_dequeue (hub : TrackingHub) (handle : Nat) (subscriber : Subscription) :
    (hub.dequeue handle subscriber).subscribers.get? handle =
      some { subscriber with queue := subscriber.queue.tail } := by
  simp [TrackingHub.dequeue]

theorem get?_subscribe (hub : TrackingHub) (orderId : UUID) :
    (hub.subscribe orderId).2.subscribers.get? (hub.subscribe orderId).1 = some { orderId } := by
  simp [TrackingHub.subscribe]

theorem mem_offer {hub : TrackingHub} {queue : List TrackingEvent} {other : TrackingEvent}
    (mem : other ∈ hub.offer event queue) : other ∈ queue ∨ other = event := by
  unfold TrackingHub.offer at mem
  rcases List.mem_append.mp mem with old | new
  · left
    split_ifs at old
    · exact List.mem_of_mem_tail old
    · exact old
  · exact .inr (List.mem_singleton.mp new)

theorem wellFormed_accept (wf : ChannelWellFormed orderId s) (report : PositionReport) :
    ChannelWellFormed orderId { s with
      store := s.store.accept (report.snapshot (s.store.nextSequence report.orderId))
      recorded := s.recorded ++ [(report.snapshot (s.store.nextSequence report.orderId)).event] } := by
  have grown := sequenceOf_accept s.store report orderId
  have next := nextSequence_eq s.store report.orderId
  have last := wf.nonneg
  refine ⟨fun current stored => ?_, ?_, fun event mem own => ?_, ?_, fun event mem => ?_, wf.prepared, wf.following⟩
  · simp only [accept, PositionReport.snapshot, Dict.get?_set] at stored
    split_ifs at stored with same
    · rw [← Option.some.inj stored, same]
    · exact wf.keyed current stored
  · simp only [grown]
    split_ifs <;> omega
  · simp only [grown]
    rcases List.mem_append.mp mem with old | new
    · have := wf.bounded event old own
      split_ifs <;> omega
    · obtain rfl := List.mem_singleton.mp new
      have same : report.orderId = orderId := own
      rw [if_pos same, ← same, ← next]
      exact le_refl _
  · simp only [grown]
    by_cases same : report.orderId = orderId
    · right
      refine ⟨_, List.mem_append_right _ (List.mem_singleton.mpr rfl), same, ?_⟩
      rw [if_pos same, ← same, ← next]
      rfl
    · rw [if_neg same, add_zero]
      rcases wf.newest with none_yet | ⟨event, mem, found⟩
      · exact .inl none_yet
      · exact .inr ⟨event, List.mem_append_left _ mem, found⟩
  · exact List.mem_append_left _ (wf.published event mem)

/-- A call of `record` leaves the store alone or adds the next position of its order. -/
theorem record_cases (store : InMemoryTrackingSnapshotRepository) (report : PositionReport) :
    ((store.record report).2 = store ∧ newPositions (store.record report).1 = []) ∨
    ((store.record report).2 = store.accept (report.snapshot (store.nextSequence report.orderId)) ∧
      newPositions (store.record report).1 = [(report.snapshot (store.nextSequence report.orderId)).event]) := by
  have effect := record_effect store report
  generalize store.record report = answer at effect ⊢
  obtain ⟨result, after⟩ := answer
  cases effect with
  | foreign _ _ => exact .inl ⟨rfl, rfl⟩
  | repeated _ _ _ => exact .inl ⟨rfl, rfl⟩
  | accepted _ _ => exact .inr ⟨rfl, rfl⟩

theorem channelWellFormed_step {label : ChannelEvent} (wf : ChannelWellFormed orderId s)
    (step : ChannelStep orderId s label s') : ChannelWellFormed orderId s' := by
  cases step with
  | read status idle =>
    refine { wf with prepared := ?_, following := ?_ }
    · intro snapshot shape
      obtain rfl := EventStream.prepared.inj shape
      refine ⟨?_, eventFor_sequence s.store orderId status ▸ wf.nonneg⟩
      unfold eventFor
      cases stored : s.store.snapshots.get? orderId with
      | none => rfl
      | some current => exact wf.keyed current stored
    · intro handle floor sent shape
      cases shape
  | @subscribe snapshot shape =>
    obtain ⟨own, nonneg⟩ := wf.prepared snapshot shape
    refine { wf with prepared := ?_, following := ?_ }
    · intro other shape
      cases shape
    · intro handle floor sent shape
      obtain ⟨rfl, rfl, rfl⟩ := EventStream.following.inj shape
      refine ⟨by simp [max_eq_right nonneg], le_max_left _ _, _, get?_subscribe s.hub snapshot.orderId, own, ?_⟩
      intro event mem
      cases mem
  | @take handle floor sent subscriber update rest shape found queue =>
    obtain ⟨last, nonneg, other, found', own, queued⟩ := wf.following handle floor sent shape
    obtain rfl := Option.some.inj (found.symm.trans found')
    refine { wf with prepared := ?_, following := ?_ }
    · intro snapshot shape
      cases shape
    · intro handle floor sent shape
      obtain ⟨rfl, rfl, rfl⟩ := EventStream.following.inj shape
      refine ⟨?_, ?_, _, get?_dequeue s.hub _ subscriber, own, fun event mem => ?_⟩
      · unfold follow
        split_ifs
        · exact last
        · simp
      · unfold follow
        split_ifs
        · exact nonneg
        · simp only
          omega
      · exact queued event (List.mem_of_mem_tail mem)
  | record report =>
    rcases record_cases s.store report with ⟨same, none⟩ | ⟨grown, one⟩
    · rwa [same, none, List.append_nil]
    · rw [grown, one]
      exact wellFormed_accept wf report
  | publish event known =>
    refine { wf with published := ?_, following := ?_ }
    · intro other mem
      rcases List.mem_append.mp mem with old | new
      · exact wf.published other old
      · rw [List.mem_singleton.mp new]
        exact known
    · intro handle floor sent shape
      obtain ⟨last, nonneg, subscriber, found, own, queued⟩ := wf.following handle floor sent shape
      refine ⟨last, nonneg, _, get?_publish found, ?_⟩
      split_ifs with same
      · refine ⟨own, fun other mem => ?_⟩
        rcases mem_offer mem with old | rfl
        · exact ⟨List.mem_append_left _ (queued other old).1, (queued other old).2⟩
        · exact ⟨by simp, same.symm.trans own⟩
      · exact ⟨own, fun other mem => ⟨List.mem_append_left _ (queued other mem).1, (queued other mem).2⟩⟩

theorem reaches_accept (wf : ChannelWellFormed orderId s) (reaches : Reaches orderId s) (report : PositionReport) :
    Reaches orderId { s with
      store := s.store.accept (report.snapshot (s.store.nextSequence report.orderId))
      recorded := s.recorded ++ [(report.snapshot (s.store.nextSequence report.orderId)).event] } := by
  have grown := sequenceOf_accept s.store report orderId
  have unpublished (own : report.orderId = orderId) (event : TrackingEvent) (mem : event ∈ s.published)
      (same : event.orderId = orderId) : event.sequence ≠ s.store.sequenceOf orderId + 1 := by
    have := wf.bounded event (wf.published event mem) same
    omega
  unfold Reaches at reaches ⊢
  cases shape : s.stream with
  | idle => trivial
  | prepared snapshot =>
    simp only [shape, grown] at reaches ⊢
    by_cases own : report.orderId = orderId
    · rw [if_pos own]
      exact .inr (unpublished own)
    · rwa [if_neg own, add_zero]
  | following handle floor sent =>
    simp only [shape, grown] at reaches ⊢
    by_cases own : report.orderId = orderId
    · rw [if_pos own]
      exact .inr (.inr (unpublished own))
    · rwa [if_neg own, add_zero]

theorem waiting_publish {published : List TrackingEvent} {newest : Int}
    (waiting : ∀ other ∈ published, other.orderId = orderId → other.sequence ≠ newest)
    (older : ¬ (event.orderId = orderId ∧ event.sequence = newest)) :
    ∀ other ∈ published ++ [event], other.orderId = orderId → other.sequence ≠ newest := by
  intro other mem own same
  rcases List.mem_append.mp mem with old | new
  · exact waiting other old own same
  · obtain rfl := List.mem_singleton.mp new
    exact older ⟨own, same⟩

theorem reaches_publish_prepared {snapshot : TrackingEvent} (shape : s.stream = .prepared snapshot)
    (reaches : Reaches orderId s) (keeps : KeepsNewest orderId s (.publish event)) :
    Reaches orderId { s with hub := s.hub.publish event, published := s.published ++ [event] } := by
  simp only [Reaches, KeepsNewest, shape] at reaches keeps ⊢
  rcases reaches with read | waiting
  · exact .inl read
  · by_cases newest : event.orderId = orderId ∧ event.sequence = s.store.sequenceOf orderId
    · exact .inl (newest.2 ▸ keeps newest.1 newest.2)
    · exact .inr (waiting_publish waiting newest)

theorem newest_mem_offer {hub : TrackingHub} {queue : List TrackingEvent} {newest : Int}
    (queued : ∃ old ∈ queue, old.sequence = newest)
    (keeps : hub.full queue = true → (∃ oldest ∈ queue.head?, oldest.sequence = newest) →
      ∃ kept ∈ queue.tail ++ [event], kept.sequence = newest) :
    ∃ kept ∈ hub.offer event queue, kept.sequence = newest := by
  obtain ⟨old, mem, same⟩ := queued
  unfold TrackingHub.offer
  split_ifs with full
  · cases queue with
    | nil => cases mem
    | cons oldest rest =>
      rcases List.mem_cons.mp mem with rfl | later
      · exact keeps full ⟨old, rfl, same⟩
      · exact ⟨old, List.mem_append_left _ later, same⟩
  · exact ⟨old, List.mem_append_left _ mem, same⟩

theorem reaches_publish_following {handle : Nat} {floor : Int} {sent : List Int}
    (wf : ChannelWellFormed orderId s) (shape : s.stream = .following handle floor sent)
    (reaches : Reaches orderId s) (keeps : KeepsNewest orderId s (.publish event)) :
    Reaches orderId { s with hub := s.hub.publish event, published := s.published ++ [event] } := by
  obtain ⟨-, -, subscriber, found, subscribed, -⟩ := wf.following handle floor sent shape
  simp only [Reaches, KeepsNewest, shape, get?_publish found] at reaches keeps ⊢
  by_cases delivered : s.store.sequenceOf orderId ≤ floor
  · exact .inl delivered
  rw [not_le] at delivered
  rcases reaches with sent | ⟨other, found', queued⟩ | waiting
  · exact absurd delivered (not_lt.mpr sent)
  · obtain rfl := Option.some.inj (found.symm.trans found')
    refine .inr (.inl ⟨_, rfl, ?_⟩)
    split_ifs with same
    · exact newest_mem_offer queued fun full oldest =>
        keeps (same.symm.trans subscribed) subscriber found full delivered oldest
    · exact queued
  · by_cases newest : event.orderId = orderId ∧ event.sequence = s.store.sequenceOf orderId
    · refine .inr (.inl ⟨_, rfl, event, ?_, newest.2⟩)
      rw [if_pos (subscribed.trans newest.1.symm)]
      exact List.mem_append_right _ (List.mem_singleton.mpr rfl)
    · exact .inr (.inr (waiting_publish waiting newest))

theorem reaches_step {label : ChannelEvent} (wf : ChannelWellFormed orderId s) (reaches : Reaches orderId s)
    (keeps : KeepsNewest orderId s label) (step : ChannelStep orderId s label s') : Reaches orderId s' := by
  cases step with
  | read status idle => exact .inl (eventFor_sequence s.store orderId status).ge
  | @subscribe snapshot shape =>
    simp only [Reaches, shape] at reaches ⊢
    rcases reaches with read | waiting
    · exact .inl (read.trans (le_max_right _ _))
    · exact .inr (.inr waiting)
  | @take handle floor sent subscriber update rest shape found queue =>
    simp only [Reaches, shape] at reaches ⊢
    have taken : floor ≤ (follow update floor sent).1 ∧ update.sequence ≤ (follow update floor sent).1 := by
      unfold follow
      split_ifs <;> simp <;> omega
    rcases reaches with read | ⟨other, found', newest, mem, same⟩ | waiting
    · exact .inl (read.trans taken.1)
    · obtain rfl := Option.some.inj (found.symm.trans found')
      rw [queue] at mem
      rcases List.mem_cons.mp mem with rfl | later
      · exact .inl (same ▸ taken.2)
      · exact .inr (.inl ⟨_, get?_dequeue s.hub handle subscriber, newest, by simpa [queue] using later, same⟩)
    · exact .inr (.inr waiting)
  | record report =>
    rcases record_cases s.store report with ⟨same, none⟩ | ⟨grown, one⟩
    · rwa [same, none, List.append_nil]
    · rw [grown, one]
      exact reaches_accept wf reaches report
  | publish event known =>
    cases shape : s.stream with
    | idle => trivial
    | prepared snapshot => exact shape ▸ reaches_publish_prepared shape reaches keeps
    | following handle floor sent => exact shape ▸ reaches_publish_following wf shape reaches keeps

theorem noGap_of_reaches (wf : ChannelWellFormed orderId s) (reaches : Reaches orderId s) : NoGap orderId s := by
  intro handle floor sent shape published drained
  obtain ⟨last, nonneg, -⟩ := wf.following handle floor sent shape
  simp only [Reaches, shape] at reaches
  refine ⟨floor, last, ?_⟩
  rcases reaches with read | ⟨subscriber, found, newest, mem, same⟩ | waiting
  · exact read
  · rw [found] at drained
    rw [Option.some.inj drained] at mem
    cases mem
  · rcases wf.newest with none_yet | ⟨newest, mem, own, same⟩
    · omega
    · exact absurd same (waiting newest (published newest mem own) own)

theorem reaches_run {hub : TrackingHub} {trace : List (Transition Channel ChannelEvent)}
    (run : Exec (ChannelStep orderId) { hub } trace s)
    (keeps : ∀ t ∈ trace, KeepsNewest orderId t.pre t.label) :
    ChannelWellFormed orderId s ∧ Reaches orderId s := by
  refine run.invariant_while (I := fun s => ChannelWellFormed orderId s ∧ Reaches orderId s) ?_
    (fun s label s' both step keeps => ?_) keeps
  · refine ⟨⟨?_, ?_, ?_, ?_, ?_, ?_, ?_⟩, trivial⟩ <;>
      simp [InMemoryTrackingSnapshotRepository.empty, sequenceOf]
  · obtain ⟨wf, reaches⟩ := both
    exact ⟨channelWellFormed_step wf step, reaches_step wf reaches keeps step⟩

/-- As long as the newest position is not published between the read of an older snapshot and the
subscription, nor pushed out of the queue, no update falls into a gap. -/
theorem no_gap_while_newest_kept {hub : TrackingHub} {trace : List (Transition Channel ChannelEvent)}
    (run : Exec (ChannelStep orderId) { hub } trace s)
    (keeps : ∀ t ∈ trace, KeepsNewest orderId t.pre t.label) :
    (∀ t ∈ trace, NoGap orderId t.post) ∧ NoGap orderId s := by
  constructor
  · intro t ht
    obtain ⟨earlier, later, rfl⟩ := List.append_of_mem ht
    obtain ⟨before, step, -⟩ := run.split
    obtain ⟨wf, reaches⟩ := reaches_run (before.next step) fun u hu => keeps u (by simp at hu ⊢; tauto)
    exact noGap_of_reaches wf reaches
  · obtain ⟨wf, reaches⟩ := reaches_run run keeps
    exact noGap_of_reaches wf reaches

end

/-- The event of the first position that `positionOfFirst` reports. -/
def firstUpdate : TrackingEvent :=
  ((positionOfFirst 7).snapshot 1).event

theorem no_gap_published_to_queue : ∃ trace s, Exec (ChannelStep 1) { hub := { queueSize := 1 } } trace s ∧
    s.stream = .following 0 1 [0, 1] ∧ NoGap 1 s := by
  have read : Exec (ChannelStep 1) { hub := { queueSize := 1 } } _ _ := Exec.start.next (.read "created" rfl)
  have following := read.next (.subscribe rfl)
  have recorded := following.next (.record (positionOfFirst 7))
  have published := recorded.next (.publish firstUpdate (by decide))
  have taken := published.next (.take rfl rfl rfl)
  refine ⟨_, _, taken, rfl, (no_gap_while_newest_kept taken ?_).2⟩
  simp only [List.nil_append, List.cons_append, List.forall_mem_cons]
  refine ⟨trivial, trivial, trivial, ?_, trivial, by simp⟩
  -- the queue of the stream is empty when the position is published
  intro _ subscriber found full
  have own : some { orderId := 1 } = some subscriber := found
  obtain rfl := Option.some.inj own
  exact absurd full (by decide)

/-- A position that is published between the read of the snapshot and the subscription never reaches the stream. -/
theorem position_lost_before_subscription :
    ¬ ∀ hub trace s, Exec (ChannelStep 1) { hub } trace s → NoGap 1 s := by
  intro all
  have read : Exec (ChannelStep 1) { hub := { queueSize := 1 } } _ _ := Exec.start.next (.read "created" rfl)
  have recorded := read.next (.record (positionOfFirst 7))
  have published := recorded.next (.publish firstUpdate (by decide))
  have following := published.next (.subscribe rfl)
  obtain ⟨id, sent, reached⟩ := all _ _ _ following 0 0 [0] rfl (by decide) rfl
  obtain rfl := List.mem_singleton.mp sent
  exact absurd reached (by decide)

end DeliveryService
