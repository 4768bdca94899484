import DeliveryService.TrackingHub

namespace DeliveryService

/-- Where a tracking WebSocket stands: not connected, subscribed with the status of the order that was read,
with its snapshot loaded, or sending with the numbers that it has sent. -/
inductive Socket
  | idle
  | subscribed (handle : Nat) (status : String)
  | loaded (handle : Nat) (initial : TrackingEvent)
  | sending (handle : Nat) (sent : List Int)

/-- The store, the hub, one connection and the positions that were recorded so far. -/
structure SocketChannel where
  store : InMemoryTrackingSnapshotRepository := .empty
  hub : TrackingHub
  socket : Socket := .idle
  recorded : List TrackingEvent := []

inductive SocketEvent
  | subscribe (status : String)
  | load
  | sendInitial
  | send
  | record (report : PositionReport)
  | publish (event : TrackingEvent)

/-- The steps of the endpoint `tracking` for one order, among recordings and publications. A queued event is
sent as it is: `_send_tracking_events` compares nothing. -/
inductive SocketStep (orderId : UUID) : SocketChannel → SocketEvent → SocketChannel → Prop
  | subscribe {s} (status : String) : s.socket = .idle →
      SocketStep orderId s (.subscribe status) { s with
        hub := (s.hub.subscribe orderId).2, socket := .subscribed (s.hub.subscribe orderId).1 status }
  | load {s handle status} : s.socket = .subscribed handle status →
      SocketStep orderId s .load { s with socket := .loaded handle (s.store.eventFor orderId status) }
  | sendInitial {s handle initial} : s.socket = .loaded handle initial →
      SocketStep orderId s .sendInitial { s with socket := .sending handle [initial.sequence] }
  | send {s handle sent subscriber event rest} : s.socket = .sending handle sent →
      s.hub.subscribers.get? handle = some subscriber → subscriber.queue = event :: rest →
      SocketStep orderId s .send { s with
        hub := s.hub.dequeue handle subscriber, socket := .sending handle (sent ++ [event.sequence]) }
  | record {s} (report : PositionReport) :
      SocketStep orderId s (.record report) { s with
        store := (s.store.record report).2
        recorded := s.recorded ++ newPositions (s.store.record report).1 }
  | publish {s} (event : TrackingEvent) : event ∈ s.recorded →
      SocketStep orderId s (.publish event) { s with hub := s.hub.publish event }

/-- The numbers sent so far are strictly increasing. -/
def Increasing (s : SocketChannel) : Prop :=
  ∀ handle sent, s.socket = .sending handle sent → sent.Pairwise (· < ·)

/-- The positions of the order that the transitions publish, oldest first. -/
def publications (orderId : UUID) (trace : List (Transition SocketChannel SocketEvent)) : List TrackingEvent :=
  trace.filterMap fun t => match t.label with
    | .publish event => if event.orderId = orderId then some event else none
    | _ => none

/-- Nothing waits for the connection when it loads the snapshot. From then on the positions of the order are
published in the order of their numbers, and none that was recorded before. -/
structure PublishedInOrder (orderId : UUID) (trace : List (Transition SocketChannel SocketEvent)) : Prop where
  drained : ∀ t ∈ trace, t.label = .load → ∀ handle status, t.pre.socket = .subscribed handle status →
    (t.pre.hub.subscribers.get? handle).map Subscription.queue = some []
  recordedSince : ∀ earlier t later, trace = earlier ++ t :: later → t.label = .load →
    ∀ event ∈ publications orderId later, event ∉ t.pre.recorded
  ascending : ∀ earlier t later, trace = earlier ++ t :: later → t.label = .load →
    ((publications orderId later).map TrackingEvent.sequence).Pairwise (· < ·)

/-- What the connection has sent and what is queued for it are the stored number and some of those published
since it was loaded, in this order. -/
def SentSince (orderId : UUID) (trace : List (Transition SocketChannel SocketEvent)) (hub : TrackingHub) (handle : Nat)
    (sent : List Int) : Prop :=
  ∃ earlier t later subscriber, trace = earlier ++ t :: later ∧ t.label = .load ∧
    hub.subscribers.get? handle = some subscriber ∧ subscriber.orderId = orderId ∧
    (sent ++ subscriber.queue.map TrackingEvent.sequence).Sublist
      (t.pre.store.sequenceOf orderId :: (publications orderId later).map TrackingEvent.sequence)

def SocketHistory (orderId : UUID) (trace : List (Transition SocketChannel SocketEvent)) (s : SocketChannel) : Prop :=
  match s.socket with
  | .idle => True
  | .subscribed handle _ => ∃ subscriber, s.hub.subscribers.get? handle = some subscriber ∧
      subscriber.orderId = orderId
  | .loaded handle initial => SentSince orderId trace s.hub handle [initial.sequence]
  | .sending handle sent => SentSince orderId trace s.hub handle sent

section

open InMemoryTrackingSnapshotRepository

variable {orderId : UUID} {s s' : SocketChannel} {trace : List (Transition SocketChannel SocketEvent)}
  {t : Transition SocketChannel SocketEvent} {hub : TrackingHub} {handle : Nat} {sent : List Int}

theorem publications_append (trace later : List (Transition SocketChannel SocketEvent)) :
    publications orderId (trace ++ later) = publications orderId trace ++ publications orderId later :=
  List.filterMap_append

theorem publications_publish (event : TrackingEvent) (label : t.label = .publish event) :
    publications orderId [t] = if event.orderId = orderId then [event] else [] := by
  unfold publications
  split_ifs with own <;> simp [label, own]

theorem SentSince.append (since : SentSince orderId trace hub handle sent) (t : Transition SocketChannel SocketEvent) :
    SentSince orderId (trace ++ [t]) hub handle sent := by
  obtain ⟨earlier, first, later, subscriber, rfl, load, found, own, kept⟩ := since
  refine ⟨earlier, first, later ++ [t], subscriber, by simp, load, found, own, kept.trans ?_⟩
  rw [publications_append, List.map_append]
  exact (List.sublist_append_left _ _).cons_cons _

theorem SocketHistory.append (history : SocketHistory orderId trace s) (t : Transition SocketChannel SocketEvent) :
    SocketHistory orderId (trace ++ [t]) s := by
  unfold SocketHistory at history ⊢
  cases shape : s.socket with
  | idle => trivial
  | subscribed handle status => simpa only [shape] using history
  | loaded handle initial =>
    simp only [shape] at history
    exact history.append t
  | sending handle sent =>
    simp only [shape] at history
    exact history.append t

/-- A full queue loses its first event, and the new one comes last. -/
theorem SentSince.publish {event : TrackingEvent} (since : SentSince orderId trace hub handle sent)
    (label : t.label = .publish event) : SentSince orderId (trace ++ [t]) (hub.publish event) handle sent := by
  obtain ⟨earlier, first, later, subscriber, rfl, load, found, own, kept⟩ := since
  refine ⟨earlier, first, later ++ [t], _, by simp, load, get?_publish found, ?_⟩
  rw [publications_append, publications_publish event label]
  by_cases here : subscriber.orderId = event.orderId
  · rw [if_pos here, if_pos (here.symm.trans own)]
    refine ⟨own, ?_⟩
    have rest : ((if hub.full subscriber.queue then subscriber.queue.tail else subscriber.queue).map
        TrackingEvent.sequence).Sublist (subscriber.queue.map TrackingEvent.sequence) := by
      split_ifs
      · exact (List.tail_sublist _).map _
      · exact List.Sublist.refl _
    simp only [TrackingHub.offer, List.map_append, List.map_singleton, ← List.append_assoc, ← List.cons_append]
    exact (((List.Sublist.refl sent).append rest).trans kept).append (List.Sublist.refl _)
  · rw [if_neg here, if_neg fun same => here (own.trans same.symm)]
    simpa using ⟨own, kept⟩

theorem socketHistory_step {label : SocketEvent} (history : SocketHistory orderId trace s)
    (drained : label = .load → ∀ handle status, s.socket = .subscribed handle status →
      (s.hub.subscribers.get? handle).map Subscription.queue = some [])
    (step : SocketStep orderId s label s') : SocketHistory orderId (trace ++ [⟨s, label, s'⟩]) s' := by
  cases step with
  | subscribe status idle => exact ⟨_, get?_subscribe s.hub orderId, rfl⟩
  | @load handle status shape =>
    simp only [SocketHistory, shape] at history
    obtain ⟨subscriber, found, own⟩ := history
    have empty := drained rfl handle status shape
    rw [found] at empty
    refine ⟨trace, _, [], subscriber, rfl, rfl, found, own, ?_⟩
    rw [Option.some.inj empty, eventFor_sequence]
    exact List.Sublist.refl _
  | @sendInitial handle initial shape =>
    simp only [SocketHistory, shape] at history
    exact history.append _
  | @send handle sent subscriber event rest shape found queue =>
    simp only [SocketHistory, shape] at history
    obtain ⟨earlier, t, later, other, same, load, found', own, kept⟩ := history.append _
    obtain rfl := Option.some.inj (found.symm.trans found')
    refine ⟨earlier, t, later, _, same, load, get?_dequeue s.hub handle subscriber, own, ?_⟩
    simpa [queue] using kept
  | record report => exact history.append _
  | publish event known =>
    cases shape : s.socket with
    | idle => trivial
    | subscribed handle status =>
      simp only [SocketHistory, shape] at history ⊢
      obtain ⟨subscriber, found, own⟩ := history
      refine ⟨_, get?_publish found, ?_⟩
      split_ifs
      · exact own
      · exact own
    | loaded handle initial =>
      simp only [SocketHistory, shape] at history ⊢
      exact history.publish rfl
    | sending handle sent =>
      simp only [SocketHistory, shape] at history ⊢
      exact history.publish rfl

/-- A position that is recorded later has a greater number, and only recorded ones are published. -/
theorem recorded_since (run : Exec (SocketStep orderId) s trace s') :
    s.store.sequenceOf orderId ≤ s'.store.sequenceOf orderId ∧
    (∀ event ∈ s'.recorded, event.orderId = orderId →
      event ∈ s.recorded ∨ s.store.sequenceOf orderId < event.sequence) ∧
    ∀ event ∈ publications orderId trace, event.orderId = orderId ∧ event ∈ s'.recorded := by
  induction run with
  | start => exact ⟨le_refl _, fun event mem _ => .inl mem, fun event mem => (by cases mem)⟩
  | @next trace middle label s' previous taken ih =>
    obtain ⟨grown, since, published⟩ := ih
    cases taken with
    | subscribe | load | sendInitial | send =>
      refine ⟨grown, since, fun event mem => published event ?_⟩
      simpa [publications] using mem
    | record report =>
      rcases record_cases middle.store report with ⟨same, none⟩ | ⟨accepted, one⟩
      · rw [same, none, List.append_nil]
        refine ⟨grown, since, fun event mem => published event ?_⟩
        simpa [publications] using mem
      · rw [accepted, one]
        have more := sequenceOf_accept middle.store report orderId
        refine ⟨?_, fun event mem own => ?_, fun event mem => ?_⟩
        · simp only [more]
          split_ifs <;> omega
        · rcases List.mem_append.mp mem with old | new
          · exact since event old own
          · right
            obtain rfl := List.mem_singleton.mp new
            have same : report.orderId = orderId := own
            have next := nextSequence_eq middle.store report.orderId
            rw [same] at next
            simp only [PositionReport.snapshot, TrackingSnapshot.event, same, next]
            omega
        · obtain ⟨own, old⟩ := published event (by simpa [publications] using mem)
          exact ⟨own, List.mem_append_left _ old⟩
    | publish event known =>
      refine ⟨grown, since, fun other mem => ?_⟩
      rw [publications_append, publications_publish event rfl] at mem
      rcases List.mem_append.mp mem with old | last
      · exact published other old
      · split_ifs at last with own
        · obtain rfl := List.mem_singleton.mp last
          exact ⟨own, known⟩
        · cases last

theorem increasing_of_sentSince (run : Exec (SocketStep orderId) s trace s') (inOrder : PublishedInOrder orderId trace)
    (since : SentSince orderId trace hub handle sent) : sent.Pairwise (· < ·) := by
  obtain ⟨earlier, t, later, subscriber, rfl, load, -, -, kept⟩ := since
  obtain ⟨_, step, rest⟩ := run.split
  obtain ⟨_, grown, published⟩ := recorded_since rest
  have newer : ∀ number ∈ (publications orderId later).map TrackingEvent.sequence,
      t.pre.store.sequenceOf orderId < number := by
    intro number mem
    obtain ⟨event, inLater, rfl⟩ := List.mem_map.mp mem
    obtain ⟨own, recorded⟩ := published event inLater
    have before := inOrder.recordedSince earlier t later rfl load event inLater
    rw [load] at step
    generalize t.post = after at grown step
    cases step with
    | load shape => exact (grown event recorded own).resolve_left before
  have all := List.pairwise_cons.mpr ⟨newer, inOrder.ascending earlier t later rfl load⟩
  exact (List.pairwise_append.mp (all.sublist kept)).1

theorem PublishedInOrder.prior {later : List (Transition SocketChannel SocketEvent)}
    (inOrder : PublishedInOrder orderId (trace ++ later)) : PublishedInOrder orderId trace where
  drained t mem := inOrder.drained t (List.mem_append_left _ mem)
  recordedSince earlier t rest same load event mem := by
    refine inOrder.recordedSince earlier t (rest ++ later) (by rw [same]; simp) load event ?_
    rw [publications_append]
    exact List.mem_append_left _ mem
  ascending earlier t rest same load := by
    have whole := inOrder.ascending earlier t (rest ++ later) (by rw [same]; simp) load
    rw [publications_append, List.map_append] at whole
    exact (List.pairwise_append.mp whole).1

theorem increasing_of_run (run : Exec (SocketStep orderId) { hub } trace s)
    (inOrder : PublishedInOrder orderId trace) : Increasing s := by
  have history : SocketHistory orderId trace s := by
    have drained := inOrder.drained
    clear inOrder
    induction run with
    | start => trivial
    | @next trace s label s' previous taken ih =>
      have known := ih fun t mem => drained t (List.mem_append_left _ mem)
      exact socketHistory_step known (drained ⟨s, label, s'⟩ (by simp)) taken
  intro handle sent shape
  simp only [SocketHistory, shape] at history
  exact increasing_of_sentSince run inOrder history

/-- In every run in which nothing of the order is published between the subscription and the load of the snapshot,
and the positions recorded later are published in order, a client never sees tracking go backwards. -/
theorem socket_increasing_in_order (run : Exec (SocketStep orderId) { hub } trace s)
    (inOrder : PublishedInOrder orderId trace) : (∀ t ∈ trace, Increasing t.post) ∧ Increasing s := by
  refine ⟨fun t mem => ?_, increasing_of_run run inOrder⟩
  obtain ⟨earlier, later, rfl⟩ := List.append_of_mem mem
  obtain ⟨before, step, _⟩ := run.split
  rw [show earlier ++ t :: later = (earlier ++ [t]) ++ later by simp] at inOrder
  exact increasing_of_run (before.next step) inOrder.prior

end

theorem socket_increasing_after_snapshot : ∃ trace s, Exec (SocketStep 1) { hub := { queueSize := 1 } } trace s ∧
    s.socket = .sending 0 [0, 1] ∧ Increasing s := by
  have subscribed : Exec (SocketStep 1) { hub := { queueSize := 1 } } _ _ := Exec.start.next (.subscribe "assigned" rfl)
  have started := (subscribed.next (.load rfl)).next (.sendInitial rfl)
  have published := (started.next (.record (positionOfFirst 7))).next (.publish firstUpdate (by decide))
  have sent := published.next (.send rfl rfl rfl)
  refine ⟨_, _, sent, rfl, (socket_increasing_in_order sent ⟨?_, ?_, ?_⟩).2⟩
  · simp only [List.nil_append, List.cons_append, List.forall_mem_cons]
    refine ⟨by simp, ?_, by simp, by simp, by simp, by simp, by simp⟩
    rintro - handle status shape
    cases shape
    rfl
  · rintro (_ | ⟨_, _ | ⟨_, _ | ⟨_, _ | ⟨_, _ | ⟨_, _ | ⟨_, _⟩⟩⟩⟩⟩⟩) t later same load
    all_goals first | cases same | simp at same
    all_goals cases load
    exact fun event _ => List.not_mem_nil
  · rintro (_ | ⟨_, _ | ⟨_, _ | ⟨_, _ | ⟨_, _ | ⟨_, _ | ⟨_, _⟩⟩⟩⟩⟩⟩) t later same load
    all_goals first | cases same | simp at same
    all_goals cases load
    decide

/-- A position that is published between the subscription and the load of the snapshot is sent twice. -/
theorem position_sent_twice : ¬ ∀ hub trace s, Exec (SocketStep 1) { hub } trace s → Increasing s := by
  intro all
  have subscribed : Exec (SocketStep 1) { hub := { queueSize := 1 } } _ _ := Exec.start.next (.subscribe "assigned" rfl)
  have published := (subscribed.next (.record (positionOfFirst 7))).next (.publish firstUpdate (by decide))
  have started := (published.next (.load rfl)).next (.sendInitial rfl)
  have increasing := all _ _ _ (started.next (.send rfl rfl rfl)) 0 [1, 1] rfl
  exact absurd increasing (by decide)

end DeliveryService
