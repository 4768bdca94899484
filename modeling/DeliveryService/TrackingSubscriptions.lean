import DeliveryService.HubSharing

namespace DeliveryService

/-- What an `await` of the endpoint can raise: the three classes that it catches, and all others. -/
inductive SocketError
  | webSocketDisconnect
  | osError
  | cancelledError
  | other
deriving DecidableEq

/-- `except (WebSocketDisconnect, OSError, asyncio.CancelledError)` -/
def SocketError.caught : SocketError → Bool
  | .other => false
  | _ => true

/-- How a task has ended. -/
inductive TaskOutcome
  | returned
  | raised (error : SocketError)
deriving DecidableEq

/-- Where `_send_tracking_events` stands. -/
inductive SenderTask
  | getting
  | sending (event : TrackingEvent)
  | done (outcome : TaskOutcome)

/-- Where `_wait_for_websocket_disconnect` stands. -/
inductive ReceiverTask
  | receiving
  | done (outcome : TaskOutcome)

def SenderTask.outcome? : SenderTask → Option TaskOutcome
  | .done outcome => some outcome
  | _ => none

def ReceiverTask.outcome? : ReceiverTask → Option TaskOutcome
  | .done outcome => some outcome
  | _ => none

/-- The `await` at which the endpoint stands: those before the subscription, `_load_tracking_snapshot`, `accept`, the
first `send_json`, `asyncio.wait`, `gather` of the pending tasks with the outcomes of the others, and `gather` in
the `finally` block with the exception that goes on after it. -/
inductive HandlerStage
  | admitting
  | loading
  | accepting
  | greeting
  | serving
  | settling (done : List TaskOutcome)
  | closing (raised : Option SocketError)
  | ended (raised : Option SocketError)

/-- The hub and one connection: its tasks, the queue that it was given, and whether it has given it back. -/
structure Connection where
  history : HubHistory
  stage : HandlerStage := .admitting
  sender : SenderTask := .getting
  receiver : ReceiverTask := .receiving
  queue : Option Nat := none
  released : Bool := false

inductive ConnectionEvent
  | refuse
  | subscribe
  | proceed
  | fail (error : SocketError)
  | take
  | sent
  | senderEnds (error : SocketError)
  | receiverEnds (outcome : TaskOutcome)
  | hub (call : HubCall)

/-- What the loop over `task.result()` raises; the finished tasks come in any order. -/
def Settles (done : List TaskOutcome) : Option SocketError → Prop
  | some error => .raised error ∈ done
  | none => ∀ outcome ∈ done, outcome = .returned

/-- What the `except` clause lets through. -/
def uncaught (raised : Option SocketError) : Option SocketError := raised.filter fun error => !error.caught

namespace Connection

/-- The outcomes of the tasks that are over. -/
def done (s : Connection) : List TaskOutcome := s.sender.outcome?.toList ++ s.receiver.outcome?.toList

/-- Both tasks are over. -/
def Quiet (s : Connection) : Prop := s.sender.outcome? ≠ none ∧ s.receiver.outcome? ≠ none

/-- The tasks have been created. -/
def Served (s : Connection) : Prop :=
  s.stage = .serving ∨ (∃ done, s.stage = .settling done) ∨ ∃ raised, s.stage = .closing raised

/-- The endpoint stands between its subscription and its `try`. -/
def Unguarded (s : Connection) : Prop := s.stage = .loading ∨ s.stage = .accepting ∨ s.stage = .greeting

end Connection

/-- The steps of the endpoint `tracking`, of its two tasks and of everyone else at the hub. A task that was asked to
cancel ends when it will; messages that are no disconnect change nothing. -/
inductive ConnectionStep (orderId : UUID) : Connection → ConnectionEvent → Connection → Prop
  | refuse {s} (raised : Option SocketError) : s.stage = .admitting →
      ConnectionStep orderId s .refuse { s with stage := .ended raised }
  | subscribe {s} : s.stage = .admitting →
      ConnectionStep orderId s .subscribe { s with
        history := s.history.after (.subscribe orderId)
        stage := .loading
        queue := some (s.history.hub.subscribe orderId).1 }
  | loaded {s} : s.stage = .loading → ConnectionStep orderId s .proceed { s with stage := .accepting }
  | accepted {s} : s.stage = .accepting → ConnectionStep orderId s .proceed { s with stage := .greeting }
  | greeted {s} : s.stage = .greeting → ConnectionStep orderId s .proceed { s with
      stage := .serving, sender := .getting, receiver := .receiving }
  | broken {s} (error : SocketError) : s.Unguarded →
      ConnectionStep orderId s (.fail error) { s with stage := .ended (some error) }
  | woken {s} : s.stage = .serving → s.done ≠ [] →
      ConnectionStep orderId s .proceed { s with stage := .settling s.done }
  | settled {s done raised} : s.stage = .settling done → s.Quiet → Settles done raised →
      ConnectionStep orderId s .proceed { s with stage := .closing (uncaught raised) }
  | interrupted {s} : s.stage = .serving ∨ (∃ done, s.stage = .settling done) →
      ConnectionStep orderId s (.fail .cancelledError) { s with
        stage := .closing (uncaught (some .cancelledError)) }
  | closed {s raised queue} : s.stage = .closing raised → s.Quiet → s.queue = some queue →
      ConnectionStep orderId s .proceed { s with
        history := s.history.after (.unsubscribe orderId queue), stage := .ended raised, released := true }
  | abandoned {s raised} : s.stage = .closing raised →
      ConnectionStep orderId s (.fail .cancelledError) { s with stage := .ended (some .cancelledError) }
  | take {s queue event rest} : s.Served → s.sender = .getting → s.queue = some queue →
      s.history.waiting queue = event :: rest →
      ConnectionStep orderId s .take { s with history := s.history.after (.get queue), sender := .sending event }
  | sent {s event} : s.Served → s.sender = .sending event →
      ConnectionStep orderId s .sent { s with sender := .getting }
  | senderEnds {s} (error : SocketError) : s.Served → s.sender.outcome? = none →
      ConnectionStep orderId s (.senderEnds error) { s with sender := .done (.raised error) }
  | receiverEnds {s} (outcome : TaskOutcome) : s.Served → s.receiver.outcome? = none →
      ConnectionStep orderId s (.receiverEnds outcome) { s with receiver := .done outcome }
  | hub {s call history} : HubHistory.Step s.history call history →
      (∀ queue, s.queue = some queue → call.Spares queue) → ConnectionStep orderId s (.hub call) { s with history }

/-- The step raises where no `finally` unsubscribes any more: before the `try`, or in the `finally` block while it waits
for the tasks. -/
def Escapes (s : Connection) : ConnectionEvent → Prop
  | .fail _ => s.Unguarded ∨ ∃ raised, s.stage = .closing raised
  | _ => False

/-- What the other connections change about who is subscribed. -/
def othersChange (members : Nat → Option UUID) (t : Transition Connection ConnectionEvent) : Nat → Option UUID :=
  match t.label with
  | .hub (.subscribe orderId) => Function.update members t.pre.history.hub.nextHandle (some orderId)
  | .hub (.unsubscribe orderId queue) =>
    if members queue = some orderId then Function.update members queue none else members
  | _ => members

/-- The subscriptions that the others leave, if the connection adds and removes nothing. -/
def othersMembers (members : Nat → Option UUID) (trace : List (Transition Connection ConnectionEvent)) :
    Nat → Option UUID :=
  trace.foldl othersChange members

section

open HubHistory

variable {orderId : UUID} {members : Nat → Option UUID} {history history' : HubHistory} {queue : Option Nat}
  {released : Bool} {s s' : Connection} {label : ConnectionEvent} {call : HubCall} {escaped : Prop}

/-- The hub holds what the others have subscribed and, until it is given back, the queue of the connection. -/
structure Held (orderId : UUID) (members : Nat → Option UUID) (history : HubHistory) (queue : Option Nat)
    (released : Bool) : Prop where
  wellFormed : history.WellFormed
  unset : queue = none → history.subscribedTo = members
  own : ∀ here, queue = some here → history.madeFor here = some orderId
  apart : ∀ here, queue = some here → members here = none
  added : ∀ here, queue = some here →
    history.subscribedTo = if released then members else Function.update members here (some orderId)

/-- One call of the others, seen from who is subscribed. -/
theorem subscribedTo_othersChange (s : Connection) (step : HubHistory.Step s.history call history') :
    history'.subscribedTo = othersChange s.history.subscribedTo ⟨s, .hub call, { s with history := history' }⟩ := by
  obtain ⟨-, rfl⟩ := step
  funext handle
  rw [subscribedTo_after]
  cases call with
  | subscribe orderId => simp [othersChange, Function.update_apply]
  | unsubscribe orderId other =>
    simp only [othersChange]
    by_cases here : handle = other
    · subst here
      by_cases member : s.history.subscribedTo handle = some orderId <;> simp [member]
    · split_ifs <;> simp_all
  | publish | get => rfl

/-- A change of the others does not touch a queue of someone else. -/
theorem othersChange_update {other : Connection} {here : Nat} (spares : call.Spares here)
    (elsewhere : here ≠ s.history.hub.nextHandle) :
    othersChange (Function.update members here (some orderId)) ⟨s, .hub call, other⟩ =
      Function.update (othersChange members ⟨s, .hub call, other⟩) here (some orderId) := by
  cases call with
  | subscribe order => exact Function.update_comm elsewhere ..
  | unsubscribe order queue =>
    have apart : queue ≠ here := spares
    simp only [othersChange, Function.update_of_ne apart]
    split_ifs
    · exact Function.update_comm apart.symm ..
    · rfl
  | publish | get => rfl

theorem othersChange_apart {other : Connection} {here : Nat} (apart : members here = none)
    (elsewhere : here ≠ s.history.hub.nextHandle) : othersChange members ⟨s, .hub call, other⟩ here = none := by
  cases call with
  | subscribe order => simpa [othersChange, Function.update_of_ne elsewhere] using apart
  | unsubscribe order queue =>
    simp only [othersChange]
    split_ifs
    · simp [Function.update_apply, apart]
    · exact apart
  | publish | get => exact apart

theorem Held.subscribe (held : Held orderId members history none released) :
    Held orderId members (history.after (.subscribe orderId)) (some history.hub.nextHandle) false := by
  have free : members history.hub.nextHandle = none := by
    rw [← held.unset rfl]
    by_contra subscribed
    obtain ⟨order, found⟩ := Option.ne_none_iff_exists'.mp subscribed
    have made := madeFor_of_subscribedTo found
    rw [madeFor_nextHandle held.wellFormed] at made
    cases made
  refine ⟨held.wellFormed.step (step_now _ (.subscribe ..) (by simp)), by simp, ?_, ?_, ?_⟩
  · intro here given
    obtain rfl := Option.some.inj given
    simp [madeFor_after]
  · intro here given
    obtain rfl := Option.some.inj given
    exact free
  · intro here given
    obtain rfl := Option.some.inj given
    funext handle
    simp [subscribedTo_after, Function.update_apply, held.unset rfl]

theorem Held.unsubscribe {here : Nat} (held : Held orderId members history (some here) false) :
    Held orderId members (history.after (.unsubscribe orderId here)) (some here) true := by
  refine ⟨held.wellFormed.step (step_now _ (.unsubscribe ..) (by simp)), by simp, ?_, held.apart, ?_⟩
  · intro other given
    rw [madeFor_after]
    exact held.own other given
  · intro other given
    obtain rfl := Option.some.inj given
    funext handle
    rw [subscribedTo_after, held.added here rfl]
    by_cases same : handle = here
    · simp [same, held.apart here rfl]
    · simp [same]

theorem Held.get {here : Nat} (held : Held orderId members history queue released)
    (filled : history.waiting here ≠ []) : Held orderId members (history.after (.get here)) queue released := by
  have step : HubHistory.Step history (.get here) (history.after (.get here)) := by
    refine ⟨fun handle same => ?_, rfl⟩
    obtain rfl := HubCall.get.inj same
    exact filled
  have same : (history.after (.get here)).subscribedTo = history.subscribedTo := by
    funext handle
    exact subscribedTo_after history (.get here) handle
  refine ⟨held.wellFormed.step step, ?_, ?_, held.apart, ?_⟩
  · exact fun unset => same.trans (held.unset unset)
  · intro other given
    rw [madeFor_after]
    exact held.own other given
  · exact fun other given => same.trans (held.added other given)

theorem Held.hub {other : Connection} (held : Held orderId members s.history s.queue s.released)
    (step : HubHistory.Step s.history call history') (spares : ∀ here, s.queue = some here → call.Spares here) :
    Held orderId (othersChange members ⟨s, .hub call, other⟩) history' s.queue s.released := by
  have elsewhere : ∀ here, s.queue = some here → here ≠ s.history.hub.nextHandle := by
    rintro here given rfl
    have made := held.own _ given
    rw [madeFor_nextHandle held.wellFormed] at made
    cases made
  have change := subscribedTo_othersChange s step
  refine ⟨held.wellFormed.step step, ?_, ?_, ?_, ?_⟩
  · intro unset
    rw [change, held.unset unset]
    rfl
  · exact fun here given => step.2 ▸ madeFor_kept held.wellFormed (held.own here given) call
  · exact fun here given => othersChange_apart (held.apart here given) (elsewhere here given)
  · intro here given
    rw [change, held.added here given]
    split_ifs
    · rfl
    · exact othersChange_update (spares here given) (elsewhere here given)

/-- Where the connection stands in a run in which an exception has escaped, or not. -/
structure Course (s : Connection) (escaped : Prop) : Prop where
  before : s.stage = .admitting → s.queue = none
  queued : s.queue = none → s.stage = .admitting ∨ ∃ raised, s.stage = .ended raised
  active : (∀ raised, s.stage ≠ .ended raised) → ¬ escaped ∧ s.released = false
  finished : ∀ raised, s.stage = .ended raised → (escaped ↔ s.queue ≠ none ∧ s.released = false)

/-- Everything that `Course` speaks of stays as it is. -/
theorem Course.same {now : Prop} (course : Course s escaped) (stage : s'.stage = s.stage) (queue : s'.queue = s.queue)
    (released : s'.released = s.released) (none_now : ¬ now) : Course s' (escaped ∨ now) := by
  obtain ⟨before, queued, active, finished⟩ := course
  constructor <;> simpa only [stage, queue, released, none_now, or_false]

theorem Course.subscribed (course : Course s escaped) (active : ∀ raised, s.stage ≠ .ended raised)
    (past : s.stage ≠ .admitting) : s.queue ≠ none := by
  intro unset
  rcases course.queued unset with admitting | ⟨raised, ended⟩
  · exact past admitting
  · exact active raised ended

/-- The endpoint goes on to a stage after the subscription. -/
theorem Course.goes_on {now : Prop} (course : Course s escaped) (active : ∀ raised, s.stage ≠ .ended raised)
    (subscribed : s'.queue ≠ none) (released : s'.released = s.released) (later : s'.stage ≠ .admitting)
    (still : ∀ raised, s'.stage ≠ .ended raised) (none_now : ¬ now) : Course s' (escaped ∨ now) where
  before admitting := absurd admitting later
  queued unset := absurd unset subscribed
  active _ := ⟨by simp [none_now, (course.active active).1], released.trans (course.active active).2⟩
  finished raised ended := absurd ended (still raised)

theorem Course.ends {now : Prop} (course : Course s escaped) (active : ∀ raised, s.stage ≠ .ended raised)
    {raised : Option SocketError} (ended : s'.stage = .ended raised)
    (same : now ↔ s'.queue ≠ none ∧ s'.released = false) : Course s' (escaped ∨ now) where
  before admitting := by
    rw [ended] at admitting
    cases admitting
  queued _ := .inr ⟨raised, ended⟩
  active still := absurd ended (still raised)
  finished _ _ := by simpa [(course.active active).1] using same

/-- An exception that escapes ends a connection that still has its queue. -/
theorem Course.escapes (course : Course s escaped) (escapes : s.Unguarded ∨ ∃ raised, s.stage = .closing raised)
    (error : SocketError) : Course { s with stage := .ended (some error) } (escaped ∨ Escapes s (.fail error)) := by
  have active : ∀ raised, s.stage ≠ .ended raised := by
    rcases escapes with (h | h | h) | ⟨raised, h⟩ <;> simp [h]
  have past : s.stage ≠ .admitting := by
    rcases escapes with (h | h | h) | ⟨raised, h⟩ <;> simp [h]
  refine course.ends active rfl ?_
  exact iff_of_true escapes ⟨course.subscribed active past, (course.active active).2⟩

theorem Course.step (course : Course s escaped) (step : ConnectionStep orderId s label s') :
    Course s' (escaped ∨ Escapes s label) := by
  cases step with
  | refuse raised stage => exact course.ends (by simp [stage]) rfl (by simp [Escapes, course.before stage])
  | subscribe stage => exact course.goes_on (by simp [stage]) (by simp) rfl (by simp) (by simp) id
  | loaded stage | accepted stage | greeted stage | woken stage | settled stage =>
    have subscribed := course.subscribed (by simp [stage]) (by simp [stage])
    exact course.goes_on (by simp [stage]) subscribed rfl (by simp) (by simp) id
  | broken error unguarded => exact course.escapes (.inl unguarded) error
  | interrupted guarded =>
    have inside : ¬ Escapes s (.fail .cancelledError) := by
      rcases guarded with stage | ⟨done, stage⟩ <;> simp [Escapes, Connection.Unguarded, stage]
    have active : ∀ raised, s.stage ≠ .ended raised := by
      rcases guarded with stage | ⟨done, stage⟩ <;> simp [stage]
    have subscribed : s.queue ≠ none := by
      refine course.subscribed active ?_
      rcases guarded with stage | ⟨done, stage⟩ <;> simp [stage]
    exact course.goes_on active subscribed rfl (by simp) (by simp) inside
  | closed stage => exact course.ends (by simp [stage]) rfl (by simp [Escapes])
  | abandoned stage => exact course.escapes (.inr ⟨_, stage⟩) .cancelledError
  | take | sent | senderEnds | receiverEnds | hub => exact course.same rfl rfl rfl id

theorem Held.step (held : Held orderId members s.history s.queue s.released) (course : Course s escaped)
    (step : ConnectionStep orderId s label s') :
    Held orderId (othersChange members ⟨s, label, s'⟩) s'.history s'.queue s'.released := by
  cases step with
  | subscribe stage =>
    have kept : s.released = false := (course.active (by simp [stage])).2
    rw [course.before stage, kept] at held
    change Held orderId members _ _ s.released
    rw [kept]
    exact held.subscribe
  | closed stage quiet given =>
    rw [given, (course.active (by simp [stage])).2] at held
    change Held orderId members _ s.queue true
    rw [given]
    exact held.unsubscribe
  | @take queue event rest served getting given queued => exact held.get (by simp [queued])
  | hub step spares => exact held.hub step spares
  | refuse | loaded | accepted | greeted | broken | woken | settled | interrupted | abandoned | sent | senderEnds
  | receiverEnds => exact held

/-- A connection that has not been admitted yet. -/
def Connection.opened (history : HubHistory) : Connection := { history }

variable {trace : List (Transition Connection ConnectionEvent)}

theorem held_run (wf : history.WellFormed) (run : Exec (ConnectionStep orderId) (.opened history) trace s) :
    Held orderId (othersMembers history.subscribedTo trace) s.history s.queue s.released ∧
      Course s (∃ t ∈ trace, Escapes t.pre t.label) := by
  induction run with
  | start =>
    refine ⟨⟨wf, fun _ => rfl, ?_, ?_, ?_⟩, ⟨fun _ => rfl, fun _ => .inl rfl, ?_, ?_⟩⟩
    all_goals simp [Connection.opened]
  | next _ taken ih =>
    obtain ⟨held, course⟩ := ih
    have after := course.step taken
    refine ⟨?_, ?_⟩
    · rw [othersMembers, List.foldl_append]
      exact held.step course taken
    · simpa [or_and_right, exists_or] using after

variable {size : Int} {earlier : List (Transition HubHistory HubCall)} {raised : Option SocketError}

/-- Once the endpoint has ended, the subscriptions are those that were there before the connection, with the changes of
the others, exactly when no exception came between the subscription and the `try`, and no cancellation while the
`finally` block waited for the tasks. -/
theorem no_subscription_left_iff (before : Exec HubHistory.Step (fresh size) earlier history)
    (run : Exec (ConnectionStep orderId) (.opened history) trace s) (ended : s.stage = .ended raised) :
    s.history.subscribedTo = othersMembers history.subscribedTo trace ↔ ∀ t ∈ trace, ¬ Escapes t.pre t.label := by
  have wf : history.WellFormed := by
    refine before.invariant ?_ fun _ _ _ wf step => wf.step step
    exact ⟨by simp [fresh], by simp [fresh], by simp [fresh]⟩
  obtain ⟨held, course⟩ := held_run wf run
  have none_escaped : (∀ t ∈ trace, ¬ Escapes t.pre t.label) ↔ s.queue = none ∨ ¬ s.released = false := by
    have escaped := not_congr (course.finished raised ended)
    rw [not_and_or, not_not] at escaped
    simpa only [not_exists, not_and] using escaped
  rw [none_escaped]
  cases given : s.queue with
  | none => simp [held.unset given]
  | some here =>
    rw [held.added here given]
    cases s.released with
    | true => simp
    | false =>
      have absent := held.apart here given
      simp only [Bool.false_eq_true, if_false, reduceCtorEq, not_true_eq_false, or_self, iff_false]
      intro same
      have := congrFun same here
      simp [absent] at this

end

/-- A client that disconnects while the endpoint serves it, as another one comes. -/
theorem no_subscription_left_after_disconnect : ∃ trace s,
    Exec (ConnectionStep 7) (.opened (HubHistory.fresh 8)) trace s ∧ s.stage = .ended none ∧
    s.history.subscribedTo 1 = some 9 ∧ s.history.subscribedTo = othersMembers (fun _ => none) trace := by
  have subscribed : Exec (ConnectionStep 7) (.opened (HubHistory.fresh 8)) _ _ := Exec.start.next (.subscribe rfl)
  have accepting := subscribed.next (.loaded rfl)
  have joined := accepting.next (.hub (HubHistory.step_now _ (.subscribe 9) (by simp)) fun _ _ => trivial)
  have greeting := joined.next (.accepted rfl)
  have serving := greeting.next (.greeted rfl)
  have gone := serving.next (.receiverEnds .returned (.inl rfl) rfl)
  have settling := gone.next (.woken rfl (by simp [Connection.done, ReceiverTask.outcome?]))
  have cancelled := settling.next (.senderEnds .cancelledError (.inr (.inl ⟨_, rfl⟩)) rfl)
  have settles : Settles [.returned] none := by simp [Settles]
  have closing := cancelled.next (.settled rfl ⟨nofun, nofun⟩ settles)
  have run := closing.next (.closed rfl ⟨nofun, nofun⟩ rfl)
  refine ⟨_, _, run, rfl, rfl, ?_⟩
  exact (no_subscription_left_iff .start run rfl).mpr (by simp [Escapes])

/-- A client that is gone before the first message is sent to it. -/
theorem subscription_left_by_lost_client : ¬ ∀ (size : Int) (history : HubHistory) (orderId : UUID) earlier trace s
    (raised : Option SocketError), Exec HubHistory.Step (HubHistory.fresh size) earlier history →
    Exec (ConnectionStep orderId) (.opened history) trace s → s.stage = .ended raised →
    s.history.subscribedTo = othersMembers history.subscribedTo trace := by
  intro all
  have subscribed : Exec (ConnectionStep 7) (.opened (HubHistory.fresh 8)) _ _ := Exec.start.next (.subscribe rfl)
  have accepting := subscribed.next (.loaded rfl)
  have greeting := accepting.next (.accepted rfl)
  have run := greeting.next (.broken .webSocketDisconnect (.inr (.inr rfl)))
  have same := congrFun (all 8 _ 7 _ _ _ _ .start run rfl) 0
  cases same

end DeliveryService
