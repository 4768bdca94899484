import DeliveryService.CircuitBreaker
import DeliveryService.Dict
import DeliveryService.PyJson

namespace DeliveryService

/-- The classes of exceptions that the route lookup tells apart, and all others by name. -/
inductive ExceptionClass
  | cancelledError
  | timeoutError
  | timeoutException
  | requestError
  | httpStatusError
  | invalidRouteResponse
  | retryableRouteStatus
  | connectError
  | connectTimeout
  | readError
  | readTimeout
  | remoteProtocolError
  | valueError
  | assertionError
  | other (name : String)
deriving DecidableEq

/-- An exception: its class with those that it inherits from, and the status of the response that it carries. -/
structure PyException where
  classes : List ExceptionClass
  status : Int := 0
deriving DecidableEq

namespace PyException

def isInstance (exc : PyException) (cls : ExceptionClass) : Bool := cls ∈ exc.classes

def cancelled : PyException := ⟨[.cancelledError, .other "BaseException"], 0⟩

def deadline : PyException := ⟨[.timeoutError, .other "OSError", .other "Exception"], 0⟩

def statusError (status : Int) : PyException := ⟨[.httpStatusError, .other "HTTPError", .other "Exception"], status⟩

def retryableStatus (status : Int) : PyException :=
  ⟨[.retryableRouteStatus, .httpStatusError, .other "HTTPError", .other "Exception"], status⟩

def badValue : PyException := ⟨[.valueError, .other "Exception"], 0⟩

def recursion : PyException := ⟨[.other "RecursionError", .other "RuntimeError", .other "Exception"], 0⟩

def invalidResponse : PyException := ⟨[.invalidRouteResponse, .other "RuntimeError", .other "Exception"], 0⟩

def assertion : PyException := ⟨[.assertionError, .other "Exception"], 0⟩

end PyException

structure RouteEstimate where
  distanceM : Int
  durationS : Int
  providerRef : String
deriving DecidableEq

/-- The payload of the provider, within the bounds of its fields. -/
structure ProviderRoutePayload where
  routeId : String
  distanceMeters : Int
  durationSeconds : Int
  valid : (1 ≤ routeId.length ∧ routeId.length ≤ 128) ∧ (0 < distanceMeters ∧ distanceMeters ≤ 2000000) ∧
    (0 < durationSeconds ∧ durationSeconds ≤ 172800)

/-- A response; its body is `none` if it is no text. -/
structure RouteResponse where
  statusCode : Int
  body : Option (List Char)

open PyJson in
/-- `response.json()` -/
def RouteResponse.json (reader : Reader) (response : RouteResponse) : Except PyException Json :=
  match response.body with
  | none => .error .badValue
  | some text => match loads reader text with
    | .ok value => .ok value
    | .error .valueError => .error .badValue
    | .error .recursionError => .error .recursion

open PyJson in
/-- `ProviderRoutePayload.model_validate`: strict types, and no other fields. -/
def ProviderRoutePayload.modelValidate : Json → Except PyException ProviderRoutePayload
  | .dict fields =>
    match field? fields "route_id", field? fields "distance_meters", field? fields "duration_seconds" with
    | some (.str routeId), some (.int distance), some (.int duration) =>
      if fields.all fun field => field.1 ∈ ["route_id", "distance_meters", "duration_seconds"] then
        if valid : (1 ≤ routeId.length ∧ routeId.length ≤ 128) ∧ (0 < distance ∧ distance ≤ 2000000) ∧
            (0 < duration ∧ duration ≤ 172800) then
          .ok ⟨routeId, distance, duration, valid⟩
        else .error .badValue
      else .error .badValue
    | _, _, _ => .error .badValue
  | _ => .error .badValue

/-- `except (ValueError, ValidationError)`; the second is a `ValueError` too. -/
def asInvalidResponse {α : Type} : Except PyException α → Except PyException α
  | .error exc => .error (if exc.isInstance .valueError then .invalidResponse else exc)
  | .ok value => .ok value

/-- `_estimate_once`, from what `self._client.get` returns or raises. -/
def estimateOnce (reader : PyJson.Reader) (sent : Except PyException RouteResponse) :
    Except PyException RouteEstimate := do
  let response ← sent
  if response.statusCode ∈ [429, 502, 503, 504] then throw (.retryableStatus response.statusCode)
  -- `raise_for_status`
  if ¬ (200 ≤ response.statusCode ∧ response.statusCode ≤ 299) then throw (.statusError response.statusCode)
  let remote ← asInvalidResponse (response.json reader >>= ProviderRoutePayload.modelValidate)
  return { distanceM := remote.distanceMeters, durationS := remote.durationSeconds, providerRef := remote.routeId }

/-- What a retry controller does when it is asked for the next attempt. -/
inductive Pull
  | attempt
  | raise (exc : PyException)
  | stop

/-- A retry controller, asked with the number of attempts so far and the exception of the last one. -/
abbrev RetryController := Nat → Option PyException → Pull

def retryableRouteErrors : List ExceptionClass :=
  [.connectError, .connectTimeout, .readError, .readTimeout, .remoteProtocolError, .retryableRouteStatus]

/-- `build_route_retrying` -/
def buildRouteRetrying (attempts : Nat) : RetryController := fun done last =>
  match last with
  | none => .attempt
  | some exc =>
    if retryableRouteErrors.any exc.isInstance = true ∧ done < attempts then .attempt else .raise exc

/-- How the loop goes on: with the attempt, or with an exception. -/
def Pull.reply (attempted : Option (Except PyException RouteEstimate)) :
    Pull → Option (Except PyException RouteEstimate)
  | .attempt => attempted
  | .raise exc => some (.error exc)
  | .stop => some (.error .assertion)

/-- `run_with_route_retry`, on what its attempts return or raise one after the other; `none` if they are too few. -/
def runWithRouteRetry (controller : RetryController) :
    Nat → Option PyException → List (Except PyException RouteEstimate) → Option (Except PyException RouteEstimate)
  | done, last, [] => (controller done last).reply none
  | done, last, .ok result :: _ => (controller done last).reply (some (.ok result))
  | done, last, .error exc :: rest =>
    (controller done last).reply (runWithRouteRetry controller (done + 1) (some exc) rest)

/-- The parts of the adapter that the outcome depends on: the interpreter that reads the bodies, and the retries. -/
structure RouteServiceAdapter where
  reader : PyJson.Reader
  retryFactory : RetryController := buildRouteRetrying 3

/-- What the guarded part of `estimate` can return or raise: the lookup comes to its end, or it is cancelled, or
`asyncio.timeout` ends it. -/
inductive RouteServiceAdapter.Guarded (adapter : RouteServiceAdapter) : Except PyException RouteEstimate → Prop
  | completed {outcome} (sent : List (Except PyException RouteResponse)) :
      runWithRouteRetry adapter.retryFactory 0 none (sent.map (estimateOnce adapter.reader)) = some outcome →
      Guarded adapter outcome
  | cancelled : Guarded adapter (.error .cancelled)
  | expired : Guarded adapter (.error .deadline)

inductive RouteError
  | routeServiceUnavailable (message : String)
  | routeRequestRejected (message : String)
  | raised (exc : PyException)
deriving DecidableEq

/-- The `except` and `else` clauses of `estimate`: what is done with the permit, and how the call ends. -/
def conclude : Except PyException RouteEstimate → Option (CircuitPermit → CircuitOp) × Except RouteError RouteEstimate
  | .ok result => (some .recordSuccess, .ok result)
  | .error exc =>
    if exc.isInstance .cancelledError then (some .abandon, .error (.raised exc))
    else if exc.isInstance .timeoutError then
      (some .recordFailure, .error (.routeServiceUnavailable "route lookup deadline exceeded"))
    else if exc.isInstance .timeoutException then
      (some .recordFailure, .error (.routeServiceUnavailable "route service timed out"))
    else if exc.isInstance .requestError then
      (some .recordFailure, .error (.routeServiceUnavailable "route service is unreachable"))
    else if exc.isInstance .invalidRouteResponse then (some .recordFailure, .error (.raised exc))
    else if exc.isInstance .httpStatusError then
      if exc.status ∈ [400, 404, 422] then
        (some .recordSuccess, .error (.routeRequestRejected "route cannot be calculated"))
      else (some .recordFailure, .error (.routeServiceUnavailable "route service returned an error"))
    else (none, .error (.raised exc))

/-- A call of `estimate`: its permit, the calls of the breaker that resolved it, and how it has ended. -/
structure RouteCall where
  permit : Option CircuitPermit
  resolutions : List CircuitOp := []
  answer : Option (Except RouteError RouteEstimate) := none

/-- The call after `acquire`. -/
def RouteCall.begun : Except CircuitError CircuitPermit → RouteCall
  | .ok permit => { permit := some permit }
  | .error (.circuitOpen _) =>
    { permit := none, answer := some (.error (.routeServiceUnavailable "route service is temporarily disabled")) }
  | .error .assertion => { permit := none, answer := some (.error (.raised .assertion)) }

/-- The breaker, with the permits that were not resolved yet, and all calls of `estimate`. -/
structure RouteSystem (T : Type) where
  circuit : Circuit T := {}
  calls : Dict Nat RouteCall := .empty

inductive RouteEvent (T : Type)
  | begin (call : Nat) (now : T)
  | finish (call : Nat) (outcome : Except PyException RouteEstimate) (now : T)

section

variable {T : Type} [Zero T] [LT T] [Sub T] [DecidableLT T] (settings : CircuitSettings T)

namespace RouteSystem

def begin (s : RouteSystem T) (call : Nat) (now : T) : RouteSystem T where
  circuit := s.circuit.next settings ⟨now, .acquire⟩
  calls := s.calls.set call (.begun (s.circuit.breaker.acquire settings now).1)

def finish (s : RouteSystem T) (call : Nat) (running : RouteCall) (permit : CircuitPermit)
    (outcome : Except PyException RouteEstimate) (now : T) : RouteSystem T :=
  let resolutions := ((conclude outcome).1.map fun op => op permit).toList
  { circuit := resolutions.foldl (fun circuit op => circuit.next settings ⟨now, op⟩) s.circuit
    calls := s.calls.set call { running with
      resolutions := running.resolutions ++ resolutions, answer := some (conclude outcome).2 } }

end RouteSystem

/-- The steps of any number of calls of `estimate`. -/
inductive RouteStep (adapter : RouteServiceAdapter) : RouteSystem T → RouteEvent T → RouteSystem T → Prop
  | begin {s} (call : Nat) (now : T) : s.calls.get? call = none →
      RouteStep adapter s (.begin call now) (s.begin settings call now)
  | finish {s call running permit outcome} (now : T) : s.calls.get? call = some running →
      running.permit = some permit → running.answer = none → adapter.Guarded outcome →
      RouteStep adapter s (.finish call outcome now) (s.finish settings call running permit outcome now)

end

/-- A result, or an exception of a class that `estimate` names. -/
def Handled : Except PyException RouteEstimate → Prop
  | .ok _ => True
  | .error exc => ∃ cls ∈ [.cancelledError, .timeoutError, .timeoutException, .requestError, .invalidRouteResponse,
      .httpStatusError], exc.isInstance cls = true

/-- Every finished call has resolved its permit exactly once. When all calls have finished no probe is in flight, and
the next call after the recovery timeout is let through. -/
structure PermitsReturned {T : Type} [Zero T] [LT T] [Sub T] [DecidableLT T] (settings : CircuitSettings T)
    (s : RouteSystem T) : Prop where
  once : ∀ call running permit, s.calls.get? call = some running → running.permit = some permit →
    running.answer ≠ none → ∃ op, running.resolutions = [op] ∧ op.resolved = some permit
  settled : (∀ call running, s.calls.get? call = some running → running.answer ≠ none) →
    s.circuit.breaker.probeInFlight = false
  probed : (∀ call running, s.calls.get? call = some running → running.answer ≠ none) →
    ∀ now openedAt, s.circuit.breaker.openedAt = some openedAt → ¬ now - openedAt < settings.recoveryTimeout →
      s.circuit.grants settings now = true

section

variable {T : Type} [Zero T] [LT T] [Sub T] [DecidableLT T] {settings : CircuitSettings T}
  {adapter : RouteServiceAdapter} {s s' : RouteSystem T} {label : RouteEvent T} {call other : Nat}
  {running later : RouteCall} {permit : CircuitPermit} {outcome : Except PyException RouteEstimate}

theorem conclude_handled (handled : Handled outcome) :
    ∃ op, (conclude outcome).1 = some op ∧ ∀ permit, (op permit).resolved = some permit := by
  cases outcome with
  | ok result => exact ⟨_, rfl, fun _ => rfl⟩
  | error exc =>
    simp only [conclude]
    split_ifs with cancelled deadline timeout unreachable invalid status rejected
    · exact ⟨_, rfl, fun _ => rfl⟩
    · exact ⟨_, rfl, fun _ => rfl⟩
    · exact ⟨_, rfl, fun _ => rfl⟩
    · exact ⟨_, rfl, fun _ => rfl⟩
    · exact ⟨_, rfl, fun _ => rfl⟩
    · exact ⟨_, rfl, fun _ => rfl⟩
    · exact ⟨_, rfl, fun _ => rfl⟩
    · simp [Handled, cancelled, deadline, timeout, unreachable, invalid, status] at handled

theorem conclude_unhandled (unhandled : ¬ Handled outcome) : (conclude outcome).1 = none := by
  cases outcome with
  | ok result => exact absurd trivial unhandled
  | error exc =>
    simp only [Handled, List.mem_cons, List.not_mem_nil, or_false, exists_eq_or_imp, exists_eq_left,
      not_or] at unhandled
    obtain ⟨cancelled, deadline, timeout, unreachable, invalid, status⟩ := unhandled
    simp [conclude, cancelled, deadline, timeout, unreachable, invalid, status]

/-- A call in progress has resolved nothing yet. -/
def Tidied (s : RouteSystem T) : Prop :=
  ∀ call running, s.calls.get? call = some running → running.answer = none → running.resolutions = []

theorem tidied_step (tidied : Tidied s) (step : RouteStep settings adapter s label s') : Tidied s' := by
  intro call running found open_
  cases step with
  | begin other now unused =>
    simp only [RouteSystem.begin, Dict.get?_set] at found
    split_ifs at found
    · obtain rfl := Option.some.inj found
      cases answer : (s.circuit.breaker.acquire settings now).1 with
      | ok permit => rfl
      | error refusal => cases refusal <;> rfl
    · exact tidied call running found open_
  | finish now =>
    simp only [RouteSystem.finish, Dict.get?_set] at found
    split_ifs at found
    · obtain rfl := Option.some.inj found
      simp at open_
    · exact tidied call running found open_

/-- The entries of other calls, and of a call that has ended, stay. -/
theorem ended_kept (found : s.calls.get? call = some running) (ended : running.answer ≠ none)
    (step : RouteStep settings adapter s label s') : s'.calls.get? call = some running := by
  cases step with
  | begin other now unused =>
    have apart : call ≠ other := by
      rintro rfl
      rw [found] at unused
      cases unused
    rw [RouteSystem.begin, Dict.get?_set_of_ne _ _ apart, found]
  | @finish other later permit outcome now there held open_ =>
    have apart : call ≠ other := by
      rintro rfl
      obtain rfl := Option.some.inj (found.symm.trans there)
      exact ended open_
    rw [RouteSystem.finish, Dict.get?_set_of_ne _ _ apart, found]

/-- A call that ends otherwise leaves its permit unresolved. -/
theorem unhandled_left {now : T} (tidied : Tidied s) (unhandled : ¬ Handled outcome)
    (step : RouteStep settings adapter s (.finish call outcome now) s') : ∃ running permit,
      s'.calls.get? call = some running ∧ running.permit = some permit ∧ running.answer ≠ none ∧
        running.resolutions = [] := by
  cases step with
  | @finish _ running permit _ _ found held open_ guarded =>
    refine ⟨_, permit, Dict.get?_set_self .., held, by simp, ?_⟩
    simp [conclude_unhandled unhandled, tidied call running found open_]

theorem held_resolve {circuit : Circuit T} {op : CircuitOp} (now : T) (resolves : op.resolved = some permit) :
    (circuit.next settings ⟨now, op⟩).held = circuit.held.erase permit := by
  cases op with
  | acquire => cases resolves
  | recordSuccess | recordFailure | abandon =>
    obtain rfl := Option.some.inj resolves
    rfl

/-- A call in progress holds the probe, if it is in flight; and those that have ended have resolved their permits. -/
structure Returned (settings : CircuitSettings T) (s : RouteSystem T) : Prop where
  wellFormed : s.circuit.WellFormed settings
  once : ∀ call running permit, s.calls.get? call = some running → running.permit = some permit →
    running.answer ≠ none → ∃ op, running.resolutions = [op] ∧ op.resolved = some permit
  owner : probePermit ∈ s.circuit.held → ∃ call running, s.calls.get? call = some running ∧
    running.permit = some probePermit ∧ running.answer = none

omit [Sub T] [DecidableLT T] in
theorem Returned.settled (returned : Returned settings s)
    (ended : ∀ call running, s.calls.get? call = some running → running.answer ≠ none) :
    s.circuit.breaker.probeInFlight = false := by
  by_contra flies
  have probe := returned.wellFormed.inFlight.mp (by simpa using flies)
  obtain ⟨call, running, found, -, open_⟩ := returned.owner probe
  exact ended call running found open_

theorem Returned.begin (returned : Returned settings s) (unused : s.calls.get? call = none) (now : T) :
    Returned settings (s.begin settings call now) := by
  refine ⟨wellFormed_acquire returned.wellFormed now, ?_, ?_⟩
  · intro other later permit found held ended
    simp only [RouteSystem.begin, Dict.get?_set] at found
    split_ifs at found
    · obtain rfl := Option.some.inj found
      cases answer : (s.circuit.breaker.acquire settings now).1 with
      | ok granted => simp [answer, RouteCall.begun] at ended
      | error refusal => cases refusal <;> simp [answer, RouteCall.begun] at held
    · exact returned.once other later permit found held ended
  · intro probe
    by_cases earlier : probePermit ∈ s.circuit.held
    · obtain ⟨other, later, found, own, open_⟩ := returned.owner earlier
      have apart : other ≠ call := by
        rintro rfl
        rw [found] at unused
        cases unused
      exact ⟨other, later, by rw [RouteSystem.begin, Dict.get?_set_of_ne _ _ apart, found], own, open_⟩
    · -- the probe has just been granted
      refine ⟨call, _, Dict.get?_set_self .., ?_⟩
      simp only [RouteSystem.begin, Circuit.next, List.mem_append, earlier, or_false] at probe
      cases answer : (s.circuit.breaker.acquire settings now).1 with
      | ok granted =>
        have same : probePermit = granted := by simpa [answer, Except.toOption] using probe
        exact ⟨by rw [same]; rfl, rfl⟩
      | error refusal => simp [answer, Except.toOption] at probe

theorem Returned.finish (returned : Returned settings s) (tidied : Tidied s) (found : s.calls.get? call = some running)
    (held : running.permit = some permit) (open_ : running.answer = none) (handled : Handled outcome) (now : T) :
    Returned settings (s.finish settings call running permit outcome now) := by
  obtain ⟨op, concluded, resolves⟩ := conclude_handled handled
  have circuit : (s.finish settings call running permit outcome now).circuit =
      s.circuit.next settings ⟨now, op permit⟩ := by
    simp [RouteSystem.finish, concluded]
  have entry : (s.finish settings call running permit outcome now).calls = s.calls.set call { running with
      resolutions := [op permit], answer := some (conclude outcome).2 } := by
    simp [RouteSystem.finish, concluded, tidied call running found open_]
  refine ⟨?_, ?_, ?_⟩
  · rw [circuit]
    exact wellFormed_resolve returned.wellFormed now (resolves permit)
  · intro other later given there own ended
    rw [entry, Dict.get?_set] at there
    split_ifs at there
    · obtain rfl := Option.some.inj there
      obtain rfl := Option.some.inj (held.symm.trans own)
      exact ⟨_, rfl, resolves permit⟩
    · exact returned.once other later given there own ended
  · intro probe
    rw [circuit, held_resolve now (resolves permit)] at probe
    have ordinary : permit ≠ probePermit := by
      rintro rfl
      exact probe_not_mem_erase returned.wellFormed.singleProbe probe
    obtain ⟨other, later, there, own, waits⟩ := returned.owner (List.mem_of_mem_erase probe)
    have apart : other ≠ call := by
      rintro rfl
      obtain rfl := Option.some.inj (found.symm.trans there)
      exact ordinary (Option.some.inj (held.symm.trans own))
    exact ⟨other, later, by rw [entry, Dict.get?_set_of_ne _ _ apart, there], own, waits⟩

/-- The outcome with which a step ends a call is one that `estimate` handles. -/
def EndsHandled : RouteEvent T → Prop
  | .finish _ outcome _ => Handled outcome
  | .begin _ _ => True

theorem Returned.step (returned : Returned settings s) (tidied : Tidied s)
    (step : RouteStep settings adapter s label s') (handled : EndsHandled label) : Returned settings s' := by
  cases step with
  | begin call now unused => exact returned.begin unused now
  | finish now found held open_ => exact returned.finish tidied found held open_ handled now

variable {trace : List (Transition (RouteSystem T) (RouteEvent T))}

theorem tidied_run (run : Exec (RouteStep settings adapter) {} trace s) : Tidied s :=
  run.invariant (fun _ _ found => by cases found) fun _ _ _ => tidied_step

theorem returned_run (run : Exec (RouteStep settings adapter) {} trace s) (handled : ∀ t ∈ trace, EndsHandled t.label) :
    Returned settings s := by
  have initial : Tidied ({} : RouteSystem T) ∧ Returned settings {} := by
    refine ⟨fun _ _ found => ?_, wellFormed_initial, fun _ _ _ found => ?_, fun probe => ?_⟩
    · cases found
    · cases found
    · cases probe
  have both := run.invariant_while (I := fun s => Tidied s ∧ Returned settings s)
    (C := fun _ label => EndsHandled label) initial
    (fun _ _ _ both step handled => ⟨tidied_step both.1 step, both.2.step both.1 step handled⟩) handled
  exact both.2

/-- In every run of any number of calls, the permits of all calls that have ended were resolved exactly once, and no
probe is in flight when all have ended, exactly when every call has ended with a result or an exception that
`estimate` names. -/
theorem permits_returned_iff (run : Exec (RouteStep settings adapter) {} trace s) :
    PermitsReturned settings s ↔ ∀ t ∈ trace, EndsHandled t.label := by
  constructor
  · intro returned t mem
    cases event : t.label with
    | begin call now => trivial
    | finish call outcome now =>
      by_contra unhandled
      obtain ⟨earlier, rest, rfl⟩ := List.append_of_mem mem
      obtain ⟨before, step, after⟩ := run.split
      rw [event] at step
      obtain ⟨running, permit, found, held, ended, unresolved⟩ := unhandled_left (tidied_run before) unhandled step
      -- what has ended stays as it is
      have kept : s.calls.get? call = some running :=
        after.invariant found fun _ _ _ found step => ended_kept found ended step
      obtain ⟨op, resolved, -⟩ := returned.once call running permit kept held ended
      rw [unresolved] at resolved
      cases resolved
  · intro handled
    have returned := returned_run run handled
    refine ⟨returned.once, returned.settled, fun ended now openedAt opened elapsed => ?_⟩
    have idle := returned.settled ended
    by_cases closed : s.circuit.breaker.state = .closed
    · simp [Circuit.grants, CircuitBreaker.acquire, closed, Except.isOk, Except.toBool]
    · simp [Circuit.grants, CircuitBreaker.acquire, closed, opened, elapsed, idle, Except.isOk, Except.toBool]

end

section

open PyJson

variable {reader : Reader}

theorem estimateOnce_retryable {response : RouteResponse} (temporary : response.statusCode ∈ [429, 502, 503, 504]) :
    estimateOnce reader (.ok response) = .error (.retryableStatus response.statusCode) := by
  simp only [estimateOnce, bind, Except.bind, if_pos temporary]
  rfl

theorem estimateOnce_refused {response : RouteResponse} (final : response.statusCode ∉ [429, 502, 503, 504])
    (refused : ¬ (200 ≤ response.statusCode ∧ response.statusCode ≤ 299)) :
    estimateOnce reader (.ok response) = .error (.statusError response.statusCode) := by
  simp only [estimateOnce, bind, Except.bind, if_neg final, if_pos refused]
  rfl

/-- A payload that does not validate is a `ValueError`. -/
theorem modelValidate_error {value : Json} {exc : PyException}
    (failed : ProviderRoutePayload.modelValidate value = .error exc) : exc = .badValue := by
  unfold ProviderRoutePayload.modelValidate at failed
  split at failed
  · split at failed
    · split_ifs at failed
      · exact (Except.error.inj failed).symm
      · exact (Except.error.inj failed).symm
    · exact (Except.error.inj failed).symm
  · exact (Except.error.inj failed).symm

theorem json_recursion_iff (response : RouteResponse) : response.json reader = .error .recursion ↔
    ∃ text, response.body = some text ∧ loads reader text = .error .recursionError := by
  unfold RouteResponse.json
  cases response.body with
  | none => simp [PyException.badValue, PyException.recursion]
  | some text =>
    cases read : loads reader text with
    | ok value => simp [read]
    | error failure => cases failure <;> simp [read, PyException.badValue, PyException.recursion]

theorem json_error {response : RouteResponse} {exc : PyException} (failed : response.json reader = .error exc) :
    exc = .badValue ∨ exc = .recursion := by
  unfold RouteResponse.json at failed
  split at failed
  · exact .inl (Except.error.inj failed).symm
  · split at failed
    · cases failed
    · exact .inl (Except.error.inj failed).symm
    · exact .inr (Except.error.inj failed).symm

/-- Of an answer with a good status, only a body that nests too deep leaves the lookup unhandled. -/
theorem estimateOnce_answered {response : RouteResponse} (final : response.statusCode ∉ [429, 502, 503, 504])
    (success : 200 ≤ response.statusCode ∧ response.statusCode ≤ 299) :
    ¬ Handled (estimateOnce reader (.ok response)) ↔ response.json reader = .error .recursion := by
  have invalid : Handled (.error .invalidResponse) := ⟨.invalidRouteResponse, by simp, by decide⟩
  have deep : ¬ Handled (.error .recursion) := by simp [Handled, PyException.recursion, PyException.isInstance]
  have bad : PyException.badValue.isInstance .valueError = true := by decide
  have other : PyException.recursion.isInstance .valueError = false := by decide
  have differ : PyException.badValue ≠ .recursion := by decide
  simp only [estimateOnce, bind, Except.bind, if_neg final, if_neg (not_not.mpr success)]
  cases read : response.json reader with
  | error exc =>
    rcases json_error read with rfl | rfl
    · simp [asInvalidResponse, bad, invalid, differ]
    · simp [asInvalidResponse, other, deep]
  | ok value =>
    cases validated : ProviderRoutePayload.modelValidate value with
    | error exc =>
      obtain rfl := modelValidate_error validated
      simp [validated, asInvalidResponse, bad, invalid]
    | ok remote => simp [validated, asInvalidResponse, Handled, pure, Except.pure]

theorem estimateOnce_deep {response : RouteResponse} (final : response.statusCode ∉ [429, 502, 503, 504])
    (success : 200 ≤ response.statusCode ∧ response.statusCode ≤ 299)
    (read : response.json reader = .error .recursion) : estimateOnce reader (.ok response) = .error .recursion := by
  have other : PyException.recursion.isInstance .valueError = false := by decide
  simp only [estimateOnce, bind, Except.bind, if_neg final, if_neg (not_not.mpr success), read, asInvalidResponse,
    other]
  rfl

/-- One attempt raises what `estimate` does not name, if the client does, or if the body nests too deep to be read. -/
theorem estimateOnce_unhandled_iff (sent : Except PyException RouteResponse) : ¬ Handled (estimateOnce reader sent) ↔
    (∃ exc, sent = .error exc ∧ ¬ Handled (.error exc)) ∨
    ∃ response text, sent = .ok response ∧ (200 ≤ response.statusCode ∧ response.statusCode ≤ 299) ∧
      response.body = some text ∧ loads reader text = .error .recursionError := by
  cases sent with
  | error exc => simp [estimateOnce, bind, Except.bind]
  | ok response =>
    by_cases final : response.statusCode ∈ [429, 502, 503, 504]
    · have handled : Handled (estimateOnce reader (.ok response)) := by
        rw [estimateOnce_retryable final]
        exact ⟨.httpStatusError, by simp, by simp [PyException.retryableStatus, PyException.isInstance]⟩
      have outside : ¬ (200 ≤ response.statusCode ∧ response.statusCode ≤ 299) := by
        simp only [List.mem_cons, List.not_mem_nil, or_false] at final
        omega
      simp [handled, outside]
    · by_cases success : 200 ≤ response.statusCode ∧ response.statusCode ≤ 299
      · rw [estimateOnce_answered final success, json_recursion_iff]
        simp [success]
      · have handled : Handled (estimateOnce reader (.ok response)) := by
          rw [estimateOnce_refused final success]
          exact ⟨.httpStatusError, by simp, by simp [PyException.statusError, PyException.isInstance]⟩
        simp [handled, success]

end

/-- The scanner after some opening brackets. -/
def bracketed (n : Nat) : PyJson.Scanner :=
  if n = 0 then {} else ⟨List.replicate n (.list []), .firstItem⟩

theorem step_bracket (reader : PyJson.Reader) (n : Nat) : PyJson.step reader (bracketed n) '[' =
    if reader.depth ≤ n then .error .recursionError else .ok (bracketed (n + 1)) := by
  have blank : PyJson.isBlank '[' = false := by decide
  cases n with
  | zero => simp [bracketed, PyJson.step, PyJson.stepBetween, blank, PyJson.startValue]
  | succ n => simp [bracketed, PyJson.step, PyJson.stepBetween, blank, PyJson.startValue, List.replicate_succ]

theorem scan_brackets (reader : PyJson.Reader) (n : Nat) (room : n ≤ reader.depth) :
    (List.replicate n '[').foldlM (PyJson.step reader) {} = .ok (bracketed n) := by
  induction n with
  | zero => rfl
  | succ n ih =>
    have deep : ¬ reader.depth ≤ n := by omega
    rw [List.replicate_succ', List.foldlM_append, ih (by omega)]
    change List.foldlM (PyJson.step reader) (bracketed n) ['['] = _
    rw [List.foldlM_cons, step_bracket, if_neg deep]
    rfl

/-- A text that nests deeper than the interpreter follows. -/
theorem loads_too_deep (reader : PyJson.Reader) :
    PyJson.loads reader (List.replicate (reader.depth + 1) '[') = .error .recursionError := by
  have read := scan_brackets reader reader.depth le_rfl
  rw [PyJson.loads, List.replicate_succ', List.foldlM_append, read]
  change (List.foldlM (PyJson.step reader) (bracketed reader.depth) ['['] >>= _) = _
  rw [List.foldlM_cons, step_bracket, if_pos le_rfl]
  rfl

/-- An adapter to run on bodies without floats; 1000 is an example of the depth that an interpreter follows. -/
def plainAdapter : RouteServiceAdapter where
  reader := ⟨fun _ => none, 1000, 4300⟩

theorem guarded_status (status : Int) (final : status ∉ [429, 502, 503, 504])
    (refused : ¬ (200 ≤ status ∧ status ≤ 299)) : plainAdapter.Guarded (.error (.statusError status)) := by
  refine .completed [.ok ⟨status, none⟩] ?_
  rw [List.map_singleton, estimateOnce_refused final refused]
  rfl

theorem handled_statusError (status : Int) : Handled (.error (.statusError status)) :=
  ⟨.httpStatusError, by simp, by simp [PyException.statusError, PyException.isInstance]⟩

/-- An answer of the provider that nests one deeper than that. -/
def deepResponse : RouteResponse := ⟨200, some (List.replicate 1001 '[')⟩

theorem guarded_recursion : plainAdapter.Guarded (.error .recursion) := by
  have read : deepResponse.json plainAdapter.reader = .error .recursion :=
    (json_recursion_iff _).mpr ⟨_, rfl, loads_too_deep plainAdapter.reader⟩
  refine .completed [.ok deepResponse] ?_
  rw [List.map_singleton, estimateOnce_deep (by decide) (by decide) read]
  rfl

/-- A failure opens the circuit, and the answer to the probe closes it. -/
theorem permits_returned_after_probe : ∃ trace s, Exec (RouteStep shortCircuit plainAdapter) {} trace s ∧
    s.circuit.breaker.state = .closed ∧ PermitsReturned shortCircuit s := by
  have first : Exec (RouteStep shortCircuit plainAdapter) {} _ _ := Exec.start.next (.begin 0 0 rfl)
  have opened := first.next (.finish 1 (Dict.get?_set_self ..) rfl rfl
    (guarded_status 500 (by decide) (by decide)))
  have probing := opened.next (.begin 1 6 rfl)
  have run := probing.next (.finish 7 (Dict.get?_set_self ..) rfl rfl
    (guarded_status 404 (by decide) (by decide)))
  refine ⟨_, _, run, rfl, (permits_returned_iff run).mpr ?_⟩
  simp only [List.nil_append, List.cons_append, List.forall_mem_cons]
  exact ⟨trivial, handled_statusError 500, trivial, handled_statusError 404, by simp⟩

/-- The body of the answer to the probe nests too deep. -/
theorem probe_lost_to_recursion : ¬ ∀ (settings : CircuitSettings Int) adapter trace s,
    Exec (RouteStep settings adapter) {} trace s → PermitsReturned settings s := by
  intro all
  have first : Exec (RouteStep shortCircuit plainAdapter) {} _ _ := Exec.start.next (.begin 0 0 rfl)
  have opened := first.next (.finish 1 (Dict.get?_set_self ..) rfl rfl
    (guarded_status 500 (by decide) (by decide)))
  have probing := opened.next (.begin 1 6 rfl)
  have run := probing.next (.finish 7 (Dict.get?_set_self ..) rfl rfl guarded_recursion)
  obtain ⟨op, resolved, -⟩ := (all shortCircuit plainAdapter _ _ run).once 1 _ _ (Dict.get?_set_self ..) rfl (by simp)
  cases resolved

end DeliveryService
