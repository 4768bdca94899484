import DeliveryService.Exec
import Mathlib.Algebra.Ring.Int.Defs
import Mathlib.Data.List.Count

namespace DeliveryService

inductive CircuitState
  | closed
  | opened
  | halfOpen
deriving DecidableEq, Repr

structure CircuitPermit where
  halfOpenProbe : Bool := false
deriving DecidableEq, Repr

inductive CircuitError
  | circuitOpen (message : String)
  | assertion
deriving DecidableEq, Repr

/-- The arguments that `CircuitBreaker.__init__` accepts. -/
structure CircuitSettings (T : Type) [Zero T] [LT T] where
  failureThreshold : Int
  recoveryTimeout : T
  thresholdPositive : 1 ≤ failureThreshold
  timeoutPositive : 0 < recoveryTimeout

structure CircuitBreaker (T : Type) where
  state : CircuitState := .closed
  consecutiveFailures : Int := 0
  openedAt : Option T := none
  probeInFlight : Bool := false

namespace CircuitBreaker

variable {T : Type}

def openNow (b : CircuitBreaker T) (now : T) : CircuitBreaker T :=
  { b with state := .opened, openedAt := some now }

def recordSuccess (b : CircuitBreaker T) (permit : CircuitPermit) : CircuitBreaker T where
  state := .closed
  consecutiveFailures := 0
  openedAt := none
  probeInFlight := if permit.halfOpenProbe then false else b.probeInFlight

def abandon (b : CircuitBreaker T) (permit : CircuitPermit) (now : T) : CircuitBreaker T :=
  if permit.halfOpenProbe then openNow { b with probeInFlight := false } now else b

variable [Zero T] [LT T]

def recordFailure (settings : CircuitSettings T) (b : CircuitBreaker T) (permit : CircuitPermit) (now : T) :
    CircuitBreaker T :=
  if permit.halfOpenProbe then openNow { b with probeInFlight := false } now
  else if settings.failureThreshold ≤ b.consecutiveFailures + 1 then
    openNow { b with consecutiveFailures := b.consecutiveFailures + 1 } now
  else { b with consecutiveFailures := b.consecutiveFailures + 1 }

/-- A normal permit, the single half-open probe, or a refusal; a refused call may still move the
circuit to half-open. -/
def acquire [Sub T] [DecidableLT T] (settings : CircuitSettings T) (b : CircuitBreaker T) (now : T) :
    Except CircuitError CircuitPermit × CircuitBreaker T :=
  if b.state = .closed then (.ok {}, b)
  else
    match b.openedAt with
    | none => (.error .assertion, b)
    | some openedAt =>
      if now - openedAt < settings.recoveryTimeout then
        (.error (.circuitOpen "route service circuit is open"), b)
      else if b.probeInFlight then
        (.error (.circuitOpen "route service recovery probe is already running"), { b with state := .halfOpen })
      else (.ok { halfOpenProbe := true }, { b with state := .halfOpen, probeInFlight := true })

end CircuitBreaker

inductive CircuitOp
  | acquire
  | recordSuccess (permit : CircuitPermit)
  | recordFailure (permit : CircuitPermit)
  | abandon (permit : CircuitPermit)
deriving DecidableEq

/-- A call with the reading of the clock while it holds the lock. -/
structure CircuitCall (T : Type) where
  now : T
  op : CircuitOp

/-- A breaker and the permits its callers hold. -/
structure Circuit (T : Type) where
  breaker : CircuitBreaker T := {}
  held : List CircuitPermit := []

namespace Circuit

variable {T : Type} [Zero T] [LT T] [Sub T] [DecidableLT T]

/-- Whether an `acquire` at the given time is answered with a permit. -/
def grants (settings : CircuitSettings T) (s : Circuit T) (now : T) : Bool :=
  (s.breaker.acquire settings now).1.isOk

def next (settings : CircuitSettings T) (s : Circuit T) (call : CircuitCall T) : Circuit T :=
  match call.op with
  | .acquire =>
    let (answer, breaker) := s.breaker.acquire settings call.now
    ⟨breaker, answer.toOption.toList ++ s.held⟩
  | .recordSuccess permit => ⟨s.breaker.recordSuccess permit, s.held.erase permit⟩
  | .recordFailure permit => ⟨s.breaker.recordFailure settings permit call.now, s.held.erase permit⟩
  | .abandon permit => ⟨s.breaker.abandon permit call.now, s.held.erase permit⟩

end Circuit

/-- The permit a call resolves. -/
def CircuitOp.resolved : CircuitOp → Option CircuitPermit
  | .acquire => none
  | .recordSuccess permit | .recordFailure permit | .abandon permit => some permit

/-- A call resolves a permit that is held, so no permit is resolved twice. -/
def Circuit.ResolvesHeld {T : Type} (s : Circuit T) (call : CircuitCall T) : Prop :=
  ∀ permit ∈ call.op.resolved, permit ∈ s.held

instance {T : Type} (s : Circuit T) (call : CircuitCall T) : Decidable (s.ResolvesHeld call) := by
  unfold Circuit.ResolvesHeld
  infer_instance

/-- Calls run one after the other under the lock. -/
def CircuitStep {T : Type} [Zero T] [LT T] [Sub T] [DecidableLT T] (settings : CircuitSettings T) (s : Circuit T)
    (call : CircuitCall T) (s' : Circuit T) : Prop :=
  s.ResolvesHeld call ∧ s' = s.next settings call

/-- The half-open probe. -/
def probePermit : CircuitPermit := { halfOpenProbe := true }

/-- What holds of a breaker and the permits in circulation between two calls. -/
structure Circuit.WellFormed {T : Type} [Zero T] [LT T] (settings : CircuitSettings T) (s : Circuit T) : Prop where
  singleProbe : s.held.count probePermit ≤ 1
  inFlight : s.breaker.probeInFlight = true ↔ probePermit ∈ s.held
  halfOpen : s.breaker.state = .halfOpen → s.breaker.probeInFlight = true
  opened : s.breaker.state ≠ .closed → s.breaker.openedAt ≠ none
  closed : s.breaker.state = .closed → s.breaker.consecutiveFailures < settings.failureThreshold

section

variable {T : Type} [Zero T] [LT T] {settings : CircuitSettings T} {s s' : Circuit T}
  {trace : List (Transition (Circuit T) (CircuitCall T))}

theorem probe_not_mem_erase {held : List CircuitPermit} (single : held.count probePermit ≤ 1) :
    probePermit ∉ held.erase probePermit := by
  rw [← List.count_pos_iff, List.count_erase_self]
  omega

theorem ordinary_ne_probe {permit : CircuitPermit} (ordinary : permit.halfOpenProbe = false) :
    probePermit ≠ permit := by
  rintro rfl
  simp [probePermit] at ordinary

theorem eq_probePermit {permit : CircuitPermit} (probe : permit.halfOpenProbe = true) : permit = probePermit := by
  obtain ⟨flag⟩ := permit
  exact congrArg CircuitPermit.mk probe

theorem wellFormed_initial : Circuit.WellFormed settings {} :=
  ⟨by simp, by simp, nofun, fun h => absurd rfl h, fun _ => settings.thresholdPositive⟩

theorem wellFormed_openNow {breaker : CircuitBreaker T} {held : List CircuitPermit} (now : T)
    (single : held.count probePermit ≤ 1) (inFlight : breaker.probeInFlight = true ↔ probePermit ∈ held) :
    Circuit.WellFormed settings ⟨breaker.openNow now, held⟩ :=
  ⟨single, inFlight, nofun, fun _ => by simp [CircuitBreaker.openNow], nofun⟩

variable [Sub T] [DecidableLT T]

theorem wellFormed_acquire (wf : s.WellFormed settings) (now : T) :
    (s.next settings ⟨now, .acquire⟩).WellFormed settings := by
  simp only [Circuit.next, CircuitBreaker.acquire]
  split
  next closed =>
    refine ⟨?_, ?_, wf.halfOpen, wf.opened, wf.closed⟩
    · simpa [Except.toOption, probePermit] using wf.singleProbe
    · simpa [Except.toOption, probePermit] using wf.inFlight
  next notClosed =>
    obtain ⟨openedAt, since⟩ := Option.ne_none_iff_exists'.mp (wf.opened notClosed)
    simp only [since]
    split
    next => exact ⟨wf.singleProbe, wf.inFlight, wf.halfOpen, wf.opened, wf.closed⟩
    next =>
      split
      next running => exact ⟨wf.singleProbe, wf.inFlight, fun _ => running, fun _ => by simp, nofun⟩
      next idle =>
        have none_held : probePermit ∉ s.held := fun held => idle (wf.inFlight.mpr held)
        refine ⟨?_, ?_, fun _ => rfl, fun _ => by simp, nofun⟩
        · change (probePermit :: s.held).count probePermit ≤ 1
          simp [List.count_eq_zero.mpr none_held]
        · simp [Except.toOption, probePermit]

theorem wellFormed_resolve {op : CircuitOp} {permit : CircuitPermit} (wf : s.WellFormed settings) (now : T)
    (resolves : permit ∈ op.resolved) : (s.next settings ⟨now, op⟩).WellFormed settings := by
  have single : (s.held.erase permit).count probePermit ≤ 1 :=
    Nat.le_trans (List.erase_sublist.count_le probePermit) wf.singleProbe
  cases probe : permit.halfOpenProbe with
  | true =>
    obtain rfl := eq_probePermit probe
    have gone := probe_not_mem_erase wf.singleProbe
    cases op with
    | acquire => simp [CircuitOp.resolved] at resolves
    | recordSuccess =>
      obtain rfl := Option.some.inj resolves
      refine ⟨single, ?_, nofun, fun h => absurd rfl h, fun _ => settings.thresholdPositive⟩
      simpa [Circuit.next, CircuitBreaker.recordSuccess, probe] using gone
    | recordFailure =>
      obtain rfl := Option.some.inj resolves
      simp only [Circuit.next, CircuitBreaker.recordFailure, probe, if_true]
      exact wellFormed_openNow now single (by simpa using gone)
    | abandon =>
      obtain rfl := Option.some.inj resolves
      simp only [Circuit.next, CircuitBreaker.abandon, probe, if_true]
      exact wellFormed_openNow now single (by simpa using gone)
  | false =>
    have kept : s.breaker.probeInFlight = true ↔ probePermit ∈ s.held.erase permit := by
      rw [List.mem_erase_of_ne (ordinary_ne_probe probe)]
      exact wf.inFlight
    cases op with
    | acquire => simp [CircuitOp.resolved] at resolves
    | recordSuccess =>
      obtain rfl := Option.some.inj resolves
      refine ⟨single, ?_, nofun, fun h => absurd rfl h, fun _ => settings.thresholdPositive⟩
      simpa [Circuit.next, CircuitBreaker.recordSuccess, probe] using kept
    | recordFailure =>
      obtain rfl := Option.some.inj resolves
      simp only [Circuit.next, CircuitBreaker.recordFailure, probe, Bool.false_eq_true, if_false]
      split
      next => exact wellFormed_openNow now single kept
      next below => exact ⟨single, kept, wf.halfOpen, wf.opened, fun _ => by simpa using below⟩
    | abandon =>
      obtain rfl := Option.some.inj resolves
      simp only [Circuit.next, CircuitBreaker.abandon, probe, Bool.false_eq_true, if_false]
      exact ⟨single, kept, wf.halfOpen, wf.opened, wf.closed⟩

theorem wellFormed_step {call : CircuitCall T} (wf : s.WellFormed settings) (step : CircuitStep settings s call s') :
    s'.WellFormed settings := by
  obtain ⟨_, rfl⟩ := step
  obtain ⟨now, op⟩ := call
  cases resolves : op.resolved with
  | none =>
    obtain rfl : op = .acquire := by cases op <;> simp [CircuitOp.resolved] at resolves ⊢
    exact wellFormed_acquire wf now
  | some permit => exact wellFormed_resolve wf now resolves

theorem wellFormed_run (run : Exec (CircuitStep settings) {} trace s) : s.WellFormed settings :=
  run.invariant wellFormed_initial fun _ _ _ => wellFormed_step

/-- Whatever the clock shows, the breaker stays consistent with the permits in circulation and the
assertion in `acquire` never fails. -/
theorem circuit_state_invariant (run : Exec (CircuitStep settings) {} trace s) :
    s.WellFormed settings ∧ ∀ now, (s.breaker.acquire settings now).1 ≠ .error .assertion := by
  have wf := wellFormed_run run
  refine ⟨wf, fun now => ?_⟩
  simp only [CircuitBreaker.acquire]
  split
  next => simp
  next notClosed =>
    obtain ⟨openedAt, since⟩ := Option.ne_none_iff_exists'.mp (wf.opened notClosed)
    simp only [since]
    split_ifs <;> simp

end

theorem shortCircuit_threshold : (1 : Int) ≤ 1 := Int.le_refl 1

def shortCircuit : CircuitSettings Int := ⟨1, 5, shortCircuit_threshold, by decide⟩

/-- Two calls are on their way, one fails and opens the circuit, and the probe is granted in time. -/
def probeGranted : List (CircuitCall Int) :=
  [⟨0, .acquire⟩, ⟨0, .acquire⟩, ⟨1, .recordFailure {}⟩, ⟨6, .acquire⟩]

theorem circuit_state_half_open : ∃ trace s, Exec (CircuitStep shortCircuit) {} trace s ∧
    s.breaker.state = .halfOpen ∧ s.WellFormed shortCircuit := by
  have run : Exec (CircuitStep shortCircuit) {} _ _ := Exec.ofGuard Circuit.ResolvesHeld
    (Circuit.next shortCircuit) {} probeGranted (by decide)
  exact ⟨_, _, run, rfl, (circuit_state_invariant run).1⟩

end DeliveryService
