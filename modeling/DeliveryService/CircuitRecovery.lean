import DeliveryService.CircuitBreaker
import Mathlib.Algebra.Order.Group.Basic
import Mathlib.Algebra.Order.Group.Int

namespace DeliveryService

/-- What a call does to the opening time and to whether the circuit is closed. -/
inductive CircuitMove {T : Type} (b : CircuitBreaker T) (call : CircuitCall T) (b' : CircuitBreaker T) : Prop
  | kept (same : b'.openedAt = b.openedAt) (sameClosed : b'.state = .closed ↔ b.state = .closed)
      (other : ∀ permit, call.op ≠ .recordSuccess permit)
  | opened (since : b'.openedAt = some call.now) (state : b'.state = .opened)
  | closed (permit : CircuitPermit) (success : call.op = .recordSuccess permit) (state : b'.state = .closed)

/-- The circuit is open since the time of the call. -/
def OpensAtCall {T : Type} (t : Transition (Circuit T) (CircuitCall T)) : Prop :=
  t.post.breaker.state = .opened ∧ t.post.breaker.openedAt = some t.label.now

/-- An open or half-open circuit is closed only by the success of the probe in flight. -/
def ClosedByProbe {T : Type} (t : Transition (Circuit T) (CircuitCall T)) : Prop :=
  t.pre.breaker.state ≠ .closed → t.post.breaker.state = .closed →
    t.label.op = .recordSuccess probePermit ∧ probePermit ∈ t.pre.held

section

variable {T : Type} [AddCommGroup T] [LinearOrder T]

/-- From the given time on, permits are granted only when the recovery timeout has passed since every
opening of the run so far. -/
def WaitsForRecovery (settings : CircuitSettings T) (trace : List (Transition (Circuit T) (CircuitCall T)))
    (clock : T) (s : Circuit T) : Prop :=
  ∀ o ∈ trace, OpensAtCall o → ∀ now, clock ≤ now → s.grants settings now = true →
    o.label.now + settings.recoveryTimeout ≤ now

/-- A success is recorded while the circuit is closed, or for the probe once the recovery timeout has
passed since the last opening. -/
def SucceedsInTime (settings : CircuitSettings T) (s : Circuit T) (call : CircuitCall T) : Prop :=
  ∀ permit, call.op = .recordSuccess permit → s.breaker.state ≠ .closed →
    permit.halfOpenProbe = true ∧ ∀ openedAt ∈ s.breaker.openedAt, openedAt + settings.recoveryTimeout ≤ call.now

variable {settings : CircuitSettings T} {s s' : Circuit T} {call : CircuitCall T}
  {trace : List (Transition (Circuit T) (CircuitCall T))}

theorem circuit_move (settings : CircuitSettings T) (s : Circuit T) (call : CircuitCall T) :
    CircuitMove s.breaker call (s.next settings call).breaker := by
  obtain ⟨now, op⟩ := call
  cases op with
  | acquire =>
    simp only [Circuit.next, CircuitBreaker.acquire]
    split
    next closed => exact .kept rfl Iff.rfl fun _ other => by cases other
    next notClosed =>
      split
      next => exact .kept rfl Iff.rfl fun _ other => by cases other
      next =>
        split
        next => exact .kept rfl Iff.rfl fun _ other => by cases other
        next =>
          have halfOpen : CircuitState.halfOpen = .closed ↔ s.breaker.state = .closed :=
            ⟨fun closed => (by cases closed), fun closed => absurd closed notClosed⟩
          split
          next => exact .kept rfl halfOpen fun _ other => by cases other
          next => exact .kept rfl halfOpen fun _ other => by cases other
  | recordSuccess permit => exact .closed permit rfl rfl
  | recordFailure permit =>
    simp only [Circuit.next, CircuitBreaker.recordFailure]
    split
    next => exact .opened rfl rfl
    next =>
      split
      next => exact .opened rfl rfl
      next => exact .kept rfl Iff.rfl fun _ other => by cases other
  | abandon permit =>
    simp only [Circuit.next, CircuitBreaker.abandon]
    split
    next => exact .opened rfl rfl
    next => exact .kept rfl Iff.rfl fun _ other => by cases other

theorem grants_of_closed (closed : s.breaker.state = .closed) (now : T) : s.grants settings now = true := by
  simp [Circuit.grants, CircuitBreaker.acquire, closed, Except.isOk, Except.toBool]

theorem opening_of_openedAt (run : Exec (CircuitStep settings) {} trace s) {openedAt : T}
    (since : s.breaker.openedAt = some openedAt) (notClosed : s.breaker.state ≠ .closed) :
    ∃ o ∈ trace, OpensAtCall o ∧ o.label.now = openedAt := by
  induction run with
  | start => simp at since
  | @next trace s call s' previous taken ih =>
    obtain ⟨_, rfl⟩ := taken
    cases circuit_move settings s call with
    | kept same sameClosed other =>
      obtain ⟨o, mem, opens, time⟩ := ih (same ▸ since) (fun closed => notClosed (sameClosed.mpr closed))
      exact ⟨o, List.mem_append_left _ mem, opens, time⟩
    | opened now state =>
      refine ⟨⟨s, call, s.next settings call⟩, by simp, ⟨state, now⟩, ?_⟩
      exact Option.some.inj (now.symm.trans since)
    | closed permit success state => exact absurd state notClosed

/-- While the circuit is not closed, no opening of the run is younger than the opening time. -/
theorem opening_le_openedAt (run : Exec (CircuitStep settings) {} trace s)
    (ordered : (trace.map fun t => t.label.now).Pairwise (· ≤ ·)) {o : Transition (Circuit T) (CircuitCall T)}
    (mem : o ∈ trace) (opens : OpensAtCall o) (notClosed : s.breaker.state ≠ .closed) :
    ∃ openedAt, s.breaker.openedAt = some openedAt ∧ o.label.now ≤ openedAt := by
  induction run with
  | start => simp at mem
  | @next trace s call s' previous taken ih =>
    obtain ⟨_, rfl⟩ := taken
    simp only [List.map_append, List.map_cons, List.map_nil, List.pairwise_append] at ordered
    have last : o ∉ trace → o.label.now = call.now ∧ (s.next settings call).breaker.openedAt = some call.now := by
      intro old
      rcases List.mem_append.mp mem with here | here
      · exact absurd here old
      · obtain rfl := List.mem_singleton.mp here
        exact ⟨rfl, opens.2⟩
    by_cases old : o ∈ trace
    · cases circuit_move settings s call with
      | kept same sameClosed other =>
        rw [same]
        exact ih ordered.1 old (fun closed => notClosed (sameClosed.mpr closed))
      | opened now state =>
        exact ⟨call.now, now, ordered.2.2 _ (List.mem_map_of_mem old) _ (by simp)⟩
      | closed permit success state => exact absurd state notClosed
    · obtain ⟨time, now⟩ := last old
      exact ⟨call.now, now, le_of_eq time⟩

variable [IsOrderedAddMonoid T]

theorem grants_cases {now : T} (granted : s.grants settings now = true) :
    s.breaker.state = .closed ∨ ∃ openedAt, s.breaker.openedAt = some openedAt ∧
      openedAt + settings.recoveryTimeout ≤ now := by
  by_cases closed : s.breaker.state = .closed
  · exact .inl closed
  · right
    unfold Circuit.grants CircuitBreaker.acquire at granted
    rw [if_neg closed] at granted
    split at granted
    next => simp [Except.isOk, Except.toBool] at granted
    next openedAt since =>
      refine ⟨openedAt, since, ?_⟩
      by_contra early
      have soon : now - openedAt < settings.recoveryTimeout := by
        rw [sub_lt_iff_lt_add']
        exact not_le.mp early
      simp [soon, Except.isOk, Except.toBool] at granted

/-- Under the condition, a closed circuit has waited for its recovery after each opening. -/
theorem recovered_of_closed (run : Exec (CircuitStep settings) {} trace s)
    (ordered : (trace.map fun t => t.label.now).Pairwise (· ≤ ·))
    (inTime : ∀ t ∈ trace, SucceedsInTime settings t.pre t.label) (closed : s.breaker.state = .closed)
    {o : Transition (Circuit T) (CircuitCall T)} (mem : o ∈ trace) (opens : OpensAtCall o) {now : T}
    (after : ∀ t ∈ trace, t.label.now ≤ now) : o.label.now + settings.recoveryTimeout ≤ now := by
  induction run with
  | start => simp at mem
  | @next trace s call s' previous taken ih =>
    obtain ⟨_, rfl⟩ := taken
    simp only [List.map_append, List.map_cons, List.map_nil, List.pairwise_append] at ordered
    have earlier : ∀ t ∈ trace, SucceedsInTime settings t.pre t.label := fun t ht =>
      inTime t (List.mem_append_left _ ht)
    have old : o ∈ trace := by
      rcases List.mem_append.mp mem with here | here
      · exact here
      · obtain rfl := List.mem_singleton.mp here
        rw [opens.1] at closed
        cases closed
    by_cases was : s.breaker.state = .closed
    · exact ih ordered.1 earlier was old fun t ht => after t (List.mem_append_left _ ht)
    · cases circuit_move settings s call with
      | kept same sameClosed other => exact absurd (sameClosed.mp closed) was
      | opened _ state =>
        rw [state] at closed
        cases closed
      | closed permit success state =>
        obtain ⟨openedAt, since, le⟩ := opening_le_openedAt previous ordered.1 old opens was
        have waited := (inTime ⟨s, call, s.next settings call⟩ (by simp) permit success was).2 openedAt since
        calc o.label.now + settings.recoveryTimeout
            ≤ openedAt + settings.recoveryTimeout := by gcongr
          _ ≤ call.now := waited
          _ ≤ now := after ⟨s, call, s.next settings call⟩ (by simp)

theorem waits_of_inTime (run : Exec (CircuitStep settings) {} trace s)
    (ordered : (trace.map fun t => t.label.now).Pairwise (· ≤ ·))
    (inTime : ∀ t ∈ trace, SucceedsInTime settings t.pre t.label) {clock : T}
    (reached : ∀ t ∈ trace, t.label.now ≤ clock) : WaitsForRecovery settings trace clock s := by
  intro o mem opens now later granted
  by_cases closed : s.breaker.state = .closed
  · exact recovered_of_closed run ordered inTime closed mem opens fun t ht => (reached t ht).trans later
  · rcases grants_cases granted with was | ⟨openedAt, since, waited⟩
    · exact absurd was closed
    · obtain ⟨latest, found, le⟩ := opening_le_openedAt run ordered mem opens closed
      obtain rfl := Option.some.inj (since.symm.trans found)
      exact (add_le_add_left le _).trans waited

/-- A circuit whose clock does not run backwards is closed only by probes and always waits for its
recovery exactly when no success comes from another permit, or too soon, while it is not closed. -/
theorem closes_by_probe_iff_in_time (run : Exec (CircuitStep settings) {} trace s)
    (ordered : (trace.map fun t => t.label.now).Pairwise (· ≤ ·)) :
    (∀ earlier t later, trace = earlier ++ t :: later →
      ClosedByProbe t ∧ WaitsForRecovery settings (earlier ++ [t]) t.label.now t.post) ↔
    ∀ t ∈ trace, SucceedsInTime settings t.pre t.label := by
  constructor
  · intro lawful t ht permit success notClosed
    obtain ⟨earlier, later, rfl⟩ := List.append_of_mem ht
    obtain ⟨byProbe, waits⟩ := lawful earlier t later rfl
    obtain ⟨before, ⟨_, after⟩, _⟩ := run.split
    have closed : t.post.breaker.state = .closed := by
      rw [after]
      simp only [Circuit.next, success, CircuitBreaker.recordSuccess]
    have same := (byProbe notClosed closed).1
    rw [success, CircuitOp.recordSuccess.injEq] at same
    subst same
    refine ⟨rfl, fun openedAt since => ?_⟩
    obtain ⟨o, mem, opens, rfl⟩ := opening_of_openedAt before since notClosed
    exact waits o (List.mem_append_left _ mem) opens _ le_rfl (grants_of_closed closed _)
  · rintro inTime earlier t later rfl
    obtain ⟨before, step, _⟩ := run.split
    have start : earlier ++ t :: later = (earlier ++ [t]) ++ later := by simp
    rw [start, List.map_append, List.pairwise_append] at ordered
    refine ⟨fun notClosed closed => ?_, ?_⟩
    · obtain ⟨held, after⟩ := step
      rw [after] at closed
      cases circuit_move settings t.pre t.label with
      | kept same sameClosed other => exact absurd (sameClosed.mp closed) notClosed
      | opened _ state =>
        rw [state] at closed
        cases closed
      | closed permit success state =>
        obtain rfl := eq_probePermit (inTime t (by simp) permit success notClosed).1
        exact ⟨success, held _ (by simp [success, CircuitOp.resolved])⟩
    · have upTo : ∀ u ∈ earlier ++ [t], SucceedsInTime settings u.pre u.label := fun u hu =>
        inTime u (start ▸ List.mem_append_left _ hu)
      refine waits_of_inTime (before.next step) ordered.1 upTo fun u hu => ?_
      rcases List.mem_append.mp hu with old | last
      · have pairs := ordered.1
        rw [List.map_append, List.pairwise_append] at pairs
        exact pairs.2.2 _ (List.mem_map_of_mem old) _ (by simp)
      · obtain rfl := List.mem_singleton.mp last
        exact le_rfl

end

/-- The probe comes back in time and closes the circuit. -/
def probeReturned : List (CircuitCall Int) := probeGranted ++ [⟨7, .recordSuccess probePermit⟩]

theorem closes_by_probe_after_recovery : ∃ trace s, Exec (CircuitStep shortCircuit) {} trace s ∧
    s.breaker.state = .closed ∧ ∀ t ∈ trace, ClosedByProbe t := by
  have run : Exec (CircuitStep shortCircuit) {} _ _ := Exec.ofGuard Circuit.ResolvesHeld
    (Circuit.next shortCircuit) {} probeReturned (by decide)
  refine ⟨_, _, run, rfl, fun t ht => ?_⟩
  obtain ⟨earlier, later, shape⟩ := List.append_of_mem ht
  refine (((closes_by_probe_iff_in_time run (by decide)).mpr ?_) earlier t later shape).1
  intro u hu permit success notClosed
  simp only [probeReturned, probeGranted, Exec.traceOf, List.cons_append, List.nil_append, List.mem_cons,
    List.not_mem_nil, or_false] at hu
  rcases hu with rfl | rfl | rfl | rfl | rfl <;> cases success
  exact ⟨rfl, by decide⟩

/-- Of two calls on their way, one opens the circuit by its failure and the other one succeeds; a third
caller asks right after that. -/
def lateSuccess : List (CircuitCall Int) :=
  [⟨0, .acquire⟩, ⟨0, .acquire⟩, ⟨1, .recordFailure {}⟩, ⟨2, .recordSuccess {}⟩, ⟨2, .acquire⟩]

theorem late_success_closes_circuit :
    (¬ ∀ (settings : CircuitSettings Int) trace s, Exec (CircuitStep settings) {} trace s →
      (trace.map fun t => t.label.now).Pairwise (· ≤ ·) → ∀ t ∈ trace, ClosedByProbe t) ∧
    ¬ ∀ (settings : CircuitSettings Int) trace s, Exec (CircuitStep settings) {} trace s →
      (trace.map fun t => t.label.now).Pairwise (· ≤ ·) →
      ∀ earlier o later, trace = earlier ++ o :: later → OpensAtCall o →
        ∀ t ∈ later, t.label.op = .acquire → t.pre.grants settings t.label.now = true →
          o.label.now + settings.recoveryTimeout ≤ t.label.now := by
  have run : Exec (CircuitStep shortCircuit) {} _ _ := Exec.ofGuard Circuit.ResolvesHeld
    (Circuit.next shortCircuit) {} lateSuccess (by decide)
  constructor
  · intro all
    have byProbe := all shortCircuit _ _ run (by decide) ⟨_, ⟨2, .recordSuccess {}⟩, _⟩
      (.tail _ (.tail _ (.tail _ (.head _))))
    exact absurd (byProbe (by decide) (by decide)).1 (by decide)
  · intro all
    have waits := all shortCircuit _ _ run (by decide) [_, _] _ [_, _] rfl ⟨rfl, rfl⟩ ⟨_, ⟨2, .acquire⟩, _⟩
      (.tail _ (.head _)) rfl rfl
    exact absurd waits (by decide)

end DeliveryService
