import Mathlib.Data.Fintype.BigOperators
import Mathlib.Data.List.ReduceOption
import DeliveryService.Exec

namespace DeliveryService

/-- Where the task of a factory is: before the semaphore, inside it, or over. -/
inductive TaskPhase
  | waiting
  | running
  | finished
  | failed
  | cancelled
deriving DecidableEq

/-- How many steps a task can still take. -/
def TaskPhase.remaining : TaskPhase → Nat
  | .waiting => 2
  | .running => 1
  | _ => 0

/-- How the `async with` block of the task group and what follows it end; `raised` is an exception group or
the cancellation of the caller. -/
inductive GatherOutcome (β : Type)
  | returned (values : List β)
  | raised
  | assertionError
deriving DecidableEq

/-- What happens to the tasks of a call, one at a time. `cancel` is a task that ends with `CancelledError`:
after a cancellation, or because the operation it awaits raises that by itself. -/
inductive GatherEvent (β : Type) (n : Nat)
  | call (index : Fin n)
  | succeed (index : Fin n) (value : β)
  | fail (index : Fin n)
  | cancel (index : Fin n)
  | abort
  | leave
deriving DecidableEq

def GatherEvent.isCall {β : Type} {n : Nat} (index : Fin n) : GatherEvent β n → Bool
  | .call other => other = index
  | _ => false

/-- The semaphore, the tasks, the list of results with `none` for `missing`, whether a task failed, whether
the caller was cancelled, and how the call ended. -/
structure GatherState (β : Type) (n : Nat) where
  free : Nat
  phase : Fin n → TaskPhase
  results : List (Option β)
  failed : Bool
  cancelled : Bool
  outcome : Option (GatherOutcome β)

namespace GatherState

variable {β : Type} {n : Nat}

/-- The task group cancels what is left of its tasks. -/
def aborting (s : GatherState β n) : Bool := s.failed || s.cancelled

/-- The factories that were called and have not finished. -/
def running (s : GatherState β n) : Finset (Fin n) :=
  Finset.univ.filter fun index => s.phase index = .running

def enter (s : GatherState β n) (index : Fin n) (phase : TaskPhase) : GatherState β n :=
  { s with phase := Function.update s.phase index phase }

/-- What follows the `async with` block of the task group. -/
def conclude (s : GatherState β n) : GatherOutcome β :=
  if s.aborting then .raised
  else if s.results.all Option.isSome then .returned s.results.reduceOption
  else .assertionError

/-- When an event can happen. A task passes the semaphore while that has a free slot, also after the failure of
another one until the group cancels it; an operation may end in any way, also after a cancellation that it
swallows. -/
def Enabled (s : GatherState β n) (event : GatherEvent β n) : Prop :=
  s.outcome = none ∧ match event with
    | .call index => s.phase index = .waiting ∧ 0 < s.free
    | .succeed index _ => s.phase index = .running
    | .fail index => s.phase index = .running
    | .cancel index => s.phase index = .waiting ∨ s.phase index = .running
    | .abort => s.cancelled = false
    | .leave => ∀ index, s.phase index ≠ .waiting ∧ s.phase index ≠ .running

instance decidableEnabled (s : GatherState β n) (event : GatherEvent β n) : Decidable (s.Enabled event) :=
  match event with
  | .call _ => inferInstanceAs (Decidable (_ ∧ _ ∧ _))
  | .succeed _ _ | .fail _ | .abort => inferInstanceAs (Decidable (_ ∧ _))
  | .cancel _ => inferInstanceAs (Decidable (_ ∧ (_ ∨ _)))
  | .leave => inferInstanceAs (Decidable (_ ∧ ∀ _, _))

def after (s : GatherState β n) : GatherEvent β n → GatherState β n
  | .call index => { s.enter index .running with free := s.free - 1 }
  | .succeed index value =>
    { s.enter index .finished with free := s.free + 1, results := s.results.set index (some value) }
  | .fail index => { s.enter index .failed with free := s.free + 1, failed := true }
  | .cancel index =>
    -- leaving `async with semaphore` gives the slot back; a task that still waits for one holds none
    { s.enter index .cancelled with free := if s.phase index = .running then s.free + 1 else s.free }
  | .abort => { s with cancelled := true }
  | .leave => { s with outcome := some s.conclude }

def Step (s : GatherState β n) (event : GatherEvent β n) (s' : GatherState β n) : Prop :=
  s.Enabled event ∧ s' = s.after event

end GatherState

/-- `gather_bounded` up to the end of its loop: no task runs before all of them are created. -/
def gatherBounded (β : Type) (n : Nat) (concurrency : Int) : Except String (GatherState β n) :=
  if concurrency < 1 then .error "concurrency must be positive"
  else .ok ⟨concurrency.toNat, fun _ => .waiting, List.replicate n none, false, false, none⟩

section

variable {β : Type} {n concurrency : Nat}

abbrev GatherTrace (β : Type) (n : Nat) := List (Transition (GatherState β n) (GatherEvent β n))

def GatherTrace.Occurs (trace : GatherTrace β n) (event : GatherEvent β n) : Prop :=
  ∃ t ∈ trace, t.label = event

/-- How often a factory was called. -/
def GatherTrace.calls (trace : GatherTrace β n) (index : Fin n) : Nat :=
  trace.countP fun t => t.label.isCall index

/-- The task that an event is about. -/
def GatherEvent.index? : GatherEvent β n → Option (Fin n)
  | .call index | .succeed index _ | .fail index | .cancel index => some index
  | .abort | .leave => none

/-- The operation of a task has neither returned a value nor been cancelled. -/
def GatherTrace.Unended (trace : GatherTrace β n) (index : Fin n) : Prop :=
  (∀ value, ¬ trace.Occurs (.succeed index value)) ∧ ¬ trace.Occurs (.cancel index)

/-- What the phase of a task says about the events so far and about its place in the results. -/
def Recorded (trace : GatherTrace β n) (s : GatherState β n) (index : Fin n) : Prop :=
  match s.phase index with
  | .waiting => trace.calls index = 0 ∧ s.results[index.val]? = some none ∧ trace.Unended index
  | .running => trace.calls index = 1 ∧ s.results[index.val]? = some none ∧ trace.Unended index
  | .finished => trace.calls index = 1 ∧ ¬ trace.Occurs (.cancel index) ∧ ∃ value,
      s.results[index.val]? = some (some value) ∧ ∀ other, trace.Occurs (.succeed index other) ↔ other = value
  | .failed => trace.calls index = 1 ∧ s.results[index.val]? = some none ∧ trace.Unended index ∧ s.failed = true
  | .cancelled => trace.calls index ≤ 1 ∧ s.results[index.val]? = some none ∧
      (∀ value, ¬ trace.Occurs (.succeed index value)) ∧ trace.Occurs (.cancel index)

/-- How many events can still happen, at most. -/
def GatherState.work (s : GatherState β n) : Nat :=
  ∑ index, (s.phase index).remaining + (if s.cancelled then 0 else 1) + (if s.outcome.isNone then 1 else 0)

/-- What holds after the events of a trace. -/
structure GatherInvariant (concurrency : Nat) (trace : GatherTrace β n) (s : GatherState β n) : Prop where
  slots : s.free + s.running.card = concurrency
  size : s.results.length = n
  recorded : ∀ index, Recorded trace s index
  failed : s.failed = true ↔ ∃ index, trace.Occurs (.fail index)
  cancelled : s.cancelled = true ↔ trace.Occurs .abort
  concluded : s.outcome = none ∨
    s.outcome = some s.conclude ∧ ∀ index, s.phase index ≠ .waiting ∧ s.phase index ≠ .running
  work : trace.length + s.work ≤ 2 * n + 2

theorem occurs_append {trace : GatherTrace β n} {t : Transition (GatherState β n) (GatherEvent β n)}
    {event : GatherEvent β n} : GatherTrace.Occurs (trace ++ [t]) event ↔ trace.Occurs event ∨ t.label = event := by
  simp only [GatherTrace.Occurs, List.mem_append, List.mem_singleton, or_and_right, exists_or, exists_eq_left]

theorem calls_append (trace : GatherTrace β n) (t : Transition (GatherState β n) (GatherEvent β n))
    (index : Fin n) : GatherTrace.calls (trace ++ [t]) index =
      trace.calls index + if t.label.isCall index then 1 else 0 := by
  simp [GatherTrace.calls, List.countP_append, List.countP_cons]

theorem mem_running {s : GatherState β n} {index : Fin n} : index ∈ s.running ↔ s.phase index = .running := by
  simp [GatherState.running]

theorem running_enter (s : GatherState β n) (index : Fin n) (phase : TaskPhase) :
    (s.enter index phase).running =
      if phase = .running then insert index s.running else s.running.erase index := by
  ext other
  rw [mem_running]
  by_cases same : other = index
  · subst same
    split_ifs with here <;> simp [GatherState.enter, here]
  · split_ifs <;> simp [GatherState.enter, same, mem_running]

theorem card_running_call {s : GatherState β n} {index : Fin n} (waiting : s.phase index = .waiting) :
    (s.enter index .running).running.card = s.running.card + 1 := by
  have fresh : index ∉ s.running := by simp [mem_running, waiting]
  rw [running_enter, if_pos rfl, Finset.card_insert_of_notMem fresh]

theorem card_running_end {s : GatherState β n} {index : Fin n} (running : s.phase index = .running)
    {phase : TaskPhase} (ended : phase ≠ .running) :
    (s.enter index phase).running.card + 1 = s.running.card := by
  rw [running_enter, if_neg ended]
  exact Finset.card_erase_add_one (mem_running.mpr running)

/-- The work of a task that goes on to another phase is replaced by the work of that phase. -/
theorem work_enter {s s' : GatherState β n} {index : Fin n} {phase : TaskPhase}
    (moved : s'.phase = Function.update s.phase index phase) (cancelled : s'.cancelled = s.cancelled)
    (outcome : s'.outcome = s.outcome) : s'.work + (s.phase index).remaining = s.work + phase.remaining := by
  have split (f : Fin n → Nat) := Finset.add_sum_erase Finset.univ f (Finset.mem_univ index)
  have rest : ∑ other ∈ Finset.univ.erase index, (s'.phase other).remaining =
      ∑ other ∈ Finset.univ.erase index, (s.phase other).remaining := by
    refine Finset.sum_congr rfl fun other mem => ?_
    rw [moved, Function.update_of_ne (Finset.ne_of_mem_erase mem)]
  have here : (s'.phase index).remaining = phase.remaining := by rw [moved, Function.update_self]
  have after := split fun other => (s'.phase other).remaining
  have before := split fun other => (s.phase other).remaining
  unfold GatherState.work
  rw [cancelled, outcome]
  omega

/-- A task that goes on takes from the work that is left. -/
theorem work_goes_on {s s' : GatherState β n} {index : Fin n} {phase : TaskPhase}
    (moved : s'.phase = Function.update s.phase index phase) (cancelled : s'.cancelled = s.cancelled)
    (outcome : s'.outcome = s.outcome) (less : phase.remaining < (s.phase index).remaining) :
    s'.work + 1 ≤ s.work := by
  have exchanged := work_enter moved cancelled outcome
  omega

/-- An event about another task changes nothing that is recorded of this one. -/
theorem Recorded.frame {trace : GatherTrace β n} {s s' : GatherState β n} {event : GatherEvent β n} {index : Fin n}
    (before : Recorded trace s index) (other : event.index? ≠ some index) (phase : s'.phase index = s.phase index)
    (results : s'.results[index.val]? = s.results[index.val]?) (failed : s.failed = true → s'.failed = true) :
    Recorded (trace ++ [⟨s, event, s'⟩]) s' index := by
  have calls : GatherTrace.calls (trace ++ [⟨s, event, s'⟩]) index = trace.calls index := by
    rw [calls_append]
    cases event with
    | call called =>
      have ne : called ≠ index := fun same => other (by rw [same]; rfl)
      simp [GatherEvent.isCall, ne]
    | _ => simp [GatherEvent.isCall]
  have succeed : ∀ value, GatherTrace.Occurs (trace ++ [⟨s, event, s'⟩]) (.succeed index value) ↔
      trace.Occurs (.succeed index value) := by
    intro value
    rw [occurs_append]
    refine or_iff_left ?_
    rintro rfl
    exact other rfl
  have cancel : GatherTrace.Occurs (trace ++ [⟨s, event, s'⟩]) (.cancel index) ↔ trace.Occurs (.cancel index) := by
    rw [occurs_append]
    refine or_iff_left ?_
    rintro rfl
    exact other rfl
  unfold Recorded GatherTrace.Unended at before ⊢
  rw [phase]
  cases here : s.phase index <;> simp only [here, calls, results, succeed, cancel] at before ⊢
  case failed => exact ⟨before.1, before.2.1, before.2.2.1, failed before.2.2.2⟩
  all_goals exact before

section

variable {trace : GatherTrace β n} {s : GatherState β n} {event : GatherEvent β n}

theorem slots_after (enabled : s.Enabled event) : (s.after event).free + (s.after event).running.card =
    s.free + s.running.card := by
  obtain ⟨-, guard⟩ := enabled
  cases event with
  | call index =>
    have more := card_running_call guard.1
    have slot : 0 < s.free := guard.2
    change s.free - 1 + (s.enter index .running).running.card = _
    omega
  | succeed index value =>
    have less := card_running_end guard (by decide : TaskPhase.finished ≠ .running)
    change s.free + 1 + (s.enter index .finished).running.card = _
    omega
  | fail index =>
    have less := card_running_end guard (by decide : TaskPhase.failed ≠ .running)
    change s.free + 1 + (s.enter index .failed).running.card = _
    omega
  | cancel index =>
    change (if s.phase index = .running then s.free + 1 else s.free) + (s.enter index .cancelled).running.card = _
    split_ifs with held
    · have less := card_running_end held (by decide : TaskPhase.cancelled ≠ .running)
      omega
    · have unheld : index ∉ s.running := by rwa [mem_running]
      rw [running_enter, if_neg (by decide), Finset.erase_eq_of_notMem unheld]
  | abort => rfl
  | leave => rfl

theorem Recorded.called {index : Fin n} (before : Recorded trace s index) (waiting : s.phase index = .waiting) :
    Recorded (trace ++ [⟨s, .call index, s.after (.call index)⟩]) (s.after (.call index)) index := by
  rw [Recorded, waiting] at before
  obtain ⟨calls, missing, unended⟩ := before
  simp only [Recorded, GatherState.after, GatherState.enter, Function.update_self]
  refine ⟨by simp [calls_append, calls, GatherEvent.isCall], missing, ?_⟩
  simpa [GatherTrace.Unended, occurs_append] using unended

theorem Recorded.succeeded {index : Fin n} (before : Recorded trace s index) (running : s.phase index = .running)
    (value : β) :
    Recorded (trace ++ [⟨s, .succeed index value, s.after (.succeed index value)⟩])
      (s.after (.succeed index value)) index := by
  rw [Recorded, running] at before
  obtain ⟨calls, missing, unreturned, uncancelled⟩ := before
  have place : index.val < s.results.length := (List.getElem?_eq_some_iff.mp missing).1
  simp only [Recorded, GatherState.after, GatherState.enter, Function.update_self]
  refine ⟨by simp [calls_append, calls, GatherEvent.isCall], by simpa [occurs_append] using uncancelled,
    value, List.getElem?_set_self place, fun other => ?_⟩
  simp [occurs_append, unreturned, eq_comm]

theorem Recorded.failed {index : Fin n} (before : Recorded trace s index) (running : s.phase index = .running) :
    Recorded (trace ++ [⟨s, .fail index, s.after (.fail index)⟩]) (s.after (.fail index)) index := by
  rw [Recorded, running] at before
  obtain ⟨calls, missing, unended⟩ := before
  simp only [Recorded, GatherState.after, GatherState.enter, Function.update_self]
  refine ⟨by simp [calls_append, calls, GatherEvent.isCall], missing, ?_, trivial⟩
  simpa [GatherTrace.Unended, occurs_append] using unended

theorem Recorded.cancelled {index : Fin n} (before : Recorded trace s index)
    (unended : s.phase index = .waiting ∨ s.phase index = .running) :
    Recorded (trace ++ [⟨s, .cancel index, s.after (.cancel index)⟩]) (s.after (.cancel index)) index := by
  have open' : trace.calls index ≤ 1 ∧ s.results[index.val]? = some none ∧ trace.Unended index := by
    rcases unended with waiting | running
    · rw [Recorded, waiting] at before
      exact ⟨by omega, before.2⟩
    · rw [Recorded, running] at before
      exact ⟨by omega, before.2⟩
  obtain ⟨calls, missing, unreturned, -⟩ := open'
  simp only [Recorded, GatherState.after, GatherState.enter, Function.update_self]
  refine ⟨by simpa [calls_append, GatherEvent.isCall] using calls, missing, ?_, ?_⟩
  · simpa [occurs_append] using unreturned
  · simp [occurs_append]

theorem recorded_after (before : ∀ index, Recorded trace s index) (enabled : s.Enabled event) (index : Fin n) :
    Recorded (trace ++ [⟨s, event, s.after event⟩]) (s.after event) index := by
  by_cases own : event.index? = some index
  · obtain ⟨-, guard⟩ := enabled
    cases event with
    | call called =>
      obtain rfl : called = index := Option.some.inj own
      exact (before called).called guard.1
    | succeed ended value =>
      obtain rfl : ended = index := Option.some.inj own
      exact (before ended).succeeded guard value
    | fail ended =>
      obtain rfl : ended = index := Option.some.inj own
      exact (before ended).failed guard
    | cancel ended =>
      obtain rfl : ended = index := Option.some.inj own
      exact (before ended).cancelled guard
    | abort => simp [GatherEvent.index?] at own
    | leave => simp [GatherEvent.index?] at own
  · have ne : ∀ {other : Fin n}, event.index? = some other → index ≠ other := by
      rintro other named rfl
      exact own named
    refine (before index).frame own ?_ ?_ ?_
    · cases event with
      | abort => rfl
      | leave => rfl
      | _ => exact Function.update_of_ne (ne rfl) _ _
    · cases event with
      | succeed ended value => exact List.getElem?_set_ne fun same => ne rfl (Fin.ext same.symm)
      | _ => rfl
    · cases event with
      | fail ended => exact fun _ => rfl
      | _ => exact id

/-- Every event takes from the work that is left. -/
theorem work_after (enabled : s.Enabled event) : (s.after event).work + 1 ≤ s.work := by
  obtain ⟨unset, guard⟩ := enabled
  cases event with
  | call index =>
    have waiting : s.phase index = .waiting := guard.1
    exact work_goes_on rfl rfl rfl (by rw [waiting]; decide)
  | succeed index value =>
    have running : s.phase index = .running := guard
    exact work_goes_on rfl rfl rfl (by rw [running]; decide)
  | fail index =>
    have running : s.phase index = .running := guard
    exact work_goes_on rfl rfl rfl (by rw [running]; decide)
  | cancel index =>
    refine work_goes_on rfl rfl rfl ?_
    rcases guard with waiting | running
    · rw [waiting]
      decide
    · rw [running]
      decide
  | abort =>
    have first : s.cancelled = false := guard
    simp [GatherState.after, GatherState.work, first, unset]
  | leave => cases told : s.cancelled <;> simp [GatherState.after, GatherState.work, told, unset]

theorem GatherInvariant.after (inv : GatherInvariant concurrency trace s) (enabled : s.Enabled event) :
    GatherInvariant concurrency (trace ++ [⟨s, event, s.after event⟩]) (s.after event) := by
  have spent := work_after enabled
  have bound := inv.work
  refine ⟨(slots_after enabled).trans inv.slots, ?_, recorded_after inv.recorded enabled, ?_, ?_, ?_, ?_⟩
  · cases event <;> simp [GatherState.after, GatherState.enter, inv.size]
  · simp only [occurs_append, exists_or, ← inv.failed]
    cases event <;> simp [GatherState.after, GatherState.enter]
  · rw [occurs_append, ← inv.cancelled]
    cases event <;> simp [GatherState.after, GatherState.enter]
  · cases event with
    | leave => exact .inr ⟨rfl, enabled.2⟩
    | _ => exact .inl enabled.1
  · rw [List.length_append, List.length_singleton]
    omega

theorem gather_start_invariant {concurrency : Int} {start : GatherState β n}
    (begun : gatherBounded β n concurrency = .ok start) : GatherInvariant concurrency.toNat [] start := by
  unfold gatherBounded at begun
  split_ifs at begun
  obtain rfl := Except.ok.inj begun
  refine ⟨by simp [GatherState.running], by simp, fun index => ?_, ?_, ?_, .inl rfl, ?_⟩
  · simp [Recorded, GatherTrace.calls, GatherTrace.Unended, GatherTrace.Occurs]
  · simp [GatherTrace.Occurs]
  · simp [GatherTrace.Occurs]
  · simp [GatherState.work, TaskPhase.remaining]
    omega

theorem gather_run_invariant {concurrency : Int} {start : GatherState β n}
    (begun : gatherBounded β n concurrency = .ok start) (run : Exec GatherState.Step start trace s) :
    GatherInvariant concurrency.toNat trace s := by
  induction run with
  | start => exact gather_start_invariant begun
  | next _ taken ih =>
    obtain ⟨enabled, rfl⟩ := taken
    exact ih.after enabled

/-- Unless the caller is cancelled first, some task can go on until the call is over. -/
theorem GatherInvariant.progress (inv : GatherInvariant concurrency trace s) (positive : 0 < concurrency)
    (unset : s.outcome = none) : ∃ event ≠ .abort, s.Enabled event := by
  by_cases busy : ∃ index, s.phase index = .running
  · obtain ⟨index, running⟩ := busy
    exact ⟨.fail index, nofun, unset, running⟩
  by_cases idle : ∃ index, s.phase index = .waiting
  · obtain ⟨index, waiting⟩ := idle
    have none_running : s.running = ∅ := by
      rw [Finset.eq_empty_iff_forall_notMem]
      exact fun other mem => busy ⟨other, mem_running.mp mem⟩
    have slots := inv.slots
    rw [none_running, Finset.card_empty] at slots
    exact ⟨.call index, nofun, unset, waiting, by omega⟩
  · exact ⟨.leave, nofun, unset, fun index => ⟨fun h => idle ⟨index, h⟩, fun h => busy ⟨index, h⟩⟩⟩

end

/-- Every operation that was started has returned a value. -/
def AllSucceed (trace : GatherTrace β n) : Prop :=
  (∀ index, ¬ trace.Occurs (.fail index)) ∧ (∀ index, ¬ trace.Occurs (.cancel index)) ∧ ¬ trace.Occurs .abort

/-- A call that is over kept to its bound, returned the results in the order of the factories if all of them
succeeded, and did not fail its assertion. -/
structure BoundedAndOrdered (concurrency : Int) (trace : GatherTrace β n) (s : GatherState β n) : Prop where
  bounded : ∀ t ∈ trace, t.post.running.card ≤ concurrency
  ordered : AllSucceed trace → ∃ values, s.outcome = some (.returned values) ∧ values.length = n ∧
    ∀ index : Fin n, trace.calls index = 1 ∧
      ∀ value, values[index.val]? = some value ↔ trace.Occurs (.succeed index value)
  complete : s.outcome ≠ some .assertionError

/-- No operation ends with `CancelledError` by itself: if one does, another one fails or the caller is cancelled. -/
def NoLoneCancellation (trace : GatherTrace β n) : Prop :=
  (∃ index, trace.Occurs (.fail index)) ∨ trace.Occurs .abort ∨ ∀ index, ¬ trace.Occurs (.cancel index)

section

variable {trace : GatherTrace β n} {s : GatherState β n}

theorem GatherInvariant.running_le (inv : GatherInvariant concurrency trace s) : s.running.card ≤ concurrency := by
  have slots := inv.slots
  omega

theorem GatherInvariant.aborting_iff (inv : GatherInvariant concurrency trace s) :
    s.aborting = true ↔ (∃ index, trace.Occurs (.fail index)) ∨ trace.Occurs .abort := by
  rw [GatherState.aborting, Bool.or_eq_true, inv.failed, inv.cancelled]

/-- Without failure and cancellation every place of the results of a call that is over is filled. -/
theorem GatherInvariant.all_finished (inv : GatherInvariant concurrency trace s)
    (settled : ∀ index, s.phase index ≠ .waiting ∧ s.phase index ≠ .running) (calm : s.failed = false)
    (uncancelled : ∀ index, ¬ trace.Occurs (.cancel index)) (index : Fin n) :
    trace.calls index = 1 ∧ ∃ value, s.results[index.val]? = some (some value) ∧
      ∀ other, trace.Occurs (.succeed index other) ↔ other = value := by
  have told := inv.recorded index
  obtain ⟨started, ended⟩ := settled index
  unfold Recorded at told
  cases phase : s.phase index with
  | waiting => exact absurd phase started
  | running => exact absurd phase ended
  | finished =>
    rw [phase] at told
    exact ⟨told.1, told.2.2⟩
  | failed =>
    rw [phase] at told
    simp [calm] at told
  | cancelled =>
    rw [phase] at told
    exact absurd told.2.2.2 (uncancelled index)

/-- A list without missing values is the list of its values. -/
theorem map_some_reduceOption {results : List (Option β)} (filled : results.all Option.isSome = true) :
    results.reduceOption.map some = results := by
  induction results with
  | nil => rfl
  | cons result rest ih =>
    simp only [List.all_cons, Bool.and_eq_true] at filled
    obtain ⟨value, rfl⟩ := Option.isSome_iff_exists.mp filled.1
    rw [List.reduceOption_cons_of_some, List.map_cons, ih filled.2]

theorem GatherInvariant.ordered (inv : GatherInvariant concurrency trace s)
    (concluded : s.outcome = some s.conclude)
    (settled : ∀ index, s.phase index ≠ .waiting ∧ s.phase index ≠ .running) (calm : s.aborting = false)
    (uncancelled : ∀ index, ¬ trace.Occurs (.cancel index)) :
    ∃ values, s.outcome = some (.returned values) ∧ values.length = n ∧
      ∀ index : Fin n, trace.calls index = 1 ∧
        ∀ value, values[index.val]? = some value ↔ trace.Occurs (.succeed index value) := by
  have unfailed : s.failed = false := (Bool.or_eq_false_iff.mp calm).1
  have finished := inv.all_finished settled unfailed uncancelled
  have filled : s.results.all Option.isSome = true := by
    rw [List.all_eq_true]
    intro result mem
    obtain ⟨place, inside, rfl⟩ := List.getElem_of_mem mem
    obtain ⟨-, value, stored, -⟩ := finished ⟨place, inv.size ▸ inside⟩
    rw [List.getElem?_eq_getElem inside] at stored
    rw [Option.some.inj stored]
    rfl
  have same := map_some_reduceOption filled
  refine ⟨s.results.reduceOption, ?_, ?_, fun index => ⟨(finished index).1, fun value => ?_⟩⟩
  · rw [concluded, GatherState.conclude, calm, filled]
    rfl
  · rw [← List.length_map some, same, inv.size]
  · obtain ⟨-, stored, place, told⟩ := finished index
    rw [← same, List.getElem?_map] at place
    rw [told value]
    cases found : s.results.reduceOption[index.val]? with
    | none => simp [found] at place
    | some kept =>
      simp only [found, Option.map_some, Option.some.injEq] at place
      simp [place, eq_comm]

/-- A lone cancellation leaves a place of the results empty. -/
theorem GatherInvariant.missing (inv : GatherInvariant concurrency trace s)
    (concluded : s.outcome = some s.conclude) (calm : s.aborting = false) {index : Fin n}
    (cancelled : trace.Occurs (.cancel index)) : s.outcome = some .assertionError := by
  have told := inv.recorded index
  have hole : s.results[index.val]? = some none := by
    unfold Recorded at told
    cases phase : s.phase index with
    | finished =>
      rw [phase] at told
      exact absurd cancelled told.2.1
    | _ =>
      rw [phase] at told
      exact told.2.1
  have unfilled : s.results.all Option.isSome = false := by
    rw [List.all_eq_false]
    exact ⟨none, List.mem_of_getElem? hole, by simp⟩
  rw [concluded, GatherState.conclude, calm, unfilled]
  rfl

end

/-- At most `concurrency` factories are called and unfinished at any time, whatever the order in which their
operations are scheduled and end. A call cannot get stuck, and when it is over it has kept to the bound, returned
the results in order if all succeeded, each factory called once, and passed its assertion, exactly if no operation
ended with `CancelledError` alone: the task group ignores such a task. -/
theorem gather_bounded_in_order_iff (β : Type) (n : Nat) {concurrency : Int} (positive : 1 ≤ concurrency) :
    ∃ start, gatherBounded β n concurrency = .ok start ∧
      ∀ (trace : GatherTrace β n) (s : GatherState β n), Exec GatherState.Step start trace s →
        s.running.card ≤ concurrency ∧ trace.length ≤ 2 * n + 2 ∧
        (s.outcome = none → ∃ event ≠ .abort, s.Enabled event) ∧
        (s.outcome ≠ none → (BoundedAndOrdered concurrency trace s ↔ NoLoneCancellation trace)) := by
  have begun : gatherBounded β n concurrency = .ok _ := if_neg (by omega)
  refine ⟨_, begun, fun trace s run => ?_⟩
  have inv := gather_run_invariant begun run
  have bound {trace' : GatherTrace β n} {s' : GatherState β n} (inv' : GatherInvariant concurrency.toNat trace' s') :
      (s'.running.card : Int) ≤ concurrency := by
    have le := inv'.running_le
    omega
  have bounded : ∀ t ∈ trace, (t.post.running.card : Int) ≤ concurrency := by
    intro t mem
    obtain ⟨earlier, later, rfl⟩ := List.append_of_mem mem
    obtain ⟨before, taken, -⟩ := run.split
    exact bound (gather_run_invariant begun (before.next taken))
  have work := inv.work
  refine ⟨bound inv, by omega, inv.progress (by omega), fun done => ?_⟩
  obtain ⟨concluded, settled⟩ := inv.concluded.resolve_left done
  cases calm : s.aborting with
  | true =>
    have disturbed := inv.aborting_iff.mp calm
    have raised : s.outcome = some .raised := by rw [concluded, GatherState.conclude, calm, if_pos rfl]
    refine iff_of_true ⟨bounded, fun all => ?_, by simp [raised]⟩ (disturbed.imp_right .inl)
    rcases disturbed with ⟨index, fail⟩ | abort
    · exact absurd fail (all.1 index)
    · exact absurd abort all.2.2
  | false =>
    have undisturbed := inv.aborting_iff.not.mp (by simp [calm])
    rw [not_or] at undisturbed
    constructor
    · intro sound
      refine .inr (.inr fun index cancelled => ?_)
      exact sound.complete (inv.missing concluded calm cancelled)
    · intro alone
      have uncancelled := (alone.resolve_left undisturbed.1).resolve_left undisturbed.2
      have ordered := inv.ordered concluded settled calm uncancelled
      refine ⟨bounded, fun _ => ordered, ?_⟩
      obtain ⟨values, returned, -⟩ := ordered
      simp [returned]

end

/-- Three operations in two slots, which end in another order than they were started in. -/
def outOfOrder : List (GatherEvent Nat 3) :=
  [.call 0, .call 1, .succeed 1 20, .call 2, .succeed 2 30, .succeed 0 10, .leave]

theorem three_operations_in_two_slots : ∃ start trace s, gatherBounded Nat 3 2 = .ok start ∧
    Exec GatherState.Step start trace s ∧ s.outcome = some (.returned [10, 20, 30]) ∧
    BoundedAndOrdered 2 trace s := by
  obtain ⟨start, begun, runs⟩ := gather_bounded_in_order_iff Nat 3 (by decide : (1 : Int) ≤ 2)
  have run : Exec GatherState.Step start (Exec.traceOf GatherState.after start outOfOrder)
      (outOfOrder.foldl GatherState.after start) := by
    obtain rfl := Except.ok.inj begun
    exact Exec.ofGuard GatherState.Enabled GatherState.after _ outOfOrder (by decide)
  have returned : (outOfOrder.foldl GatherState.after start).outcome = some (.returned [10, 20, 30]) := by
    obtain rfl := Except.ok.inj begun
    decide
  refine ⟨start, _, _, begun, run, returned, ((runs _ _ run).2.2.2 (by simp [returned])).mpr ?_⟩
  refine .inr (.inr ?_)
  simp [GatherTrace.Occurs, outOfOrder, Exec.traceOf]

/-- The only operation is a future that another task cancels. -/
theorem lone_cancellation_fails_the_assertion : ∃ start trace s, gatherBounded Nat 1 1 = .ok start ∧
    Exec GatherState.Step start trace s ∧ s.outcome = some .assertionError ∧ ¬ BoundedAndOrdered 1 trace s := by
  have run := Exec.ofGuard GatherState.Enabled GatherState.after
    (⟨1, fun _ => .waiting, [none], false, false, none⟩ : GatherState Nat 1) [.call 0, .cancel 0, .leave] (by decide)
  exact ⟨_, _, _, rfl, run, by decide, fun sound => sound.complete (by decide)⟩

end DeliveryService
