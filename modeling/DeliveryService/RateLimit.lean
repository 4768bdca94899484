import DeliveryService.Dict
import DeliveryService.Datetime
import DeliveryService.Exec
import Mathlib.Order.Basic

namespace DeliveryService

/-- A UTC `datetime` in microseconds since 0001-01-01; the last year is 9999. -/
abbrev Moment := { t : Int // 0 ≤ t ∧ t < 3652059 * microsecondsPerDay }

/-- `datetime + timedelta`, which raises `OverflowError` outside the years 1 to 9999. -/
def Moment.shift (t : Moment) (delta : Int) : Option Moment :=
  if h : 0 ≤ t.1 + delta ∧ t.1 + delta < 3652059 * microsecondsPerDay then some ⟨t.1 + delta, h⟩ else none

inductive RateLimitError
  | valueError (message : String)
  | overflowError
  | indexError
deriving DecidableEq, Repr

structure RateLimitDecision where
  allowed : Bool
  retryAfterSeconds : Int := 0
deriving DecidableEq, Repr

/-- The arguments of a limiter; the window is a `timedelta` in microseconds. -/
structure RateLimit where
  limit : Int
  window : Int

/-- `math.ceil` of a duration in seconds. -/
def ceilSeconds (microseconds : Int) : Int := -(-microseconds / 1000000)

/-- The seconds until the oldest request of a full budget leaves the window. -/
def retryAfter (rate : RateLimit) (now : Moment) : List Moment → Except RateLimitError Int
  | [] => .error .indexError
  | first :: _ =>
    match first.shift rate.window with
    | none => .error .overflowError
    | some ends => .ok (ceilSeconds (ends.1 - now.1))

/-- The decision on the budgets of a call once they are pruned. -/
def decision (rate : RateLimit) (now : Moment) (buckets : List (List Moment)) :
    Except RateLimitError RateLimitDecision :=
  let blocked := buckets.filter fun requests => rate.limit ≤ requests.length
  if blocked = [] then .ok { allowed := true }
  else (blocked.mapM (retryAfter rate now)).map fun waits =>
    { allowed := false, retryAfterSeconds := waits.foldl max 1 }

def isAllowed : Except RateLimitError RateLimitDecision → Bool
  | .ok made => made.allowed
  | .error _ => false

/-- The requests of a limiter by key, oldest first. -/
abbrev Requests := Dict String (List Moment)

namespace Requests

/-- `self._requests[key]` of a `defaultdict` -/
def bucket (s : Requests) (key : String) : List Moment := (s.get? key).getD []

/-- `while requests and requests[0] <= threshold: requests.popleft()` -/
def pruned (s : Requests) (threshold : Moment) (key : String) : List Moment :=
  (s.bucket key).dropWhile fun t => t.1 ≤ threshold.1

/-- Replace the budgets of the keys. -/
def update (s : Requests) (keys : List String) (budget : String → List Moment) : Requests :=
  keys.foldl (fun s key => s.set key (budget key)) s

def checkMany (rate : RateLimit) (s : Requests) (keys : List String) (now : Moment) :
    Except RateLimitError RateLimitDecision × Requests :=
  if keys = [] ∨ ¬ keys.Nodup then (.error (.valueError "rate-limit keys must be non-empty and unique"), s)
  else
    match now.shift (-rate.window) with
    | none => (.error .overflowError, s)
    | some threshold =>
      let answer := decision rate now (keys.map (s.pruned threshold))
      if isAllowed answer then (answer, s.update keys fun key => s.pruned threshold key ++ [now])
      else (answer, s.update keys (s.pruned threshold))

end Requests

structure RateCall where
  keys : List String
  now : Moment

/-- The keys of a call are non-empty and duplicate-free. -/
def RateCall.Valid (call : RateCall) : Prop := call.keys ≠ [] ∧ call.keys.Nodup

/-- Calls run one after the other under the lock. -/
def Requests.after (rate : RateLimit) (s : Requests) (call : RateCall) : Requests :=
  (s.checkMany rate call.keys call.now).2

def Requests.answer (rate : RateLimit) (s : Requests) (call : RateCall) :
    Except RateLimitError RateLimitDecision :=
  (s.checkMany rate call.keys call.now).1

/-- The times of the calls that use the key. -/
def timesOf (log : List RateCall) (key : String) : List Moment :=
  (log.filter fun call => key ∈ call.keys).map RateCall.now

/-- The logged calls with the key in the window that ends at the given time. -/
def inWindow (rate : RateLimit) (log : List RateCall) (now : Int) (key : String) : List Moment :=
  (timesOf log key).filter fun t => now - rate.window < t.1 ∧ t.1 ≤ now

/-- The answers to the calls, made one after the other. -/
def answersFrom (rate : RateLimit) (s : Requests) (calls : List RateCall) :
    List (Except RateLimitError RateLimitDecision) :=
  (Exec.traceOf (Requests.after rate) s calls).map fun t => t.pre.answer rate t.label

/-- The budgets after the calls. -/
def requestsAfter (rate : RateLimit) (calls : List RateCall) : Requests :=
  calls.foldl (Requests.after rate) .empty

/-- The calls that were allowed, oldest first. -/
def admitted (rate : RateLimit) (calls : List RateCall) : List RateCall :=
  ((Exec.traceOf (Requests.after rate) .empty calls).filter fun t =>
    isAllowed (t.pre.answer rate t.label)).map Transition.label

/-- The budgets hold the log of allowed calls except for a part that has left the window. -/
structure Represents (rate : RateLimit) (s : Requests) (log : List RateCall) (clock : Int) : Prop where
  sorted : List.Pairwise (·.1 ≤ ·.1) (log.map RateCall.now)
  bounded : ∀ call ∈ log, call.now.1 ≤ clock
  budgets : ∀ key, ∃ expired, timesOf log key = expired ++ s.bucket key ∧
    ∀ t ∈ expired, t.1 + rate.window ≤ clock

section

variable {rate : RateLimit} {s : Requests} {log : List RateCall} {clock : Int} {keys : List String} {now : Moment}

theorem shift_eq_some {t threshold : Moment} {delta : Int} (h : t.shift delta = some threshold) :
    threshold.1 = t.1 + delta := by
  unfold Moment.shift at h
  split at h
  next => rw [← Option.some.inj h]
  next => simp at h

theorem dropWhile_le_of_sorted {times : List Moment} (sorted : List.Pairwise (·.1 ≤ ·.1) times) (threshold : Moment) :
    (times.dropWhile fun t => decide (t.1 ≤ threshold.1)) = times.filter fun t => decide (threshold.1 < t.1) := by
  induction times with
  | nil => rfl
  | cons t rest ih =>
    obtain ⟨below, tail⟩ := List.pairwise_cons.mp sorted
    by_cases h : t.1 ≤ threshold.1
    · have kept : ¬ threshold.1 < t.1 := not_lt.mpr h
      simp only [List.dropWhile_cons, List.filter_cons, h, kept, decide_true, decide_false, if_true, Bool.false_eq_true,
        if_false]
      exact ih tail
    · have above : threshold.1 < t.1 := not_le.mp h
      have all : ∀ u ∈ rest, threshold.1 < u.1 := fun u hu => above.trans_le (below u hu)
      simp only [List.dropWhile_cons, h, decide_false, Bool.false_eq_true, if_false, List.filter_cons, above,
        decide_true, if_true, List.cons.injEq, true_and]
      exact (List.filter_eq_self.mpr fun u hu => decide_eq_true (all u hu)).symm

theorem bucket_update (s : Requests) (keys : List String) (budget : String → List Moment) (key : String) :
    (s.update keys budget).bucket key = if key ∈ keys then budget key else s.bucket key := by
  induction keys generalizing s with
  | nil => rfl
  | cons first rest ih =>
    change (Requests.update (Dict.set s first (budget first)) rest budget).bucket key = _
    rw [ih]
    by_cases later : key ∈ rest
    · simp [later]
    · by_cases here : key = first
      · subst here
        simp [later, Requests.bucket]
      · simp [later, here, Requests.bucket, Dict.get?_set_of_ne]

theorem timesOf_sorted (sorted : List.Pairwise (·.1 ≤ ·.1) (log.map RateCall.now)) (key : String) :
    List.Pairwise (·.1 ≤ ·.1) (timesOf log key) :=
  sorted.sublist (List.filter_sublist.map RateCall.now)

theorem timesOf_append (log : List RateCall) (call : RateCall) (key : String) :
    timesOf (log ++ [call]) key = timesOf log key ++ if key ∈ call.keys then [call.now] else [] := by
  simp only [timesOf, List.filter_append, List.map_append, List.filter_singleton]
  split <;> simp_all

theorem pruned_eq_inWindow (rep : Represents rate s log clock) (later : clock ≤ now.1) {threshold : Moment}
    (at_threshold : now.shift (-rate.window) = some threshold) (key : String) :
    s.pruned threshold key = inWindow rate log now.1 key := by
  obtain ⟨expired, split, gone⟩ := rep.budgets key
  have value := shift_eq_some at_threshold
  have drop : s.pruned threshold key = (timesOf log key).dropWhile fun t => decide (t.1 ≤ threshold.1) := by
    rw [split, List.dropWhile_append_of_pos]
    · rfl
    · intro t ht
      have := gone t ht
      exact decide_eq_true (show t.1 ≤ threshold.1 by omega)
  rw [drop, dropWhile_le_of_sorted (timesOf_sorted rep.sorted key)]
  refine List.filter_congr fun t ht => ?_
  obtain ⟨call, mem, rfl⟩ := List.mem_map.mp ht
  have recent : call.now.1 ≤ clock := rep.bounded call (List.mem_of_mem_filter mem)
  have same : threshold < call.now ↔ now.1 - rate.window < call.now.1 := by
    rw [← Subtype.coe_lt_coe, value]
    omega
  simp [same, recent.trans later]

theorem represents_later (rep : Represents rate s log clock) {clock' : Int} (later : clock ≤ clock') :
    Represents rate s log clock' :=
  ⟨rep.sorted, fun call mem => (rep.bounded call mem).trans later, fun key =>
    let ⟨expired, split, gone⟩ := rep.budgets key
    ⟨expired, split, fun t ht => (gone t ht).trans later⟩⟩

/-- Pruning the budgets of some keys forgets only calls that have left the window. -/
theorem represents_pruned (rep : Represents rate s log clock) (later : clock ≤ now.1) {threshold : Moment}
    (at_threshold : now.shift (-rate.window) = some threshold) (keys : List String) :
    Represents rate (s.update keys (s.pruned threshold)) log now.1 := by
  have value := shift_eq_some at_threshold
  refine ⟨rep.sorted, (represents_later rep later).bounded, fun key => ?_⟩
  obtain ⟨expired, split, gone⟩ := (represents_later rep later).budgets key
  rw [bucket_update]
  split_ifs with used
  · refine ⟨expired ++ (s.bucket key).takeWhile fun t => decide (t.1 ≤ threshold.1), ?_, ?_⟩
    · rw [split, List.append_assoc, Requests.pruned, List.takeWhile_append_dropWhile]
    · intro t ht
      rcases List.mem_append.mp ht with old | dropped
      · exact gone t old
      · have below : t.1 ≤ threshold.1 := by simpa using List.mem_takeWhile_imp dropped
        omega
  · exact ⟨expired, split, gone⟩

theorem represents_append (rep : Represents rate s log now.1) (budget : String → List Moment)
    (held : ∀ key ∈ keys, budget key = s.bucket key ++ [now]) :
    Represents rate (s.update keys budget) (log ++ [⟨keys, now⟩]) now.1 := by
  refine ⟨?_, ?_, fun key => ?_⟩
  · rw [List.map_append, List.pairwise_append]
    refine ⟨rep.sorted, List.pairwise_singleton _ _, fun t ht u hu => ?_⟩
    obtain ⟨call, mem, rfl⟩ := List.mem_map.mp ht
    rw [List.mem_singleton.mp hu]
    exact rep.bounded call mem
  · intro call mem
    rcases List.mem_append.mp mem with old | new
    · exact rep.bounded call old
    · rw [List.mem_singleton.mp new]
  · obtain ⟨expired, split, gone⟩ := rep.budgets key
    rw [timesOf_append, bucket_update]
    refine ⟨expired, ?_, gone⟩
    split_ifs with used
    · rw [held key used, split, List.append_assoc]
    · rw [split, List.append_nil]

theorem represents_congr {s' : Requests} (rep : Represents rate s log clock)
    (same : ∀ key, s'.bucket key = s.bucket key) : Represents rate s' log clock :=
  ⟨rep.sorted, rep.bounded, fun key => (same key).symm ▸ rep.budgets key⟩

theorem represents_empty (rate : RateLimit) : Represents rate .empty [] 0 :=
  ⟨.nil, by simp, fun _ => ⟨[], rfl, by simp⟩⟩

/-- The answer that an unbounded log of the allowed calls gives. -/
def logAnswer (rate : RateLimit) (log : List RateCall) (call : RateCall) :
    Except RateLimitError RateLimitDecision :=
  if call.now.shift (-rate.window) = none then .error .overflowError
  else decision rate call.now (call.keys.map (inWindow rate log call.now.1))

def logAfter (rate : RateLimit) (log : List RateCall) (call : RateCall) : List RateCall :=
  if isAllowed (logAnswer rate log call) then log ++ [call] else log

/-- One call answers as the log does and keeps the budgets in step with it. -/
theorem check_refines_log {call : RateCall} (rep : Represents rate s log clock) (later : clock ≤ call.now.1)
    (valid : call.Valid) : s.answer rate call = logAnswer rate log call ∧
      Represents rate (s.after rate call) (logAfter rate log call) call.now.1 := by
  obtain ⟨keys, now⟩ := call
  have usable : ¬ (keys = [] ∨ ¬ keys.Nodup) := by
    rintro (empty | twice)
    · exact valid.1 empty
    · exact twice valid.2
  simp only [Requests.answer, Requests.after, Requests.checkMany, if_neg usable, logAfter, logAnswer]
  cases at_threshold : now.shift (-rate.window) with
  | none => exact ⟨rfl, represents_later rep later⟩
  | some threshold =>
    have windows : keys.map (s.pruned threshold) = keys.map (inWindow rate log now.1) :=
      List.map_congr_left fun key _ => pruned_eq_inWindow rep later at_threshold key
    have pruned := represents_pruned rep later at_threshold keys
    simp only [windows, reduceCtorEq, if_false]
    split_ifs with made
    · refine ⟨rfl, represents_congr (represents_append pruned
        (fun key => s.pruned threshold key ++ [now]) fun key used => ?_) fun key => ?_⟩
      · rw [bucket_update, if_pos used]
      · simp only [bucket_update]
        split_ifs <;> rfl
    · exact ⟨rfl, pruned⟩

theorem isAllowed_decision_iff (buckets : List (List Moment)) :
    isAllowed (decision rate now buckets) = true ↔ ∀ requests ∈ buckets, (requests.length : Int) < rate.limit := by
  have none_blocked : (buckets.filter fun requests => decide (rate.limit ≤ requests.length)) = [] ↔
      ∀ requests ∈ buckets, (requests.length : Int) < rate.limit := by
    simp [List.filter_eq_nil_iff]
  rw [← none_blocked]
  simp only [decision]
  split_ifs with empty
  · simp [isAllowed, empty]
  · generalize (buckets.filter fun requests => decide (rate.limit ≤ requests.length)) = blocked at empty ⊢
    cases blocked.mapM (retryAfter rate now) <;> simp [isAllowed, Except.map, empty]

theorem requestsAfter_append (rate : RateLimit) (calls : List RateCall) (call : RateCall) :
    requestsAfter rate (calls ++ [call]) = (requestsAfter rate calls).after rate call :=
  List.foldl_concat ..

theorem admitted_append (rate : RateLimit) (calls : List RateCall) (call : RateCall) :
    admitted rate (calls ++ [call]) = admitted rate calls ++
      if isAllowed ((requestsAfter rate calls).answer rate call) then [call] else [] := by
  simp only [admitted, Exec.traceOf_append, Exec.traceOf, List.filter_append, List.map_append,
    List.filter_singleton, requestsAfter]
  by_cases allowed : isAllowed (Requests.answer rate (calls.foldl (Requests.after rate) .empty) call) = true
  · simp [allowed]
  · simp [allowed]

theorem answersFrom_append (rate : RateLimit) (s : Requests) (calls later : List RateCall) :
    answersFrom rate s (calls ++ later) =
      answersFrom rate s calls ++ answersFrom rate (calls.foldl (Requests.after rate) s) later := by
  simp only [answersFrom, Exec.traceOf_append, List.map_append]

theorem ordered_append {calls : List RateCall} {call : RateCall}
    (ordered : List.Pairwise (·.1 ≤ ·.1) ((calls ++ [call]).map RateCall.now)) :
    List.Pairwise (·.1 ≤ ·.1) (calls.map RateCall.now) ∧ ∀ other ∈ calls, other.now.1 ≤ call.now.1 := by
  rw [List.map_append, List.pairwise_append] at ordered
  exact ⟨ordered.1, fun other mem => ordered.2.2 _ (List.mem_map_of_mem mem) call.now (by simp)⟩

/-- A call with no key or with a repeated one fails and changes nothing. -/
theorem check_of_not_valid {call : RateCall} (invalid : ¬ call.Valid) : s.after rate call = s ∧
    s.answer rate call = .error (.valueError "rate-limit keys must be non-empty and unique") := by
  have unusable : call.keys = [] ∨ ¬ call.keys.Nodup := by
    by_contra usable
    rw [not_or, not_not] at usable
    exact invalid usable
  simp only [Requests.after, Requests.answer, Requests.checkMany, if_pos unusable, and_self]

/-- Any call, usable or not, keeps the budgets in step with the log of allowed calls. -/
theorem represents_after (rep : Represents rate s log clock) (call : RateCall) (later : clock ≤ call.now.1) :
    Represents rate (s.after rate call) (log ++ if isAllowed (s.answer rate call) then [call] else [])
      call.now.1 := by
  by_cases valid : call.Valid
  · obtain ⟨answered, next⟩ := check_refines_log rep later valid
    have same : log ++ (if isAllowed (s.answer rate call) then [call] else []) = logAfter rate log call := by
      rw [answered, logAfter]
      split_ifs <;> simp
    rw [same]
    exact next
  · have unchanged : s.after rate call = s := (check_of_not_valid valid).1
    have failed : s.answer rate call = .error (.valueError "rate-limit keys must be non-empty and unique") :=
      (check_of_not_valid valid).2
    rw [unchanged, failed]
    simpa [isAllowed] using represents_later rep later

theorem requestsAfter_represents (rate : RateLimit) {calls : List RateCall}
    (ordered : List.Pairwise (·.1 ≤ ·.1) (calls.map RateCall.now)) (reached : ∀ call ∈ calls, call.now.1 ≤ clock)
    (start : 0 ≤ clock) : Represents rate (requestsAfter rate calls) (admitted rate calls) clock := by
  induction calls using List.reverseRecOn generalizing clock with
  | nil => exact represents_later (represents_empty rate) start
  | append_singleton calls call ih =>
    obtain ⟨before, last⟩ := ordered_append ordered
    have next := represents_after (ih before last call.now.2.1) call le_rfl
    rw [requestsAfter_append, admitted_append]
    exact represents_later next (reached call (by simp))

theorem answersFrom_congr {s' : Requests} {calls : List RateCall} (rep : Represents rate s log clock)
    (rep' : Represents rate s' log clock) (valid : ∀ call ∈ calls, call.Valid)
    (ordered : List.Pairwise (·.1 ≤ ·.1) (calls.map RateCall.now)) (later : ∀ call ∈ calls, clock ≤ call.now.1) :
    answersFrom rate s calls = answersFrom rate s' calls := by
  induction calls generalizing s s' log clock with
  | nil => rfl
  | cons call rest ih =>
    rw [List.map_cons, List.pairwise_cons] at ordered
    obtain ⟨first, others⟩ := ordered
    obtain ⟨answered, next⟩ := check_refines_log rep (later call (by simp)) (valid call (by simp))
    obtain ⟨answered', next'⟩ := check_refines_log rep' (later call (by simp)) (valid call (by simp))
    have tails := ih next next' (fun c mem => valid c (by simp [mem])) others
      fun c mem => first c.now (List.mem_map_of_mem mem)
    simp only [answersFrom, Exec.traceOf, List.map_cons] at tails ⊢
    rw [answered, answered', tails]

theorem isAllowed_logAnswer_iff {call : RateCall} : isAllowed (logAnswer rate log call) = true ↔
    call.now.shift (-rate.window) ≠ none ∧
      ∀ key ∈ call.keys, ((inWindow rate log call.now.1 key).length : Int) < rate.limit := by
  unfold logAnswer
  split_ifs with overflow
  · simp [isAllowed, overflow]
  · simp [isAllowed_decision_iff, overflow]

theorem inWindow_append (log : List RateCall) (call : RateCall) (now : Int) (key : String) :
    inWindow rate (log ++ [call]) now key = inWindow rate log now key ++
      if key ∈ call.keys ∧ now - rate.window < call.now.1 ∧ call.now.1 ≤ now then [call.now] else [] := by
  simp only [inWindow, timesOf_append, List.filter_append]
  by_cases used : key ∈ call.keys
  · simp [used, List.filter_singleton]
  · simp [used]

theorem length_inWindow_le (rate : RateLimit) {now' : Int} (bounded : ∀ call ∈ log, call.now.1 ≤ now')
    (earlier : now' ≤ clock) (key : String) :
    (inWindow rate log clock key).length ≤ (inWindow rate log now' key).length := by
  simp only [inWindow, ← List.countP_eq_length_filter]
  refine List.countP_mono_left fun t ht inside => ?_
  obtain ⟨call, mem, rfl⟩ := List.mem_map.mp ht
  have recent := bounded call (List.mem_of_mem_filter mem)
  simp only [decide_eq_true_eq] at inside ⊢
  omega

theorem valid_of_isAllowed {call : RateCall} (allowed : isAllowed (s.answer rate call) = true) : call.Valid := by
  by_contra invalid
  rw [(check_of_not_valid invalid).2] at allowed
  simp [isAllowed] at allowed

/-- No window ever holds more allowed calls with a key than the limit. -/
theorem length_inWindow_admitted {calls : List RateCall} (positive : 1 ≤ rate.limit)
    (ordered : List.Pairwise (·.1 ≤ ·.1) (calls.map RateCall.now)) (now : Int)
    (key : String) : ((inWindow rate (admitted rate calls) now key).length : Int) ≤ rate.limit := by
  induction calls using List.reverseRecOn with
  | nil => exact (show (0 : Int) ≤ 1 by decide).trans positive
  | append_singleton calls call ih =>
    obtain ⟨before, last⟩ := ordered_append ordered
    have rep := requestsAfter_represents rate before last call.now.2.1
    rw [admitted_append]
    split_ifs with allowed
    · rw [inWindow_append]
      split_ifs with added
      · have answered := (check_refines_log rep le_rfl (valid_of_isAllowed allowed)).1
        have room := (isAllowed_logAnswer_iff.mp (answered ▸ allowed)).2 key added.1
        have fewer := length_inWindow_le rate rep.bounded added.2.2 key
        simp only [List.length_append, List.length_singleton]
        omega
      · simpa using ih before
    · simpa using ih before

/-- The limiter decides as an unbounded log of the allowed calls does: a call is allowed exactly when the
start of its window is a `datetime` and each of its keys has room there, it overflows when the start is none,
a call that is not allowed leaves all later answers as they would be without it, and no window holds more than
the limit. -/
theorem limiter_matches_log (rate : RateLimit) {calls : List RateCall} (positive : 1 ≤ rate.limit)
    (valid : ∀ call ∈ calls, call.Valid) (ordered : List.Pairwise (·.1 ≤ ·.1) (calls.map RateCall.now)) :
    (∀ before call after, calls = before ++ call :: after →
      (isAllowed ((requestsAfter rate before).answer rate call) = true ↔
        call.now.shift (-rate.window) ≠ none ∧ ∀ key ∈ call.keys,
          ((inWindow rate (admitted rate before) call.now.1 key).length : Int) < rate.limit) ∧
      (call.now.shift (-rate.window) = none →
        (requestsAfter rate before).answer rate call = .error .overflowError) ∧
      (isAllowed ((requestsAfter rate before).answer rate call) = false →
        answersFrom rate .empty (before ++ after) = answersFrom rate .empty before ++
            (answersFrom rate .empty calls).drop (before.length + 1))) ∧
    ∀ key now, ((inWindow rate (admitted rate calls) now key).length : Int) ≤ rate.limit := by
  refine ⟨?_, fun key now => length_inWindow_admitted positive ordered now key⟩
  rintro before call after rfl
  have shape : before ++ call :: after = (before ++ [call]) ++ after := by simp
  have later := ordered
  rw [shape, List.map_append, List.pairwise_append] at later
  obtain ⟨first, last⟩ := ordered_append later.1
  have rep := requestsAfter_represents rate first last call.now.2.1
  obtain ⟨answered, next⟩ := check_refines_log rep le_rfl (valid call (by simp))
  refine ⟨by rw [answered, isAllowed_logAnswer_iff], fun early => by rw [answered, logAnswer, if_pos early],
    fun refused => ?_⟩
  have kept : logAfter rate (admitted rate before) call = admitted rate before := by
    rw [logAfter, ← answered, refused]
    rfl
  rw [kept] at next
  have same := answersFrom_congr next rep (fun c mem => valid c (by simp [mem])) later.2.1
    fun c mem => later.2.2 _ (by simp) _ (List.mem_map_of_mem mem)
  have size : before.length + 1 = (answersFrom rate .empty (before ++ [call])).length := by
    simp [answersFrom, Exec.length_traceOf]
  have rest : (answersFrom rate .empty (before ++ call :: after)).drop (before.length + 1) =
      answersFrom rate ((requestsAfter rate before).after rate call) after := by
    rw [shape, answersFrom_append rate .empty (before ++ [call]) after, size, List.drop_left, List.foldl_concat]
    rfl
  rw [rest, same, answersFrom_append]
  rfl

end

/-- The first microsecond of 2026 and of its second day. -/
def newYear : Moment := ⟨739616 * microsecondsPerDay, by decide⟩

def newYearLater : Moment := ⟨739617 * microsecondsPerDay, by decide⟩

/-- One login in a week. -/
def weeklyLogin : RateLimit := ⟨1, 7 * microsecondsPerDay⟩

/-- Two logins from one network, a day apart. -/
def firstLogin : RateCall := ⟨["login:network:one", "login:subject:one"], newYear⟩

def secondLogin : RateCall := ⟨["login:network:one", "login:subject:two"], newYearLater⟩

theorem limiter_second_login_denied :
    isAllowed ((requestsAfter weeklyLogin [firstLogin]).answer weeklyLogin secondLogin) = false := by
  have valid : ∀ call ∈ [firstLogin, secondLogin], call.Valid := by
    simp [firstLogin, secondLogin, RateCall.Valid]
  have decides := ((limiter_matches_log weeklyLogin (le_refl 1) valid (by decide)).1 [_] _ [] rfl).1
  refine Bool.eq_false_iff.mpr fun allowed => ?_
  have room := (decides.mp allowed).2 "login:network:one" (by simp [secondLogin])
  exact absurd room (by decide)

/-- The start of a window of a million days is not a `datetime`, so the first call fails. -/
theorem wide_window_overflows :
    ¬ ∀ (rate : RateLimit) (calls : List RateCall), 1 ≤ rate.limit → 0 < rate.window →
      (∀ call ∈ calls, call.Valid) → List.Pairwise (·.1 ≤ ·.1) (calls.map RateCall.now) →
      ∀ before call after, calls = before ++ call :: after →
        (isAllowed ((requestsAfter rate before).answer rate call) = true ↔ ∀ key ∈ call.keys,
          ((inWindow rate (admitted rate before) call.now.1 key).length : Int) < rate.limit) := by
  intro all
  have room := (all ⟨1, 1000000 * microsecondsPerDay⟩ [⟨["login:network:one"], newYear⟩] (le_refl 1) (by decide)
    (by simp [RateCall.Valid]) (by simp) [] _ [] rfl).mpr (by decide)
  exact absurd room (by decide)

end DeliveryService
