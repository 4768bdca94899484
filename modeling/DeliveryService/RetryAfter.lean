import DeliveryService.RateLimit

namespace DeliveryService

/-- A computation mapped over a list succeeds with the results of its elements. -/
theorem mapM_ok {α β ε : Type} {f : α → Except ε β} {xs : List α} {ys : List β} (mapped : xs.mapM f = .ok ys) :
    (∀ x ∈ xs, ∃ y ∈ ys, f x = .ok y) ∧ ∀ y ∈ ys, ∃ x ∈ xs, f x = .ok y := by
  induction xs generalizing ys with
  | nil =>
    cases mapped
    simp
  | cons first rest ih =>
    rw [List.mapM_cons] at mapped
    cases one : f first with
    | error raised => simp [one, bind, Except.bind] at mapped
    | ok made =>
      cases others : rest.mapM f with
      | error raised => simp [one, others, bind, Except.bind] at mapped
      | ok tail =>
        have shape : made :: tail = ys := by simpa [one, others, bind, Except.bind, pure, Except.pure] using mapped
        subst shape
        obtain ⟨each, only⟩ := ih others
        refine ⟨fun x mem => ?_, fun y mem => ?_⟩
        · rcases List.mem_cons.mp mem with rfl | mem
          · exact ⟨made, by simp, one⟩
          · obtain ⟨y, found, same⟩ := each x mem
            exact ⟨y, by simp [found], same⟩
        · rcases List.mem_cons.mp mem with rfl | mem
          · exact ⟨first, by simp, one⟩
          · obtain ⟨x, found, same⟩ := only y mem
            exact ⟨x, by simp [found], same⟩

theorem exists_mapM_ok {α β ε : Type} {f : α → Except ε β} {xs : List α} (each : ∀ x ∈ xs, ∃ y, f x = .ok y) :
    ∃ ys, xs.mapM f = .ok ys := by
  induction xs with
  | nil => exact ⟨[], rfl⟩
  | cons first rest ih =>
    obtain ⟨made, one⟩ := each first (by simp)
    obtain ⟨tail, others⟩ := ih fun x mem => each x (by simp [mem])
    exact ⟨made :: tail, by simp [List.mapM_cons, one, others, bind, Except.bind, pure, Except.pure]⟩

section

variable {rate : RateLimit} {s : Requests} {log : List RateCall} {keys : List String} {now again : Moment}

/-- A full budget whose oldest request leaves the window after the given number of seconds. -/
structure FullFor (rate : RateLimit) (now : Moment) (requests : List Moment) (wait : Int) : Prop where
  full : rate.limit ≤ requests.length
  waits : retryAfter rate now requests = .ok wait

/-- A denial names the longest wait among the full budgets. -/
theorem decision_denied {buckets : List (List Moment)} {r : Int}
    (denied : decision rate now buckets = .ok ⟨false, r⟩) :
    1 ≤ r ∧ (∃ requests ∈ buckets, rate.limit ≤ requests.length) ∧
      (∀ requests ∈ buckets, rate.limit ≤ requests.length → ∃ wait ≤ r, FullFor rate now requests wait) ∧
      (r = 1 ∨ ∃ requests ∈ buckets, FullFor rate now requests r) := by
  unfold decision at denied
  set blocked := buckets.filter fun requests => decide (rate.limit ≤ requests.length) with shape
  have isBlocked : ∀ requests, requests ∈ blocked ↔ requests ∈ buckets ∧ rate.limit ≤ requests.length := by
    simp [shape]
  change (if blocked = [] then _ else _) = _ at denied
  split_ifs at denied with empty
  · simp at denied
  · cases waited : blocked.mapM (retryAfter rate now) with
    | error raised => simp [waited, Except.map] at denied
    | ok waits =>
      have longest : (1 :: waits).max? = some r := by
        rw [List.max?_cons']
        simpa [waited, Except.map] using denied
      obtain ⟨found, largest⟩ := List.max?_eq_some_iff.mp longest
      obtain ⟨each, only⟩ := mapM_ok waited
      obtain ⟨one, more⟩ := List.exists_mem_of_ne_nil _ empty
      refine ⟨largest 1 (by simp), ⟨one, (isBlocked one).mp more⟩, ?_, ?_⟩
      · intro requests mem full
        obtain ⟨wait, mem, same⟩ := each requests ((isBlocked requests).mpr ⟨mem, full⟩)
        exact ⟨wait, largest wait (by simp [mem]), full, same⟩
      · rcases List.mem_cons.mp found with one | mem
        · exact .inl one
        · obtain ⟨requests, mem, same⟩ := only r mem
          obtain ⟨mem, full⟩ := (isBlocked requests).mp mem
          exact .inr ⟨requests, mem, full, same⟩

theorem decision_denied_of_full {buckets : List (List Moment)}
    (some_full : ∃ requests ∈ buckets, rate.limit ≤ requests.length)
    (each : ∀ requests ∈ buckets, rate.limit ≤ requests.length → ∃ wait, retryAfter rate now requests = .ok wait) :
    ∃ r, decision rate now buckets = .ok ⟨false, r⟩ := by
  obtain ⟨requests, mem, full⟩ := some_full
  obtain ⟨waits, waited⟩ : ∃ waits, (buckets.filter fun requests => decide (rate.limit ≤ requests.length)).mapM
      (retryAfter rate now) = .ok waits :=
    exists_mapM_ok fun requests mem =>
      each requests (List.mem_of_mem_filter mem) (by simpa using List.of_mem_filter mem)
  have nonempty : (buckets.filter fun requests => decide (rate.limit ≤ requests.length)) ≠ [] := by
    refine List.ne_nil_of_mem (List.mem_filter.mpr ⟨mem, ?_⟩)
    exact decide_eq_true full
  refine ⟨waits.foldl max 1, ?_⟩
  simp only [decision, if_neg nonempty, waited, Except.map]

theorem retryAfter_ok {requests : List Moment} {wait : Int} (waits : retryAfter rate now requests = .ok wait) :
    ∃ first rest ends, requests = first :: rest ∧ first.shift rate.window = some ends ∧
      wait = ceilSeconds (first.1 + rate.window - now.1) := by
  cases requests with
  | nil => simp [retryAfter] at waits
  | cons first rest =>
    cases shifted : first.shift rate.window with
    | none => simp [retryAfter, shifted] at waits
    | some ends =>
      refine ⟨first, rest, ends, rfl, shifted, ?_⟩
      rw [← shift_eq_some shifted]
      simpa [retryAfter, shifted] using waits.symm

theorem ceilSeconds_le_iff (microseconds seconds : Int) :
    ceilSeconds microseconds ≤ seconds ↔ microseconds ≤ seconds * 1000000 := by
  unfold ceilSeconds
  omega

theorem decision_allowed {buckets : List (List Moment)}
    (room : ∀ requests ∈ buckets, (requests.length : Int) < rate.limit) :
    decision rate now buckets = .ok { allowed := true } := by
  have none_blocked : (buckets.filter fun requests => decide (rate.limit ≤ requests.length)) = [] := by
    simpa [List.filter_eq_nil_iff] using room
  simp only [decision, if_pos none_blocked]

/-- A later window holds what has not left the earlier one, when no call was allowed in between. -/
theorem inWindow_later (bounded : ∀ call ∈ log, call.now.1 ≤ now.1) (later : now.1 ≤ again.1) (key : String) :
    inWindow rate log again.1 key =
      (inWindow rate log now.1 key).filter fun t => decide (again.1 - rate.window < t.1) := by
  rw [inWindow, inWindow, List.filter_filter]
  refine List.filter_congr fun t ht => ?_
  obtain ⟨call, mem, rfl⟩ := List.mem_map.mp ht
  have recent := bounded call (List.mem_of_mem_filter mem)
  rw [← Bool.decide_and, decide_eq_decide]
  omega

theorem inWindow_sorted (rate : RateLimit) (sorted : List.Pairwise (·.1 ≤ ·.1) (log.map RateCall.now)) (time : Int)
    (key : String) : List.Pairwise (·.1 ≤ ·.1) (inWindow rate log time key) :=
  (timesOf_sorted sorted key).sublist List.filter_sublist

/-- As long as its oldest request is in the window, a budget stays as it is. -/
theorem inWindow_unchanged (sorted : List.Pairwise (·.1 ≤ ·.1) (log.map RateCall.now))
    (bounded : ∀ call ∈ log, call.now.1 ≤ now.1) (later : now.1 ≤ again.1) {key : String} {first : Moment}
    {rest : List Moment} (held : inWindow rate log now.1 key = first :: rest)
    (stays : again.1 - rate.window < first.1) :
    inWindow rate log again.1 key = inWindow rate log now.1 key := by
  rw [inWindow_later bounded later]
  refine List.filter_eq_self.mpr fun t mem => decide_eq_true ?_
  have order := inWindow_sorted rate sorted now.1 key
  rw [held] at order mem
  rcases List.mem_cons.mp mem with rfl | mem
  · exact stays
  · have after := (List.pairwise_cons.mp order).1 t mem
    omega

/-- Once its oldest request has left the window, a budget has room. -/
theorem inWindow_reopened (bounded : ∀ call ∈ log, call.now.1 ≤ now.1) (later : now.1 ≤ again.1) {key : String}
    {first : Moment} {rest : List Moment} (held : inWindow rate log now.1 key = first :: rest)
    (left : first.1 ≤ again.1 - rate.window) :
    (inWindow rate log again.1 key).length < (inWindow rate log now.1 key).length := by
  have dropped : ¬ again.1 - rate.window < first.1 := not_lt.mpr left
  rw [inWindow_later bounded later, held, List.filter_cons, if_neg (by simpa using dropped), List.length_cons]
  exact Nat.lt_succ_of_le (List.length_filter_le _ _)

theorem shift_later {delta : Int} (backwards : 0 < delta) (later : now.1 ≤ again.1)
    (starts : now.shift (-delta) ≠ none) : again.shift (-delta) ≠ none := by
  have upper := again.2.2
  unfold Moment.shift at starts ⊢
  split at starts
  next inside =>
    rw [dif_pos ⟨by omega, by omega⟩]
    simp
  next => simp at starts

theorem logAnswer_denied {r : Int} (denied : logAnswer rate log ⟨keys, now⟩ = .ok ⟨false, r⟩) :
    now.shift (-rate.window) ≠ none ∧ decision rate now (keys.map (inWindow rate log now.1)) = .ok ⟨false, r⟩ := by
  simp only [logAnswer] at denied
  split_ifs at denied with overflow
  exact ⟨overflow, denied⟩

/-- A budget that is full at a denial, with the whole seconds until its oldest request leaves. -/
theorem full_budget {key : String} {wait : Int} (full : FullFor rate now (inWindow rate log now.1 key) wait) :
    ∃ first rest ends, inWindow rate log now.1 key = first :: rest ∧ first.shift rate.window = some ends ∧
      ∀ seconds, wait ≤ seconds ↔ first.1 ≤ now.1 + seconds * 1000000 - rate.window := by
  obtain ⟨first, rest, ends, held, shifted, value⟩ := retryAfter_ok full.waits
  refine ⟨first, rest, ends, held, shifted, fun seconds => ?_⟩
  rw [value, ceilSeconds_le_iff]
  omega

theorem positive_wait {key : String} {wait : Int} (full : FullFor rate now (inWindow rate log now.1 key) wait) :
    1 ≤ wait := by
  obtain ⟨first, rest, ends, held, -, leaves⟩ := full_budget full
  have recent : first ∈ inWindow rate log now.1 key := by simp [held]
  have inside : now.1 - rate.window < first.1 := by
    have both := List.of_mem_filter recent
    rw [decide_eq_true_eq] at both
    exact both.1
  have waits := (leaves 0).not.mpr (by omega)
  omega

/-- A denial has a budget with the announced wait. -/
theorem exists_longest_wait {r : Int}
    (decided : decision rate now (keys.map (inWindow rate log now.1)) = .ok ⟨false, r⟩) :
    ∃ key ∈ keys, FullFor rate now (inWindow rate log now.1 key) r := by
  obtain ⟨-, ⟨requests, mem, full⟩, each, longest⟩ := decision_denied decided
  rcases longest with one | ⟨requests, mem, budget⟩
  · obtain ⟨key, used, rfl⟩ := List.mem_map.mp mem
    obtain ⟨wait, within, budget⟩ := each _ mem full
    have atLeast := positive_wait budget
    have same : wait = r := by omega
    exact ⟨key, used, same ▸ budget⟩
  · obtain ⟨key, used, rfl⟩ := List.mem_map.mp mem
    exact ⟨key, used, budget⟩

/-- Without allowed calls in between, the log answers a denied call again exactly as announced. -/
theorem logAnswer_again {r seconds : Int} (window : 0 < rate.window)
    (sorted : List.Pairwise (·.1 ≤ ·.1) (log.map RateCall.now)) (bounded : ∀ call ∈ log, call.now.1 ≤ now.1)
    (limited : ∀ key, ((inWindow rate log now.1 key).length : Int) ≤ rate.limit)
    (denied : logAnswer rate log ⟨keys, now⟩ = .ok ⟨false, r⟩) (nonneg : 0 ≤ seconds)
    (elapsed : again.1 = now.1 + seconds * 1000000) :
    (r ≤ seconds → logAnswer rate log ⟨keys, again⟩ = .ok { allowed := true }) ∧
      (seconds < r → ∃ left, logAnswer rate log ⟨keys, again⟩ = .ok ⟨false, left⟩) := by
  have later : now.1 ≤ again.1 := by omega
  obtain ⟨starts, decided⟩ := logAnswer_denied denied
  obtain ⟨positive, -, each, longest⟩ := decision_denied decided
  have inside := shift_later window later starts
  simp only [logAnswer, if_neg inside]
  refine ⟨fun enough => decision_allowed fun requests mem => ?_, fun early => ?_⟩
  · obtain ⟨key, used, rfl⟩ := List.mem_map.mp mem
    by_cases full : rate.limit ≤ (inWindow rate log now.1 key).length
    · obtain ⟨wait, within, budget⟩ := each _ (List.mem_map_of_mem used) full
      obtain ⟨first, rest, ends, held, -, leaves⟩ := full_budget budget
      have fewer := inWindow_reopened bounded later held (elapsed ▸ (leaves seconds).mp (by omega))
      have most := limited key
      omega
    · have fewer := length_inWindow_le rate bounded later key
      omega
  · refine decision_denied_of_full ?_ fun requests mem stillFull => ?_
    · -- the oldest request of the budget with the longest wait is still in the window
      obtain ⟨key, used, budget⟩ := exists_longest_wait decided
      obtain ⟨first, rest, ends, held, -, leaves⟩ := full_budget budget
      have stays := (leaves seconds).not.mp (by omega)
      refine ⟨_, List.mem_map_of_mem used, ?_⟩
      rw [inWindow_unchanged sorted bounded later held (by omega)]
      exact budget.full
    · obtain ⟨key, used, rfl⟩ := List.mem_map.mp mem
      have fewer := length_inWindow_le rate bounded later key
      obtain ⟨wait, -, budget⟩ := each _ (List.mem_map_of_mem used) (by omega)
      obtain ⟨first, rest, ends, held, shifted, leaves⟩ := full_budget budget
      have stays : again.1 - rate.window < first.1 := by
        by_contra left
        have reopened := inWindow_reopened bounded later held (not_lt.mp left)
        have most := limited key
        omega
      rw [inWindow_unchanged sorted bounded later held stays, held]
      exact ⟨ceilSeconds (ends.1 - again.1), by simp only [retryAfter, shifted]⟩

theorem valid_of_answer_ok {call : RateCall} {made : RateLimitDecision} (answered : s.answer rate call = .ok made) :
    call.Valid := by
  by_contra invalid
  rw [(check_of_not_valid invalid).2] at answered
  simp at answered

/-- Calls that are not allowed, or do not use the key, leave its part of the log. -/
theorem timesOf_admitted_append {calls later : List RateCall} {key : String}
    (untouched : ∀ before other after, later = before ++ other :: after →
      isAllowed ((requestsAfter rate (calls ++ before)).answer rate other) = true → key ∉ other.keys) :
    timesOf (admitted rate (calls ++ later)) key = timesOf (admitted rate calls) key := by
  induction later using List.reverseRecOn with
  | nil => rw [List.append_nil]
  | append_singleton later last ih =>
    have earlier := ih fun before other after shape =>
      untouched before other (after ++ [last]) (by rw [shape, List.append_assoc, List.cons_append])
    rw [← List.append_assoc, admitted_append]
    split_ifs with allowed
    · rw [timesOf_append, if_neg (untouched later last [] rfl allowed), List.append_nil, earlier]
    · rw [List.append_nil, earlier]

theorem logAnswer_congr {log' : List RateCall} {call : RateCall}
    (same : ∀ key ∈ call.keys, timesOf log' key = timesOf log key) :
    logAnswer rate log' call = logAnswer rate log call := by
  have windows : call.keys.map (inWindow rate log' call.now.1) = call.keys.map (inWindow rate log call.now.1) := by
    refine List.map_congr_left fun key used => ?_
    rw [inWindow, same key used]
    rfl
  rw [logAnswer, logAnswer, windows]

/-- `Retry-After` is sufficient and minimal: a call that was denied, made again after that many seconds with
its keys used by no allowed call since, is allowed, and after fewer whole seconds it is denied. -/
theorem retry_after_is_exact (rate : RateLimit) (positive : 1 ≤ rate.limit) (window : 0 < rate.window)
    {calls : List RateCall} {call : RateCall} {r : Int}
    (ordered : List.Pairwise (·.1 ≤ ·.1) ((calls ++ [call]).map RateCall.now))
    (denied : (requestsAfter rate calls).answer rate call = .ok ⟨false, r⟩) :
    1 ≤ r ∧ ∀ (between : List RateCall) (again : Moment),
      List.Pairwise (·.1 ≤ ·.1) ((calls ++ call :: between ++ [RateCall.mk call.keys again]).map RateCall.now) →
      (∀ before other after, between = before ++ other :: after →
        isAllowed ((requestsAfter rate (calls ++ call :: before)).answer rate other) = true →
          ∀ key ∈ call.keys, key ∉ other.keys) →
      (again.1 = call.now.1 + r * 1000000 →
        (requestsAfter rate (calls ++ call :: between)).answer rate ⟨call.keys, again⟩ =
          .ok { allowed := true }) ∧
      ∀ seconds : Int, 0 ≤ seconds → seconds < r → again.1 = call.now.1 + seconds * 1000000 →
        ∃ left, (requestsAfter rate (calls ++ call :: between)).answer rate ⟨call.keys, again⟩ =
          .ok ⟨false, left⟩ := by
  obtain ⟨first, last⟩ := ordered_append ordered
  have valid := valid_of_answer_ok denied
  have rep := requestsAfter_represents rate first last call.now.2.1
  have logged := (check_refines_log rep le_rfl valid).1
  rw [denied] at logged
  have limited := length_inWindow_admitted positive first call.now.1
  refine ⟨(decision_denied (logAnswer_denied logged.symm).2).1, fun between again runs untouched => ?_⟩
  -- the calls since the denial leave the log of the keys as it was
  have same : ∀ key ∈ call.keys, timesOf (admitted rate (calls ++ call :: between)) key =
      timesOf (admitted rate calls) key := by
    intro key used
    refine timesOf_admitted_append fun before other after shape allowed => ?_
    cases before with
    | nil =>
      obtain ⟨rfl, -⟩ := List.cons.inj shape
      rw [List.append_nil, denied] at allowed
      simp [isAllowed] at allowed
    | cons head before =>
      obtain ⟨rfl, rest⟩ := List.cons.inj shape
      exact untouched before other after rest allowed key used
  obtain ⟨since, latest⟩ := ordered_append runs
  have rep' := requestsAfter_represents rate since latest again.2.1
  have repeated : RateCall.Valid ⟨call.keys, again⟩ := valid
  have answered := (check_refines_log rep' le_rfl repeated).1
  have unchanged : logAnswer rate (admitted rate (calls ++ call :: between)) ⟨call.keys, again⟩ =
      logAnswer rate (admitted rate calls) ⟨call.keys, again⟩ := logAnswer_congr same
  rw [answered, unchanged]
  refine ⟨fun elapsed => ?_, fun seconds nonneg early elapsed => ?_⟩
  · have waited := (decision_denied (logAnswer_denied logged.symm).2).1
    exact (logAnswer_again window rep.sorted rep.bounded limited logged.symm (by omega) elapsed).1 le_rfl
  · exact (logAnswer_again window rep.sorted rep.bounded limited logged.symm nonneg elapsed).2 early

end

/-- The last microsecond of the first day of 2026 and the moment the first login leaves the window. -/
def newYearEvening : Moment := ⟨739617 * microsecondsPerDay - 1, by decide⟩

def newYearReopens : Moment := ⟨739623 * microsecondsPerDay + 999999, by decide⟩

/-- The second login of the week, in the evening, is told to wait for six days and one second. -/
theorem evening_login_denied : (requestsAfter weeklyLogin [firstLogin]).answer weeklyLogin
    ⟨secondLogin.keys, newYearEvening⟩ = .ok ⟨false, 518401⟩ := by
  decide

theorem retry_after_evening_login : (requestsAfter weeklyLogin [firstLogin]).answer weeklyLogin
      ⟨secondLogin.keys, newYearEvening⟩ = .ok ⟨false, 518401⟩ ∧
    (requestsAfter weeklyLogin [firstLogin, ⟨secondLogin.keys, newYearEvening⟩]).answer weeklyLogin
      ⟨secondLogin.keys, newYearReopens⟩ = .ok { allowed := true } := by
  refine ⟨evening_login_denied, ?_⟩
  have exact := (retry_after_is_exact weeklyLogin (le_refl 1) (by decide) (by decide) evening_login_denied).2 []
    newYearReopens (by decide) (by simp)
  exact exact.1 (by decide)

end DeliveryService
