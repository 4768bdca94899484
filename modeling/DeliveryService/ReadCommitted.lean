import Mathlib.Logic.Function.Basic
import DeliveryService.Exec
import DeliveryService.Transaction

/-- A transaction in progress: what is left of its body, its locks and its pending write; while a
statement runs, the snapshot it was started with. -/
structure Active (D L ε α J : Type) where
  job : J
  program : Prog D L ε α
  held : List L
  write : D → D
  snapshot : Option D

/-- The committed data and the transactions in progress. -/
structure Cluster (D L ε α J κ : Type) where
  db : D
  active : κ → Option (Active D L ε α J)

/-- What can happen: a transaction begins, starts or finishes a statement, commits, is rolled back by
an exception or is lost at any point. -/
inductive Event (ε α J κ : Type)
  | begin (k : κ) (job : J)
  | start (k : κ)
  | finish (k : κ)
  | commit (k : κ) (job : J) (a : α)
  | rollback (k : κ) (job : J) (e : ε)
  | crash (k : κ) (job : J)

/-- What an event may do to the committed data when every job ends as specified. -/
def Event.Meets {D L ε α J κ : Type} (spec : J → Prog.Ending D L ε α) (event : Event ε α J κ) (db db' : D) :
    Prop :=
  match event with
  | .commit _ job a => ∃ held write, spec job (.ok a) held write db ∧ db' = write db
  | .rollback _ job e => (∃ held write, spec job (.error e) held write db) ∧ db' = db
  | _ => db' = db

/-- Only a commit changes the data, and only as its job may. -/
theorem Event.Meets.unchanged_or_commit {D L ε α J κ : Type} {spec : J → Prog.Ending D L ε α} {event : Event ε α J κ}
    {db db' : D} (meets : event.Meets spec db db') :
    db' = db ∨ ∃ k job a held write, event = .commit k job a ∧ spec job (.ok a) held write db ∧ db' = write db := by
  cases event with
  | commit k job a =>
    obtain ⟨held, write, ended, after⟩ := meets
    exact .inr ⟨k, job, a, held, write, rfl, ended, after⟩
  | rollback => exact .inl meets.2
  | begin | start | finish | crash => exact .inl meets

namespace Cluster

variable {D L ε α J κ : Type} [DecidableEq κ]

/-- Another transaction holds the lock. -/
def LockedFor (σ : Cluster D L ε α J κ) (k : κ) (l : L) : Prop :=
  ∃ other t, other ≠ k ∧ σ.active other = some t ∧ l ∈ t.held

def setActive (σ : Cluster D L ε α J κ) (k : κ) (t : Option (Active D L ε α J)) : Cluster D L ε α J κ :=
  { σ with active := Function.update σ.active k t }

/-- The steps of concurrent transactions under read committed isolation: a statement works on a
snapshot of the data committed before it started and of its own writes; it waits for the locks it
needs and then sees the newest data; locks are kept to the end of the transaction. -/
inductive Step (body : J → Prog D L ε α) :
    Cluster D L ε α J κ → Event ε α J κ → Cluster D L ε α J κ → Prop
  | begin {σ k job} : σ.active k = none →
      Step body σ (.begin k job) (σ.setActive k (some ⟨job, body job, [], id, none⟩))
  | start {σ k t β s next} : σ.active k = some t → t.program = .stmt β s next → t.snapshot = none →
      Step body σ (.start k) (σ.setActive k (some { t with snapshot := some (t.write σ.db) }))
  | finish {σ k t β s next snapshot locked finished} : σ.active k = some t → t.program = .stmt β s next →
      t.snapshot = some snapshot → (∀ l, locked l = true ↔ σ.LockedFor k l) →
      s locked snapshot (t.write σ.db) = .ok finished → (∀ l ∈ finished.locks, locked l = false) →
      Step body σ (.finish k) (σ.setActive k (some ⟨t.job, next (.ok finished.value),
        finished.locks ++ t.held, finished.write ∘ t.write, none⟩))
  | fail {σ k t β s next snapshot locked e} : σ.active k = some t → t.program = .stmt β s next →
      t.snapshot = some snapshot → (∀ l, locked l = true ↔ σ.LockedFor k l) →
      s locked snapshot (t.write σ.db) = .error e →
      Step body σ (.finish k) (σ.setActive k (some ⟨t.job, next (.error e), t.held, t.write, none⟩))
  | commit {σ k t a} : σ.active k = some t → t.program = .ret a →
      Step body σ (.commit k t.job a) { σ.setActive k none with db := t.write σ.db }
  | rollback {σ k t e} : σ.active k = some t → t.program = .raise e →
      Step body σ (.rollback k t.job e) (σ.setActive k none)
  | crash {σ k t} : σ.active k = some t → Step body σ (.crash k t.job) (σ.setActive k none)

/-- No transaction in progress. -/
def quiet (db : D) : Cluster D L ε α J κ := ⟨db, fun _ => none⟩

section

variable (C : Contract D L) (spec : J → Prog.Ending D L ε α) {body : J → Prog D L ε α} {σ σ' : Cluster D L ε α J κ}

/-- A transaction in progress will still end as its job's specification says. -/
def OnTrack (t : Active D L ε α J) (db : D) : Prop :=
  C.Covers t.held t.write ∧ ∃ base, Prog.wp C (spec t.job) t.program t.held t.write base ∧
    C.Env t.held base db ∧ ∀ snapshot, t.snapshot = some snapshot → snapshot = t.write base

/-- Every transaction is on track and no lock has two holders. -/
structure Sound (σ : Cluster D L ε α J κ) : Prop where
  onTrack : ∀ k t, σ.active k = some t → OnTrack C spec t σ.db
  exclusive : ∀ k k' t t' l, k ≠ k' → σ.active k = some t → σ.active k' = some t' →
    l ∈ t.held → l ∉ t'.held

variable {C} {spec}

theorem active_setActive (σ : Cluster D L ε α J κ) (k other : κ) (t : Option (Active D L ε α J)) :
    (σ.setActive k t).active other = if other = k then t else σ.active other := by
  simp [setActive, Function.update_apply]

/-- The transactions that are left when one ends are the others. -/
theorem active_of_removed {k other : κ} {t : Active D L ε α J} (found : (σ.setActive k none).active other = some t) :
    other ≠ k ∧ σ.active other = some t := by
  rw [active_setActive] at found
  split at found
  next => cases found
  next different => exact ⟨different, found⟩

/-- Replace one transaction by one that is on track and whose new locks were free. -/
theorem Sound.replace (sound : Sound C spec σ) {k : κ} {t : Active D L ε α J} (track : OnTrack C spec t σ.db)
    (free : ∀ l ∈ t.held, ¬ σ.LockedFor k l) : Sound C spec (σ.setActive k (some t)) := by
  constructor
  · intro other t' found
    rw [active_setActive] at found
    split at found
    next =>
      obtain rfl := Option.some.inj found
      exact track
    next => exact sound.onTrack other t' found
  · intro a b ta tb l different ha hb hold
    rw [active_setActive] at ha hb
    split at ha
    next here =>
      subst here
      obtain rfl := Option.some.inj ha
      rw [if_neg (Ne.symm different)] at hb
      exact fun hold' => free l hold ⟨b, tb, Ne.symm different, hb, hold'⟩
    next =>
      split at hb
      next here =>
        subst here
        obtain rfl := Option.some.inj hb
        exact fun hold' => free l hold' ⟨a, ta, different, ha, hold⟩
      next => exact sound.exclusive a b ta tb l different ha hb hold

theorem Sound.remove (sound : Sound C spec σ) (k : κ) : Sound C spec (σ.setActive k none) := by
  constructor
  · exact fun other t found => sound.onTrack other t (active_of_removed found).2
  · exact fun a b ta tb l different ha hb =>
      sound.exclusive a b ta tb l different (active_of_removed ha).2 (active_of_removed hb).2

omit [DecidableEq κ] in
theorem Sound.not_locked (sound : Sound C spec σ) {k : κ} {t : Active D L ε α J} (found : σ.active k = some t) {l : L}
    (hold : l ∈ t.held) : ¬ σ.LockedFor k l := by
  rintro ⟨other, t', different, found', hold'⟩
  exact sound.exclusive other k t' t l different found' found hold' hold

theorem OnTrack.ending {t : Active D L ε α J} {db : D} (track : OnTrack C spec t db) {r : Except ε α}
    (ended : t.program = Prog.ofResult r) : spec t.job r t.held t.write db := by
  obtain ⟨_, base, safe, env, _⟩ := track
  rw [ended] at safe
  cases r with
  | ok a => exact safe db env
  | error e => exact safe db env

theorem Sound.commit (sound : Sound C spec σ) {k : κ} {t : Active D L ε α J} (found : σ.active k = some t)
    (promised : C.step σ.db (t.write σ.db)) :
    Sound C spec { σ.setActive k none with db := t.write σ.db } := by
  have rest := sound.remove k
  constructor
  · intro other t' found'
    obtain ⟨covers, base, safe, env, snap⟩ := rest.onTrack other t' found'
    refine ⟨covers, base, safe, env.trans ⟨promised, fun l hold => ?_⟩, snap⟩
    refine (sound.onTrack k t found).1 l (fun hold' => ?_) σ.db
    obtain ⟨different, found'⟩ := active_of_removed found'
    exact sound.exclusive k other t t' l (Ne.symm different) found found' hold' hold
  · exact rest.exclusive

theorem OnTrack.statement {t : Active D L ε α J} {db : D} {β : Type} {s : Statement D L ε β}
    {next : Except ε β → Prog D L ε α} {snapshot : D} {locked : L → Bool} (track : OnTrack C spec t db)
    (shape : t.program = .stmt β s next) (snap : t.snapshot = some snapshot)
    (free : ∀ l ∈ t.held, locked l = false) :
    (∀ finished, s locked snapshot (t.write db) = .ok finished → (∀ l ∈ finished.locks, locked l = false) →
      OnTrack C spec ⟨t.job, next (.ok finished.value), finished.locks ++ t.held, finished.write ∘ t.write, none⟩
        db) ∧
    ∀ e, s locked snapshot (t.write db) = .error e →
      OnTrack C spec ⟨t.job, next (.error e), t.held, t.write, none⟩ db := by
  obtain ⟨covers, base, safe, env, taken⟩ := track
  obtain rfl := taken snapshot snap
  rw [shape] at safe
  have done := safe base db locked (C.env_refl _ _) env free
  constructor
  · intro finished ran granted
    simp only [ran] at done
    obtain ⟨covered, rest⟩ := done granted
    refine ⟨fun l outside now => ?_, db, rest, C.env_refl _ _, by simp⟩
    exact C.agree_trans (covers l (fun h => outside (List.mem_append_right _ h)) now)
      (covered l outside (t.write now))
  · intro e ran
    simp only [ran] at done
    exact ⟨covers, db, done, C.env_refl _ _, by simp⟩

theorem Sound.meets {event : Event ε α J κ} (sound : Sound C spec σ) (taken : Step body σ event σ') :
    event.Meets spec σ.db σ'.db := by
  cases taken with
  | begin | start | finish | fail | crash => rfl
  | @commit k t a found shape =>
    exact ⟨t.held, t.write, (sound.onTrack k t found).ending (r := .ok a) shape, rfl⟩
  | @rollback k t e found shape =>
    exact ⟨⟨t.held, t.write, (sound.onTrack k t found).ending (r := .error e) shape⟩, rfl⟩

variable (verified : ∀ job db, Prog.wp C (spec job) (body job) [] id db)
  (promise : ∀ job a held write db, spec job (.ok a) held write db → C.step db (write db))

include verified promise

theorem Sound.step {event : Event ε α J κ} (sound : Sound C spec σ) (taken : Step body σ event σ') :
    Sound C spec σ' := by
  cases taken with
  | @begin k job idle =>
    refine sound.replace ⟨fun l _ db => C.agree_refl l db, σ.db, verified job σ.db, C.env_refl _ _, by simp⟩ ?_
    simp
  | @start k t β s next found shape _ =>
    obtain ⟨covers, base, safe, env, _⟩ := sound.onTrack k t found
    refine sound.replace ⟨covers, σ.db, Prog.wp_env safe env, C.env_refl _ _, fun snapshot h => ?_⟩ ?_
    · exact (Option.some.inj h).symm
    · exact fun l hold => sound.not_locked found hold
  | @finish k t β s next snapshot locked finished found shape snap exact_locks ran granted =>
    have free : ∀ l, ¬ σ.LockedFor k l → locked l = false := fun l h => by
      rwa [← exact_locks l, Bool.not_eq_true] at h
    have held := fun l hold => sound.not_locked found (l := l) hold
    refine sound.replace (((sound.onTrack k t found).statement shape snap
      (fun l hold => free l (held l hold))).1 finished ran granted) ?_
    intro l hold
    rcases List.mem_append.mp hold with new | old
    · rw [← exact_locks l, Bool.not_eq_true]
      exact granted l new
    · exact held l old
  | @fail k t β s next snapshot locked e found shape snap exact_locks ran =>
    have held := fun l hold => sound.not_locked found (l := l) hold
    refine sound.replace (((sound.onTrack k t found).statement shape snap ?_).2 e ran) held
    intro l hold
    rw [← Bool.not_eq_true, exact_locks l]
    exact held l hold
  | @commit k t a found shape =>
    exact sound.commit found (promise _ _ _ _ _ ((sound.onTrack k t found).ending (r := .ok a) shape))
  | rollback found shape => exact sound.remove _
  | crash found => exact sound.remove _

omit [DecidableEq κ] verified promise in
theorem sound_quiet (db : D) : Sound C spec (quiet db : Cluster D L ε α J κ) :=
  ⟨fun _ _ found => by simp [quiet] at found, fun _ _ _ _ _ _ found => by simp [quiet] at found⟩

/-- Only commits change the data; every commit and every rollback meets the specification of its job. -/
theorem meets_of_run {db₀ : D} {trace : List (Transition (Cluster D L ε α J κ) (Event ε α J κ))}
    (run : Exec (Step body) (quiet db₀) trace σ) {t : Transition (Cluster D L ε α J κ) (Event ε α J κ)}
    (ht : t ∈ trace) : t.label.Meets spec t.pre.db t.post.db := by
  obtain ⟨sound, step, _⟩ := run.invariant_transition (sound_quiet db₀)
    (fun _ _ _ => Sound.step verified promise) ht
  exact sound.meets step

end

section

variable {k : κ} {σ : Cluster D L ε α J κ}

theorem lockedFor_setActive (t : Option (Active D L ε α J)) (l : L) :
    (σ.setActive k t).LockedFor k l ↔ σ.LockedFor k l := by
  simp only [LockedFor, active_setActive]
  constructor
  · rintro ⟨other, t', different, found, hold⟩
    rw [if_neg different] at found
    exact ⟨other, t', different, found, hold⟩
  · rintro ⟨other, t', different, found, hold⟩
    exact ⟨other, t', different, by rw [if_neg different]; exact found, hold⟩

theorem setActive_setActive (t t' : Option (Active D L ε α J)) :
    (σ.setActive k t).setActive k t' = σ.setActive k t' := by
  simp [setActive]

theorem setActive_none (idle : σ.active k = none) : σ.setActive k none = σ := by
  rw [setActive, ← idle, Function.update_eq_self]

/-- While nobody else holds a lock, a statement that was started finishes as it does alone. -/
theorem step_statement (body : J → Prog D L ε α) (free : ∀ l, ¬ σ.LockedFor k l) {β : Type} (s : Statement D L ε β)
    (next : Except ε β → Prog D L ε α) (job : J) (held : List L) (write : D → D) (snapshot : D) :
    ∃ r held' write', Step body (σ.setActive k (some ⟨job, .stmt β s next, held, write, some snapshot⟩)) (.finish k)
        (σ.setActive k (some ⟨job, next r, held', write', none⟩)) ∧
      (Prog.stmt β s next).resume snapshot (write σ.db) = (next r).runAlone (write' σ.db) := by
  have here : ∀ t, (σ.setActive k (some t)).active k = some t := fun t => by simp [active_setActive]
  have alone : ∀ t l, (fun _ : L => false) l = true ↔ (σ.setActive k (some t)).LockedFor k l :=
    fun t l => by simpa [lockedFor_setActive] using free l
  simp only [Prog.resume]
  cases ran : s (fun _ => false) snapshot (write σ.db) with
  | ok finished =>
    have finish : Step body _ (.finish k) _ := .finish
      (here ⟨job, .stmt β s next, held, write, some snapshot⟩) rfl rfl (alone _) ran (fun _ _ => rfl)
    rw [setActive_setActive] at finish
    exact ⟨.ok finished.value, _, _, finish, rfl⟩
  | error e =>
    have failed : Step body _ (.finish k) _ := .fail
      (here ⟨job, .stmt β s next, held, write, some snapshot⟩) rfl rfl (alone _) ran
    rw [setActive_setActive] at failed
    exact ⟨.error e, _, _, failed, rfl⟩

/-- While nobody else holds a lock, a program runs as it does alone. -/
theorem exec_program (body : J → Prog D L ε α) (free : ∀ l, ¬ σ.LockedFor k l) (p : Prog D L ε α) (job : J)
    (held : List L) (write : D → D) :
    ∃ trace, Exec (Step body) (σ.setActive k (some ⟨job, p, held, write, none⟩)) trace
        { σ.setActive k none with
          db := if (p.runAlone (write σ.db)).1.isOk then (p.runAlone (write σ.db)).2 else σ.db } ∧
      ∀ a, (p.runAlone (write σ.db)).1 = .ok a → ∃ t ∈ trace, t.label = .commit k job a ∧ t.pre.db = σ.db ∧
        (∀ other, other ≠ k → t.pre.active other = σ.active other) ∧ t.post.db = (p.runAlone (write σ.db)).2 := by
  have here : ∀ t, (σ.setActive k (some t)).active k = some t := fun t => by simp [active_setActive]
  induction p generalizing held write with
  | ret a =>
    have done : Step body _ (.commit k job a) _ := .commit (here ⟨job, .ret a, held, write, none⟩) rfl
    rw [setActive_setActive] at done
    refine ⟨_, Exec.start.next done, fun b h => ?_⟩
    obtain rfl := Except.ok.inj h
    refine ⟨_, List.mem_singleton.mpr rfl, rfl, rfl, fun other different => ?_, rfl⟩
    simp [active_setActive, different]
  | raise e =>
    have done : Step body _ (.rollback k job e) _ := .rollback (here ⟨job, .raise e, held, write, none⟩) rfl
    rw [setActive_setActive] at done
    exact ⟨_, Exec.start.next done, fun b h => by simp [Prog.runAlone] at h⟩
  | stmt β s next ih =>
    have started : Step body _ (.start k) _ := .start (here ⟨job, .stmt β s next, held, write, none⟩) rfl rfl
    rw [setActive_setActive] at started
    obtain ⟨r, held', write', finish, view⟩ := step_statement body free s next job held write (write σ.db)
    obtain ⟨trace, rest, commits⟩ := ih r held' write'
    rw [Prog.resume_self] at view
    rw [← view] at rest commits
    refine ⟨_, ((Exec.start.next started).next finish).append rest, fun a h => ?_⟩
    obtain ⟨t, ht, found⟩ := commits a h
    exact ⟨t, List.mem_append_right _ ht, found⟩

/-- A transaction that succeeds on its own also does while the others hold no lock. -/
theorem exec_transact_among (body : J → Prog D L ε α) (idle : σ.active k = none) (free : ∀ l, ¬ σ.LockedFor k l)
    (job : J) (ok : ((body job).transact σ.db).1.isOk = true) :
    ∃ trace a, Exec (Step body) σ trace { σ with db := ((body job).transact σ.db).2 } ∧
      ∃ t ∈ trace, t.label = .commit k job a ∧ t.pre.db = σ.db ∧
        (∀ other, other ≠ k → t.pre.active other = σ.active other) ∧ t.post.db = ((body job).transact σ.db).2 := by
  have begun : Step body σ (.begin k job) _ := .begin idle
  obtain ⟨trace, rest, commits⟩ := exec_program body free (body job) job [] id
  simp only [id] at rest commits
  simp only [Prog.transact_eq] at ok ⊢
  obtain ⟨a, answered⟩ := Except.exists_of_isOk ok
  obtain ⟨t, ht, label, before, others, after⟩ := commits a answered
  rw [ok, if_pos rfl, setActive_none idle] at rest
  rw [ok, if_pos rfl]
  exact ⟨_, a, (Exec.start.next begun).append rest, t, List.mem_append_right _ ht, label, before, others, after⟩

omit [DecidableEq κ] in
@[simp]
theorem quiet_db (db : D) : (quiet db : Cluster D L ε α J κ).db = db := rfl

omit [DecidableEq κ] in
theorem not_lockedFor_quiet (db : D) (l : L) : ¬ (quiet db : Cluster D L ε α J κ).LockedFor k l := by
  rintro ⟨other, t', _, found, _⟩
  simp [quiet] at found

/-- A transaction that succeeds on its own is a run of the cluster with its commit. -/
theorem exec_transact (body : J → Prog D L ε α) (k : κ) (db : D) (job : J)
    (ok : ((body job).transact db).1.isOk = true) :
    ∃ trace a, Exec (Step body) (quiet db : Cluster D L ε α J κ) trace (quiet ((body job).transact db).2) ∧
      ∃ t ∈ trace, t.label = .commit k job a ∧ t.pre.db = db ∧ t.post.db = ((body job).transact db).2 := by
  obtain ⟨trace, a, run, t, ht, label, before, _, after⟩ :=
    exec_transact_among (σ := (quiet db : Cluster D L ε α J κ)) body rfl (not_lockedFor_quiet db) job ok
  exact ⟨trace, a, run, t, ht, label, before, after⟩

/-- What is left of a transaction runs to its commit when it is the only one. -/
theorem exec_alone (body : J → Prog D L ε α) (k : κ) {db : D} (p : Prog D L ε α) (job : J) (held : List L)
    (write : D → D) {a : α} (ended : (p.runAlone (write db)).1 = .ok a) :
    ∃ trace, Exec (Step body) ((quiet db : Cluster D L ε α J κ).setActive k (some ⟨job, p, held, write, none⟩)) trace
        (quiet (p.runAlone (write db)).2) ∧
      ∃ t ∈ trace, t.label = .commit k job a ∧ t.pre.db = db ∧ t.post.db = (p.runAlone (write db)).2 := by
  obtain ⟨trace, run, commits⟩ :=
    exec_program (k := k) (σ := (quiet db : Cluster D L ε α J κ)) body (not_lockedFor_quiet db) p job held write
  obtain ⟨t, ht, label, before, _, after⟩ := commits a ended
  rw [setActive_none rfl, quiet_db, ended] at run
  exact ⟨trace, run, t, ht, label, before, after⟩

/-- A transaction that has started its first statement goes on over the data committed meanwhile. -/
theorem exec_suspended (body : J → Prog D L ε α) (k : κ) (db : D) (job : J) :
    ∃ trace t, t.held = [] ∧
      Exec (Step body) (quiet db : Cluster D L ε α J κ) trace ((quiet db).setActive k (some t)) ∧
      ∀ db' a, ((body job).resume db db').1 = .ok a → ∃ trace',
        Exec (Step body) ((quiet db').setActive k (some t)) trace' (quiet ((body job).resume db db').2) ∧
        ∃ c ∈ trace', c.label = .commit k job a ∧ c.pre.db = db' ∧ c.post.db = ((body job).resume db db').2 := by
  have begun : Step body (quiet db : Cluster D L ε α J κ) (.begin k job) _ := .begin rfl
  have here : ∀ db t, ((quiet db : Cluster D L ε α J κ).setActive k (some t)).active k = some t :=
    fun db t => by simp [active_setActive]
  cases shape : body job with
  | ret a =>
    rw [shape] at begun
    exact ⟨_, _, rfl, Exec.start.next begun, fun db' b ended => exec_alone body k (.ret a) job [] id ended⟩
  | raise e =>
    rw [shape] at begun
    exact ⟨_, _, rfl, Exec.start.next begun, fun db' b ended => exec_alone body k (.raise e) job [] id ended⟩
  | stmt β s next =>
    rw [shape] at begun
    have started : Step body _ (.start k) _ := .start (here db ⟨job, .stmt β s next, [], id, none⟩) rfl rfl
    rw [setActive_setActive] at started
    refine ⟨_, _, rfl, (Exec.start.next begun).next started, fun db' a ended => ?_⟩
    obtain ⟨r, held', write', finish, view⟩ := step_statement (k := k) (σ := (quiet db' : Cluster D L ε α J κ)) body
      (not_lockedFor_quiet db') s next job [] id db
    simp only [id, quiet_db] at view
    rw [view] at ended ⊢
    obtain ⟨trace', run, c, hc, found⟩ := exec_alone body k (next r) job held' write' ended
    exact ⟨_, (Exec.start.next finish).append run, c, List.mem_append_right _ hc, found⟩

/-- One transaction starts its first statement, another one runs and commits, then the first one goes on. -/
theorem exec_overtaken (body : J → Prog D L ε α) (k k' : κ) (different : k' ≠ k) (db : D) (job job' : J)
    (ok' : ((body job').transact db).1.isOk = true) {a : α}
    (ended : ((body job).resume db ((body job').transact db).2).1 = .ok a) :
    ∃ trace a', Exec (Step body) (quiet db : Cluster D L ε α J κ) trace
        (quiet ((body job).resume db ((body job').transact db).2).2) ∧
      (∃ t ∈ trace, t.label = .commit k' job' a' ∧ t.pre.db = db ∧ (t.pre.active k).isSome ∧
        t.post.db = ((body job').transact db).2) ∧
      ∃ t ∈ trace, t.label = .commit k job a ∧ t.pre.db = ((body job').transact db).2 ∧
        t.post.db = ((body job).resume db ((body job').transact db).2).2 := by
  obtain ⟨trace, waiting, none_held, suspended, resumed⟩ := exec_suspended body k db job
  have idle : ((quiet db : Cluster D L ε α J κ).setActive k (some waiting)).active k' = none := by
    rw [active_setActive, if_neg different]
    rfl
  have free : ∀ l, ¬ ((quiet db : Cluster D L ε α J κ).setActive k (some waiting)).LockedFor k' l := by
    rintro l ⟨other, t, _, found, hold⟩
    rw [active_setActive] at found
    split at found
    next =>
      obtain rfl := Option.some.inj found
      simp [none_held] at hold
    next => cases found
  obtain ⟨trace', a', overtaking, t, ht, label, before, others, after⟩ := exec_transact_among body idle free job' ok'
  obtain ⟨trace'', run, t', ht', found⟩ := resumed _ a ended
  refine ⟨_, a', suspended.append (overtaking.append run), ⟨t, ?_, label, before, ?_, after⟩, t', ?_, found⟩
  · exact List.mem_append_right _ (List.mem_append_left _ ht)
  · rw [others k different.symm, active_setActive, if_pos rfl]
    rfl
  · exact List.mem_append_right _ (List.mem_append_right _ ht')

end

end Cluster
