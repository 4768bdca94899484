import Mathlib.Logic.Function.Basic
import DeliveryService.Exec
import DeliveryService.Script

/-- An outside service: which answers it may give, and how its own state goes on. -/
structure Service (W Q O : Type) where
  admits : W → Q → O → Prop
  after : W → Q → O → W

/-- A function that answers as the service may, in the states that satisfy `ok`. -/
structure Service.Follows {W Q O : Type} (service : Service W Q O) (answer : Q → W → O × W) (ok : W → Prop) : Prop where
  admitted : ∀ q world, ok world → service.admits world q (answer q world).1
  after : ∀ q world, ok world → service.after world q (answer q world).1 = (answer q world).2
  kept : ∀ q world, ok world → ok (answer q world).2

/-- A transaction in progress; while a statement runs, the snapshot it was started with. -/
structure Session (D L Q O ε α J : Type) where
  job : J
  script : Script D L Q O ε α
  progress : Progress D L Q O := {}
  snapshot : Option D := none

/-- The committed data, the state of the service and the transactions in progress. -/
structure Site (D W L Q O ε α J κ : Type) where
  db : D
  world : W
  active : κ → Option (Session D L Q O ε α J)

/-- What can happen at a site. A transaction ends by its commit, by an exception or by a crash at any point. -/
inductive SiteEvent (D L Q O ε α J κ : Type)
  | begin (k : κ) (job : J)
  | start (k : κ)
  | finish (k : κ)
  | call (k : κ) (q : Q) (o : O)
  | commit (k : κ) (session : Session D L Q O ε α J) (a : α)
  | rollback (k : κ) (session : Session D L Q O ε α J) (e : ε)
  | crash (k : κ) (session : Session D L Q O ε α J)

/-- The job of a transaction that ended by itself, and how. -/
def SiteEvent.answer? {D L Q O ε α J κ : Type} : SiteEvent D L Q O ε α J κ → Option (J × Except ε α)
  | .commit _ session a => some (session.job, .ok a)
  | .rollback _ session e => some (session.job, .error e)
  | _ => none

/-- What an event may do to the committed data when every job ends as specified. -/
def SiteEvent.Meets {D L Q O ε α J κ : Type} {I : Isolation D L} (spec : J → Script.Spec I Q O ε α)
    (event : SiteEvent D L Q O ε α J κ) (db db' : D) : Prop :=
  match event with
  | .commit _ s a => (spec s.job).ending (.ok a) s.progress db ∧ db' = s.progress.write db
  | .rollback _ s e => (spec s.job).ending (.error e) s.progress db ∧ db' = db
  | _ => db' = db

section

variable {D L Q O ε α J κ : Type} {I : Isolation D L} {spec : J → Script.Spec I Q O ε α} {db db' : D}
  {event : SiteEvent D L Q O ε α J κ}

theorem SiteEvent.Meets.answered {job : J} {r : Except ε α} (meets : event.Meets spec db db')
    (answered : event.answer? = some (job, r)) :
    ∃ p, (spec job).ending r p db ∧ db' = if r.isOk then p.write db else db := by
  cases event with
  | begin | start | finish | call | crash => cases answered
  | commit k s a =>
    cases answered
    exact ⟨s.progress, meets⟩
  | rollback k s e =>
    cases answered
    exact ⟨s.progress, meets⟩

theorem SiteEvent.Meets.unanswered (meets : event.Meets spec db db') (silent : event.answer? = none) : db' = db := by
  cases event with
  | begin | start | finish | call | crash => exact meets
  | commit | rollback => cases silent

end

/-- What a sequential machine answers to one job after the other. -/
def sequential {M J β : Type} (next : M → J → β × M) : M → List J → List β × M
  | m, [] => ([], m)
  | m, job :: rest => ((next m job).1 :: (sequential next (next m job).2 rest).1,
      (sequential next (next m job).2 rest).2)

theorem sequential_append {M J β : Type} (next : M → J → β × M) (m : M) (earlier later : List J) :
    sequential next m (earlier ++ later) =
      ((sequential next m earlier).1 ++ (sequential next (sequential next m earlier).2 later).1,
        (sequential next (sequential next m earlier).2 later).2) := by
  induction earlier generalizing m with
  | nil => rfl
  | cons job rest ih => simp only [List.cons_append, sequential, ih]

namespace Site

variable {D W L Q O ε α J κ : Type} [DecidableEq κ]

/-- Another transaction holds the lock. -/
def LockedFor (σ : Site D W L Q O ε α J κ) (k : κ) (l : L) : Prop :=
  ∃ other s, other ≠ k ∧ σ.active other = some s ∧ l ∈ s.progress.held

def setActive (σ : Site D W L Q O ε α J κ) (k : κ) (s : Option (Session D L Q O ε α J)) : Site D W L Q O ε α J κ :=
  { σ with active := Function.update σ.active k s }

/-- Concurrent transactions under read committed isolation, which also call a service. Only a commit changes
the data; what the service has done stays done when the transaction is rolled back or lost. -/
inductive Step (body : J → Script D L Q O ε α) (service : Service W Q O) :
    Site D W L Q O ε α J κ → SiteEvent D L Q O ε α J κ → Site D W L Q O ε α J κ → Prop
  | begin {σ k job} : σ.active k = none → Step body service σ (.begin k job)
      (σ.setActive k (some { job, script := body job }))
  | start {σ k s β stmt next} : σ.active k = some s → s.script = .stmt β stmt next → s.snapshot = none →
      Step body service σ (.start k) (σ.setActive k (some { s with snapshot := some (s.progress.write σ.db) }))
  | finish {σ k s β stmt next snapshot locked finished} : σ.active k = some s → s.script = .stmt β stmt next →
      s.snapshot = some snapshot → (∀ l, locked l = true ↔ σ.LockedFor k l) →
      stmt locked snapshot (s.progress.write σ.db) = .ok finished → (∀ l ∈ finished.locks, locked l = false) →
      Step body service σ (.finish k)
        (σ.setActive k (some ⟨s.job, next finished.value, s.progress.finish snapshot finished, none⟩))
  | fail {σ k s β stmt next snapshot locked e} : σ.active k = some s → s.script = .stmt β stmt next →
      s.snapshot = some snapshot → (∀ l, locked l = true ↔ σ.LockedFor k l) →
      stmt locked snapshot (s.progress.write σ.db) = .error e →
      Step body service σ (.finish k) (σ.setActive k (some ⟨s.job, .raise e, s.progress, none⟩))
  | call {σ k s q next o} : σ.active k = some s → s.script = .call q next → service.admits σ.world q o →
      Step body service σ (.call k q o)
        { σ.setActive k (some ⟨s.job, next o, s.progress.answer q o, none⟩) with
          world := service.after σ.world q o }
  | commit {σ k s a} : σ.active k = some s → s.script = .ret a →
      Step body service σ (.commit k s a) { σ.setActive k none with db := s.progress.write σ.db }
  | rollback {σ k s e} : σ.active k = some s → s.script = .raise e →
      Step body service σ (.rollback k s e) (σ.setActive k none)
  | crash {σ k s} : σ.active k = some s → Step body service σ (.crash k s) (σ.setActive k none)

/-- No transaction in progress. -/
def quiet (db : D) (world : W) : Site D W L Q O ε α J κ := ⟨db, world, fun _ => none⟩

variable {body : J → Script D L Q O ε α} {service : Service W Q O} {σ σ' : Site D W L Q O ε α J κ}
  {event : SiteEvent D L Q O ε α J κ}

theorem active_setActive (σ : Site D W L Q O ε α J κ) (k other : κ) (s : Option (Session D L Q O ε α J)) :
    (σ.setActive k s).active other = if other = k then s else σ.active other := by
  simp [setActive, Function.update_apply]

/-- What holds of a transaction that has just changed and held of all the others holds of all. -/
theorem forall_setActive {P : Session D L Q O ε α J → Prop} {k : κ} {s : Option (Session D L Q O ε α J)}
    (others : ∀ other s', σ.active other = some s' → P s') (here : ∀ s', s = some s' → P s') :
    ∀ other s', (σ.setActive k s).active other = some s' → P s' := by
  intro other s' found
  rw [active_setActive] at found
  split at found
  next => exact here s' found
  next => exact others other s' found

/-- No lock has two holders. -/
def Exclusive (σ : Site D W L Q O ε α J κ) : Prop :=
  ∀ k k' s s' l, k ≠ k' → σ.active k = some s → σ.active k' = some s' → l ∈ s.progress.held → l ∉ s'.progress.held

omit [DecidableEq κ] in
theorem Exclusive.not_locked (exclusive : σ.Exclusive) {k : κ} {s : Session D L Q O ε α J}
    (found : σ.active k = some s) {l : L} (hold : l ∈ s.progress.held) : ¬ σ.LockedFor k l := by
  rintro ⟨other, s', different, found', hold'⟩
  exact exclusive other k s' s l different found' found hold' hold

omit [DecidableEq κ] in
theorem Exclusive.free (exclusive : σ.Exclusive) {k : κ} {s : Session D L Q O ε α J} (found : σ.active k = some s)
    {locked : L → Bool} (known : ∀ l, locked l = true ↔ σ.LockedFor k l) : ∀ l ∈ s.progress.held, locked l = false := by
  intro l hold
  rw [← Bool.not_eq_true, known l]
  exact exclusive.not_locked found hold

theorem Exclusive.replace (exclusive : σ.Exclusive) {k : κ} {s : Option (Session D L Q O ε α J)}
    (free : ∀ s', s = some s' → ∀ l ∈ s'.progress.held, ¬ σ.LockedFor k l) : (σ.setActive k s).Exclusive := by
  intro a b sa sb l different ha hb hold
  rw [active_setActive] at ha hb
  split at ha
  next here =>
    subst here
    rw [if_neg (Ne.symm different)] at hb
    exact fun hold' => free sa ha l hold ⟨b, sb, Ne.symm different, hb, hold'⟩
  next =>
    split at hb
    next here =>
      subst here
      exact fun hold' => free sb hb l hold' ⟨a, sa, different, ha, hold⟩
    next => exact exclusive a b sa sb l different ha hb hold

theorem Exclusive.step (exclusive : σ.Exclusive) (taken : Step body service σ event σ') : σ'.Exclusive := by
  cases taken with
  | begin idle =>
    refine exclusive.replace fun s' same l hold => ?_
    cases same
    simp at hold
  | start found shape snap =>
    refine exclusive.replace fun s' same l hold => ?_
    cases same
    exact exclusive.not_locked found hold
  | @finish k s β stmt next snapshot locked finished found shape snap exact_locks ran granted =>
    refine exclusive.replace fun s' same l hold => ?_
    cases same
    rcases List.mem_append.mp hold with new | old
    · rw [← exact_locks l, Bool.not_eq_true]
      exact granted l new
    · exact exclusive.not_locked found old
  | fail found =>
    refine exclusive.replace fun s' same l hold => ?_
    cases same
    exact exclusive.not_locked found hold
  | @call k s q next o found shape admitted =>
    have kept : (σ.setActive k (some ⟨s.job, next o, s.progress.answer q o, none⟩)).Exclusive := by
      refine exclusive.replace fun s' same l hold => ?_
      cases same
      exact exclusive.not_locked found hold
    exact kept
  | @commit k s a found shape =>
    have kept : (σ.setActive k none).Exclusive := exclusive.replace fun s' same => by cases same
    exact kept
  | rollback found => exact exclusive.replace fun s' same => by cases same
  | crash found => exact exclusive.replace fun s' same => by cases same

section

variable (I : Isolation D L) (spec : J → Script.Spec I Q O ε α)

/-- A transaction in progress still meets the specification of its job. -/
structure OnTrack (s : Session D L Q O ε α J) (db : D) : Prop where
  covers : I.Covers s.progress.held s.progress.write
  meets : ∃ base, Script.wp (spec s.job) s.script s.progress base ∧ I.Later s.progress.held base db ∧
    I.valid base ∧ ∀ snapshot, s.snapshot = some snapshot → snapshot = s.progress.write base

/-- Every transaction is on track, no lock has two holders and the data is valid. -/
structure Sound (σ : Site D W L Q O ε α J κ) : Prop where
  onTrack : ∀ k s, σ.active k = some s → OnTrack I spec s σ.db
  exclusive : σ.Exclusive
  valid : I.valid σ.db

variable {I} {spec}

theorem OnTrack.always {s : Session D L Q O ε α J} {db : D} (track : OnTrack I spec s db) :
    (spec s.job).always s.progress db := by
  obtain ⟨base, safe, later, _, _⟩ := track.meets
  exact Script.always_of_wp (Script.wp_later safe later)

theorem OnTrack.ending {s : Session D L Q O ε α J} {db : D} (track : OnTrack I spec s db) {r : Except ε α}
    (ended : s.script = Script.ofResult r) : (spec s.job).ending r s.progress db := by
  obtain ⟨base, safe, later, _, _⟩ := track.meets
  rw [ended] at safe
  cases r with
  | ok a => exact safe.2 db later
  | error e => exact safe.2 db later

theorem OnTrack.call {s : Session D L Q O ε α J} {db : D} {q : Q} {next : O → Script D L Q O ε α}
    (track : OnTrack I spec s db) (valid : I.valid db) (shape : s.script = .call q next) (o : O) :
    OnTrack I spec ⟨s.job, next o, s.progress.answer q o, none⟩ db := by
  obtain ⟨covers, base, safe, later, _, _⟩ := track
  rw [shape] at safe
  exact ⟨covers, db, safe.2 o db later, I.later_refl valid, valid, by simp⟩

theorem OnTrack.statement {s : Session D L Q O ε α J} {db : D} {β : Type} {stmt : Statement D L ε β}
    {next : β → Script D L Q O ε α} {snapshot : D} {locked : L → Bool} (track : OnTrack I spec s db)
    (valid : I.valid db) (shape : s.script = .stmt β stmt next) (snap : s.snapshot = some snapshot)
    (free : ∀ l ∈ s.progress.held, locked l = false) :
    (∀ finished, stmt locked snapshot (s.progress.write db) = .ok finished →
      (∀ l ∈ finished.locks, locked l = false) →
      OnTrack I spec ⟨s.job, next finished.value, s.progress.finish snapshot finished, none⟩ db) ∧
    ∀ e, stmt locked snapshot (s.progress.write db) = .error e →
      OnTrack I spec ⟨s.job, .raise e, s.progress, none⟩ db := by
  have known := track.always
  obtain ⟨covers, base, safe, later, before, taken⟩ := track
  obtain rfl := taken snapshot snap
  rw [shape] at safe
  have done := safe.2 base db locked (I.later_refl before) later free
  constructor
  · intro finished ran granted
    simp only [ran] at done
    obtain ⟨covered, rest⟩ := done granted
    refine ⟨fun l outside now => ?_, db, rest, I.later_refl valid, valid, by simp⟩
    have first := covers l (fun h => outside (List.mem_append_right _ h)) now
    exact I.agree_trans first (covered l outside (s.progress.write now))
  · intro e ran
    simp only [ran] at done
    exact ⟨covers, db, ⟨known, done⟩, I.later_refl valid, valid, by simp⟩

theorem OnTrack.start {s : Session D L Q O ε α J} {db : D} (track : OnTrack I spec s db) (valid : I.valid db) :
    OnTrack I spec { s with snapshot := some (s.progress.write db) } db := by
  obtain ⟨covers, base, safe, later, _, _⟩ := track
  refine ⟨covers, db, Script.wp_later safe later, I.later_refl valid, valid, fun snapshot same => ?_⟩
  exact (Option.some.inj same).symm

/-- A commit of another transaction, which holds none of its locks, leaves a transaction on track. -/
theorem OnTrack.commit {s s' : Session D L Q O ε α J} {db : D} (track : OnTrack I spec s db)
    (other : OnTrack I spec s' db) (apart : ∀ l ∈ s.progress.held, l ∉ s'.progress.held)
    (promised : I.step db (s'.progress.write db)) (valid : I.valid (s'.progress.write db)) :
    OnTrack I spec s (s'.progress.write db) := by
  obtain ⟨covers, base, safe, later, before, taken⟩ := track
  refine ⟨covers, base, safe, later.trans ⟨⟨promised, fun l hold => ?_⟩, valid⟩, before, taken⟩
  exact other.covers l (apart l hold) db

theorem Sound.meets (sound : Sound I spec σ) (taken : Step body service σ event σ') :
    event.Meets spec σ.db σ'.db := by
  cases taken with
  | begin | start | finish | fail | call | crash => rfl
  | @commit k s a found shape => exact ⟨(sound.onTrack k s found).ending (r := .ok a) shape, rfl⟩
  | @rollback k s e found shape => exact ⟨(sound.onTrack k s found).ending (r := .error e) shape, rfl⟩

variable (verified : ∀ job db, I.valid db → Script.wp (spec job) (body job) {} db)
  (promise : ∀ job a p db, I.valid db → (spec job).ending (.ok a) p db → I.step db (p.write db) ∧ I.valid (p.write db))

include verified promise

theorem Sound.step (sound : Sound I spec σ) (taken : Step body service σ event σ') : Sound I spec σ' := by
  have exclusive := sound.exclusive.step taken
  cases taken with
  | @begin k job idle =>
    refine ⟨forall_setActive sound.onTrack fun s' same => ?_, exclusive, sound.valid⟩
    cases same
    exact ⟨fun l _ db => I.agree_refl l db, σ.db, verified job σ.db sound.valid, I.later_refl sound.valid, sound.valid,
      by simp⟩
  | start found shape snap =>
    refine ⟨forall_setActive sound.onTrack fun s' same => ?_, exclusive, sound.valid⟩
    cases same
    exact (sound.onTrack _ _ found).start sound.valid
  | @finish k s β stmt next snapshot locked finished found shape snap exact_locks ran granted =>
    refine ⟨forall_setActive sound.onTrack fun s' same => ?_, exclusive, sound.valid⟩
    cases same
    have free := sound.exclusive.free found exact_locks
    exact ((sound.onTrack k s found).statement sound.valid shape snap free).1 finished ran granted
  | @fail k s β stmt next snapshot locked e found shape snap exact_locks ran =>
    refine ⟨forall_setActive sound.onTrack fun s' same => ?_, exclusive, sound.valid⟩
    cases same
    have free := sound.exclusive.free found exact_locks
    exact ((sound.onTrack k s found).statement sound.valid shape snap free).2 e ran
  | @call k s q next o found shape admitted =>
    refine ⟨forall_setActive (P := fun s => OnTrack I spec s σ.db) sound.onTrack fun s' same => ?_, exclusive,
      sound.valid⟩
    cases same
    exact (sound.onTrack k s found).call sound.valid shape o
  | @commit k s a found shape =>
    have track := sound.onTrack k s found
    obtain ⟨promised, valid⟩ := promise _ _ _ _ sound.valid (track.ending (r := .ok a) shape)
    refine ⟨fun other s' found' => ?_, exclusive, valid⟩
    change (σ.setActive k none).active other = some s' at found'
    rw [active_setActive] at found'
    split at found'
    next => cases found'
    next different =>
      refine (sound.onTrack other s' found').commit track (fun l hold => ?_) promised valid
      exact sound.exclusive other k s' s l different found' found hold
  | rollback found =>
    exact ⟨forall_setActive sound.onTrack fun s' same => (by cases same), exclusive, sound.valid⟩
  | crash found =>
    exact ⟨forall_setActive sound.onTrack fun s' same => (by cases same), exclusive, sound.valid⟩

omit [DecidableEq κ] verified promise in
theorem sound_quiet {db : D} (valid : I.valid db) (world : W) :
    Sound I spec (quiet db world : Site D W L Q O ε α J κ) :=
  ⟨fun _ _ found => (by cases found), fun _ _ _ _ _ _ found => (by cases found), valid⟩

theorem sound_of_mem {db₀ : D} {world₀ : W} (valid : I.valid db₀)
    {trace : List (Transition (Site D W L Q O ε α J κ) (SiteEvent D L Q O ε α J κ))}
    (run : Exec (Step body service) (quiet db₀ world₀) trace σ)
    {t : Transition (Site D W L Q O ε α J κ) (SiteEvent D L Q O ε α J κ)} (ht : t ∈ trace) :
    Sound I spec t.pre ∧ Step body service t.pre t.label t.post ∧ Sound I spec t.post :=
  run.invariant_transition (sound_quiet valid world₀) (fun _ _ _ => Sound.step verified promise) ht

omit [DecidableEq κ] verified in
theorem step_of_meets {db db' : D} (valid : I.valid db) (meets : event.Meets spec db db') :
    I.step db db' := by
  cases event with
  | begin | start | finish | call | crash => exact meets ▸ I.step_refl db
  | rollback => exact meets.2 ▸ I.step_refl db
  | commit k s a =>
    obtain ⟨ended, rfl⟩ := meets
    exact (promise _ _ _ _ valid ended).1

/-- The first statement of the transaction works, or has worked, on nothing older than the given data. -/
structure Recent (I : Isolation D L) (db : D) (s : Session D L Q O ε α J) : Prop where
  untouched : s.progress.seen = [] → s.progress.write = id
  running : s.progress.seen = [] → ∀ snapshot, s.snapshot = some snapshot → I.step db snapshot
  first : ∀ snapshot, s.progress.seen.head? = some snapshot → I.step db snapshot

omit [DecidableEq κ] verified promise in
theorem Recent.finish {db snapshot : D} {β : Type} {s : Session D L Q O ε α J} (recent : Recent I db s)
    (taken : s.snapshot = some snapshot) (finished : Done D L β) (script : Script D L Q O ε α) :
    Recent I db ⟨s.job, script, s.progress.finish snapshot finished, none⟩ := by
  refine ⟨fun none_seen => ?_, fun none_seen => ?_, fun first head => ?_⟩
  · simp [Progress.finish] at none_seen
  · simp [Progress.finish] at none_seen
  · cases seen : s.progress.seen with
    | nil =>
      simp only [Progress.finish, seen, List.nil_append, List.head?_cons, Option.some.injEq] at head
      exact head ▸ recent.running seen snapshot taken
    | cons oldest rest =>
      simp only [Progress.finish, seen, List.cons_append, List.head?_cons, Option.some.injEq] at head
      exact recent.first first (by rw [seen, head]; rfl)

omit verified promise in
theorem recent_step {db : D} {k : κ} (reached : I.step db σ.db)
    (recent : ∀ s, σ.active k = some s → Recent I db s) (taken : Step body service σ event σ') :
    ∀ s, σ'.active k = some s → Recent I db s := by
  -- a step of another transaction leaves this one as it is
  have frame : ∀ {k' : κ} {changed : Option (Session D L Q O ε α J)},
      (∀ s, changed = some s → k = k' → Recent I db s) →
      ∀ s, (σ.setActive k' changed).active k = some s → Recent I db s := by
    intro k' changed mine s found
    rw [active_setActive] at found
    split at found
    next same => exact mine s found same
    next => exact recent s found
  cases taken with
  | begin =>
    refine frame fun s same _ => ?_
    cases same
    exact ⟨fun _ => rfl, fun _ _ none_taken => (by cases none_taken), fun _ none_seen => (by cases none_seen)⟩
  | start found shape snap =>
    refine frame fun s same mine => ?_
    cases same
    subst mine
    have before := recent _ found
    refine ⟨before.untouched, fun none_seen snapshot taken => ?_, before.first⟩
    cases taken
    rw [before.untouched none_seen]
    exact reached
  | finish found shape snap =>
    refine frame fun s same mine => ?_
    cases same
    subst mine
    exact (recent _ found).finish snap _ _
  | fail found =>
    refine frame fun s same mine => ?_
    cases same
    subst mine
    have before := recent _ found
    exact ⟨before.untouched, fun _ _ none_taken => (by cases none_taken), before.first⟩
  | call found =>
    refine frame fun s same mine => ?_
    cases same
    subst mine
    have before := recent _ found
    exact ⟨before.untouched, fun _ _ none_taken => (by cases none_taken), before.first⟩
  | commit | rollback | crash =>
    refine frame fun s same => ?_
    cases same

/-- A transaction that begins after a moment works on nothing older than the data of that moment. -/
theorem recent_of_mem {σ₁ : Site D W L Q O ε α J κ} (sound : Sound I spec σ₁)
    {trace : List (Transition (Site D W L Q O ε α J κ) (SiteEvent D L Q O ε α J κ))}
    (run : Exec (Step body service) σ₁ trace σ) {k : κ} (idle : σ₁.active k = none)
    {t : Transition (Site D W L Q O ε α J κ) (SiteEvent D L Q O ε α J κ)} (ht : t ∈ trace)
    {s : Session D L Q O ε α J} (found : t.pre.active k = some s) : Recent I σ₁.db s := by
  have all := run.invariant_transition
    (I := fun σ => Sound I spec σ ∧ I.step σ₁.db σ.db ∧ ∀ s, σ.active k = some s → Recent I σ₁.db s)
    ⟨sound, I.step_refl _, fun s active => by rw [idle] at active; cases active⟩
    (fun σ event σ' known taken => ?_) ht
  · exact all.1.2.2 s found
  · obtain ⟨before, reached, recent⟩ := known
    refine ⟨before.step verified promise taken, ?_, recent_step reached recent taken⟩
    exact I.step_trans reached (step_of_meets promise before.valid (before.meets taken))

end

/-- The answers of a run, oldest first. -/
def answers (trace : List (Transition (Site D W L Q O ε α J κ) (SiteEvent D L Q O ε α J κ))) : List (J × Except ε α) :=
  trace.filterMap fun t => t.label.answer?

section

variable {I : Isolation D L} {spec : J → Script.Spec I Q O ε α} {M : Type} {next : M → J → Except ε α × M}
  {R : D → M → Prop}
  (simulated : ∀ job db m r p, I.valid db → R db m → (spec job).ending r p db →
    (next m job).1 = r ∧ R (if r.isOk then p.write db else db) (next m job).2)

include simulated

/-- If a sequential machine follows the specification of every job, the transactions of a run answer what the
machine answers when it takes them in the order of their ends. -/
theorem linearized (verified : ∀ job db, I.valid db → Script.wp (spec job) (body job) {} db)
    (promise : ∀ job a p db, I.valid db → (spec job).ending (.ok a) p db →
      I.step db (p.write db) ∧ I.valid (p.write db))
    {db₀ : D} {world₀ : W} {m₀ : M} (valid : I.valid db₀) (base : R db₀ m₀)
    {trace : List (Transition (Site D W L Q O ε α J κ) (SiteEvent D L Q O ε α J κ))}
    (run : Exec (Step body service) (quiet db₀ world₀) trace σ) :
    (sequential next m₀ ((answers trace).map Prod.fst)).1 = (answers trace).map Prod.snd ∧
      R σ.db (sequential next m₀ ((answers trace).map Prod.fst)).2 := by
  induction run with
  | start => exact ⟨rfl, base⟩
  | @next trace σ label σ' previous taken ih =>
    obtain ⟨same, related⟩ := ih
    have sound := previous.invariant (sound_quiet valid world₀) (fun _ _ _ => Sound.step verified promise)
    have meets := sound.meets taken
    have more : answers (trace ++ [⟨σ, label, σ'⟩]) = answers trace ++ label.answer?.toList := by
      simp only [answers, List.filterMap_append, List.filterMap_cons, List.filterMap_nil]
      cases label.answer? <;> rfl
    rw [more]
    cases answered : label.answer? with
    | none =>
      rw [meets.unanswered answered]
      simpa using ⟨same, related⟩
    | some answer =>
      obtain ⟨p, ended, after⟩ := meets.answered answered
      obtain ⟨replied, related'⟩ := simulated _ _ _ _ _ sound.valid related ended
      rw [after]
      simp only [Option.toList_some, List.map_append, List.map_cons, List.map_nil, sequential_append, sequential, same,
        replied]
      exact ⟨trivial, related'⟩

theorem sequential_transact (answer : Q → W → O × W)
    (verified : ∀ job db, I.valid db → Script.wp (spec job) (body job) {} db)
    (promise : ∀ job a p db, I.valid db → (spec job).ending (.ok a) p db →
      I.step db (p.write db) ∧ I.valid (p.write db))
    {db : D} {m : M} (world : W) (valid : I.valid db) (base : R db m) (jobs : List J) :
    (sequential (fun (s : D × W) job => (body job).transact answer s.1 s.2) (db, world) jobs).1 =
      (sequential next m jobs).1 := by
  induction jobs generalizing db world m with
  | nil => rfl
  | cons job rest ih =>
    obtain ⟨p, ended, view⟩ := Script.wp_transact answer valid (verified job db valid) world
    rcases ran : (body job).transact answer db world with ⟨r, db', world'⟩
    rw [ran] at ended view
    obtain rfl : db' = if r.isOk then p.write db else db := view
    obtain ⟨answered, after⟩ := simulated job db m r p valid base ended
    have valid' : I.valid (if r.isOk then p.write db else db) := by
      cases r with
      | error e => exact valid
      | ok a => exact (promise job a p db valid ended).2
    simp only [sequential, ran, answered]
    rw [ih world' valid' after]

end

section

variable {answer : Q → W → O × W}

theorem not_lockedFor_alone {k : κ} {db : D} {world : W} (s : Session D L Q O ε α J) (l : L) :
    ¬ ((quiet db world : Site D W L Q O ε α J κ).setActive k (some s)).LockedFor k l := by
  rintro ⟨other, s', different, found, _⟩
  rw [active_setActive, if_neg different] at found
  cases found

theorem active_setActive_self (k : κ) (σ : Site D W L Q O ε α J κ) (s : Option (Session D L Q O ε α J)) :
    (σ.setActive k s).active k = s := by
  simp [active_setActive]

theorem setActive_setActive (k : κ) (σ : Site D W L Q O ε α J κ) (s s' : Option (Session D L Q O ε α J)) :
    (σ.setActive k s).setActive k s' = σ.setActive k s' := by
  simp [setActive]

theorem setActive_quiet_none (k : κ) (db : D) (world : W) :
    (quiet db world : Site D W L Q O ε α J κ).setActive k none = quiet db world := by
  simp [setActive, quiet]

/-- The last step of a transaction that raises, with nobody else at work. -/
theorem step_rollback_alone (service : Service W Q O) (k : κ) (db : D) (world : W) (body : J → Script D L Q O ε α)
    (s : Session D L Q O ε α J) {e : ε} (raises : s.script = .raise e) :
    Step body service ((quiet db world : Site D W L Q O ε α J κ).setActive k (some s)) (.rollback k s e)
      (quiet db world) := by
  have done : Step body service _ (.rollback k s e) _ :=
    .rollback (active_setActive_self k (quiet db world) (some s)) raises
  rwa [setActive_setActive, setActive_quiet_none] at done

/-- A transaction that nobody disturbs goes on as it does alone and commits unless it raises. -/
theorem exec_script (k : κ) (db : D) (body : J → Script D L Q O ε α) {ok : W → Prop}
    (follows : service.Follows answer ok) (script : Script D L Q O ε α) (job : J) (p : Progress D L Q O) {world : W}
    (start : ok world) :
    ∃ trace, Exec (Step body service)
      ((quiet db world : Site D W L Q O ε α J κ).setActive k (some { job, script, progress := p })) trace
      (quiet (if (script.runAlone answer (p.write db) world).1.isOk then (script.runAlone answer (p.write db) world).2.1
        else db) (script.runAlone answer (p.write db) world).2.2) ∧
      ∀ a, (script.runAlone answer (p.write db) world).1 = .ok a →
        ∃ t ∈ trace, ∃ session, session.job = job ∧ t.label = .commit k session a := by
  induction script generalizing p world with
  | ret a =>
    have done : Step body service _ (.commit k _ a) _ :=
      .commit (active_setActive_self k (quiet db world) (some { job, script := .ret a, progress := p })) rfl
    rw [setActive_setActive, setActive_quiet_none] at done
    refine ⟨_, Exec.start.next done, fun b h => ?_⟩
    cases h
    exact ⟨_, List.mem_singleton.mpr rfl, _, rfl, rfl⟩
  | raise e =>
    have done := step_rollback_alone service k db world body { job, script := .raise e, progress := p } rfl
    exact ⟨_, Exec.start.next done, fun b h => by simp [Script.runAlone] at h⟩
  | stmt β s next ih =>
    have started : Step body service _ (.start k) _ :=
      .start (active_setActive_self k (quiet db world) (some { job, script := .stmt β s next, progress := p })) rfl rfl
    rw [setActive_setActive] at started
    have alone : ∀ s l, (fun _ : L => false) l = true ↔
        ((quiet db world : Site D W L Q O ε α J κ).setActive k (some s)).LockedFor k l :=
      fun s l => by simpa using not_lockedFor_alone s l
    simp only [Script.runAlone]
    cases ran : s (fun _ => false) (p.write db) (p.write db) with
    | ok finished =>
      have finish : Step body service _ (.finish k) _ := .finish
        (active_setActive_self k (quiet db world) (some ⟨job, .stmt β s next, p, some (p.write db)⟩)) rfl rfl (alone _)
        ran (fun _ _ => rfl)
      rw [setActive_setActive] at finish
      obtain ⟨trace, rest, commits⟩ := ih finished.value (p.finish (p.write db) finished) start
      refine ⟨_, ((Exec.start.next started).next finish).append rest, fun a h => ?_⟩
      obtain ⟨t, ht, found⟩ := commits a h
      exact ⟨t, List.mem_append_right _ ht, found⟩
    | error e =>
      have failed : Step body service _ (.finish k) _ := .fail
        (active_setActive_self k (quiet db world) (some ⟨job, .stmt β s next, p, some (p.write db)⟩)) rfl rfl (alone _)
        ran
      rw [setActive_setActive] at failed
      have done := step_rollback_alone service k db world body ⟨job, .raise e, p, none⟩ rfl
      exact ⟨_, ((Exec.start.next started).next failed).next done, fun b h => by simp at h⟩
  | call q rest ih =>
    have called : Step body service
        ((quiet db world).setActive k (some { job, script := .call q rest, progress := p }))
        (.call k q (answer q world).1)
        ((quiet db (answer q world).2).setActive k
          (some ⟨job, rest (answer q world).1, p.answer q (answer q world).1, none⟩)) := by
      have taken : Step body service _ (.call k q _) _ :=
        .call (active_setActive_self k (quiet db world) (some { job, script := .call q rest, progress := p })) rfl
          (follows.admitted q world start)
      rw [setActive_setActive] at taken
      rw [← follows.after q world start]
      exact taken
    simp only [Script.runAlone]
    obtain ⟨trace, others, commits⟩ := ih (answer q world).1 (p.answer q (answer q world).1)
      (follows.kept q world start)
    refine ⟨_, (Exec.start.next called).append others, fun a h => ?_⟩
    obtain ⟨t, ht, found⟩ := commits a h
    exact ⟨t, List.mem_append_right _ ht, found⟩

/-- A transaction on its own is a run of the site; when it succeeds, its commit is in the run. -/
theorem exec_transact (body : J → Script D L Q O ε α) {ok : W → Prop} (follows : service.Follows answer ok) (k : κ)
    (job : J) (db : D) {world : W} (start : ok world) :
    ∃ trace, Exec (Step body service) (quiet db world : Site D W L Q O ε α J κ) trace
      (quiet ((body job).transact answer db world).2.1 ((body job).transact answer db world).2.2) ∧
      ∀ a, ((body job).transact answer db world).1 = .ok a →
        ∃ t ∈ trace, ∃ session, session.job = job ∧ t.label = .commit k session a := by
  have begun : Step body service (quiet db world : Site D W L Q O ε α J κ) (.begin k job) _ := .begin rfl
  obtain ⟨trace, rest, commits⟩ := exec_script k db body follows (body job) job {} start
  rw [Script.transact_eq]
  exact ⟨_, (Exec.start.next begun).append rest, fun a h => (commits a h).imp fun t found =>
    ⟨List.mem_append_right _ found.1, found.2⟩⟩

end

end Site
