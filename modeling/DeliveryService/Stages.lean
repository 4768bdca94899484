import DeliveryService.ReadCommitted

namespace Contract

/-- The contract that promises nothing. -/
def trivial (D L : Type) : Contract D L where
  step _ _ := True
  agree _ _ _ := True
  step_refl _ := True.intro
  step_trans _ _ := True.intro
  agree_refl _ _ := True.intro
  agree_trans _ _ := True.intro

end Contract

namespace Cluster

variable {D L ε α J κ : Type} [DecidableEq κ]

/-- No lock has two holders. -/
def Exclusive (σ : Cluster D L ε α J κ) : Prop :=
  ∀ k k' t t' l, k ≠ k' → σ.active k = some t → σ.active k' = some t' → l ∈ t.held → l ∉ t'.held

/-- What is known of each transaction in progress, and why it stays true: its own statements keep it, and so
does every commit of another transaction that the condition allows. -/
structure Stages (body : J → Prog D L ε α) (Allowed : Cluster D L ε α J κ → Event ε α J κ → Prop)
    (Stage : D → Active D L ε α J → Prop) : Prop where
  begin : ∀ db job, Stage db ⟨job, body job, [], id, none⟩
  start : ∀ {db t β s next}, Stage db t → t.program = .stmt β s next → t.snapshot = none →
    Stage db { t with snapshot := some (t.write db) }
  finish : ∀ {db t β s next snapshot locked finished}, Stage db t → t.program = .stmt β s next →
    t.snapshot = some snapshot → s locked snapshot (t.write db) = .ok finished →
    Stage db ⟨t.job, next (.ok finished.value), finished.locks ++ t.held, finished.write ∘ t.write, none⟩
  fail : ∀ {db t β s next snapshot locked e}, Stage db t → t.program = .stmt β s next →
    t.snapshot = some snapshot → s locked snapshot (t.write db) = .error e →
    Stage db ⟨t.job, next (.error e), t.held, t.write, none⟩
  commit : ∀ {σ k k' t t' a}, k ≠ k' → σ.active k = some t → σ.active k' = some t' → (∀ l ∈ t.held, l ∉ t'.held) →
    t'.program = .ret a → Allowed σ (.commit k' t'.job a) → Stage σ.db t → Stage σ.db t' → Stage (t'.write σ.db) t

section

variable {body : J → Prog D L ε α} {Allowed : Cluster D L ε α J κ → Event ε α J κ → Prop}
  {Stage : D → Active D L ε α J → Prop} {σ σ' : Cluster D L ε α J κ}

theorem wp_trivial (p : Prog D L ε α) (held : List L) (write : D → D) (db : D) :
    Prog.wp (Contract.trivial D L) (fun _ _ _ _ => True) p held write db := by
  induction p generalizing held write db with
  | ret a => exact fun _ _ => True.intro
  | raise e => exact fun _ _ => True.intro
  | stmt β s next ih =>
    intro start now locked _ _ _
    split
    next => exact fun _ => ⟨fun _ _ _ => True.intro, ih _ _ _ _⟩
    next => exact ih _ _ _ _

theorem exclusive_of_mem {db₀ : D} {trace : List (Transition (Cluster D L ε α J κ) (Event ε α J κ))}
    (run : Exec (Step body) (quiet db₀) trace σ) {t : Transition (Cluster D L ε α J κ) (Event ε α J κ)}
    (ht : t ∈ trace) : t.pre.Exclusive := by
  have sound := (run.invariant_transition (I := Sound (Contract.trivial D L) fun _ _ _ _ _ => True)
    (sound_quiet db₀) (fun _ _ _ => Sound.step (fun job db => wp_trivial (body job) [] id db)
      fun _ _ _ _ _ _ => True.intro) ht).1
  exact sound.exclusive

/-- Every transaction in progress is at one of its stages. -/
def Staged (Stage : D → Active D L ε α J → Prop) (σ : Cluster D L ε α J κ) : Prop :=
  ∀ k t, σ.active k = some t → Stage σ.db t

theorem Staged.replace {k : κ} {t : Option (Active D L ε α J)} (staged : Staged Stage σ)
    (here : ∀ t', t = some t' → Stage σ.db t') : Staged Stage (σ.setActive k t) := by
  intro other t' found
  rw [active_setActive] at found
  split at found
  next => exact here t' found
  next => exact staged other t' found

theorem Stages.step {event : Event ε α J κ} (stages : Stages body Allowed Stage) (exclusive : σ.Exclusive)
    (staged : Staged Stage σ) (allowed : Allowed σ event) (taken : Step body σ event σ') : Staged Stage σ' := by
  cases taken with
  | begin => exact staged.replace fun t same => Option.some.inj same ▸ stages.begin _ _
  | start found shape snap =>
    exact staged.replace fun t same => Option.some.inj same ▸ stages.start (staged _ _ found) shape snap
  | finish found shape snap _ ran =>
    exact staged.replace fun t same => Option.some.inj same ▸ stages.finish (staged _ _ found) shape snap ran
  | fail found shape snap _ ran =>
    exact staged.replace fun t same => Option.some.inj same ▸ stages.fail (staged _ _ found) shape snap ran
  | rollback | crash => exact staged.replace fun t same => by cases same
  | @commit k t a found shape =>
    intro other t' found'
    obtain ⟨different, found'⟩ := active_of_removed found'
    exact stages.commit different found' found (fun l hold => exclusive other k t' t l different found' found hold)
      shape allowed (staged other t' found') (staged k t found)

/-- In a run whose events are all allowed, every transaction is at a stage before and after each event. -/
theorem Stages.staged {db₀ : D} {trace : List (Transition (Cluster D L ε α J κ) (Event ε α J κ))}
    (stages : Stages body Allowed Stage) (run : Exec (Step body) (quiet db₀) trace σ)
    (allowed : ∀ t ∈ trace, Allowed t.pre t.label) : ∀ t ∈ trace, Staged Stage t.pre ∧ Staged Stage t.post := by
  refine run.carried (fun _ _ found => ?_) fun t ht staged => ?_
  · cases found
  · exact stages.step (exclusive_of_mem run ht) staged (allowed t ht) (run.step_of_mem ht)

end

/-- What one of two transactions does next. -/
inductive Move (J : Type)
  | begin (job : J)
  | start
  | finish
  | commit

section

variable [DecidableEq L]

/-- The locks of the other transaction. -/
def lockedBy (σ : Cluster D L ε α J Bool) (k : Bool) (l : L) : Bool := (σ.active !k).any fun t => l ∈ t.held

/-- The event and the state that a move of two concurrent transactions leads to, unless it has to wait. -/
def move (body : J → Prog D L ε α) (σ : Cluster D L ε α J Bool) (k : Bool) :
    Move J → Option (Event ε α J Bool × Cluster D L ε α J Bool)
  | .begin job => match σ.active k with
    | none => some (.begin k job, σ.setActive k (some ⟨job, body job, [], id, none⟩))
    | some _ => none
  | .start => match σ.active k with
    | some ⟨job, .stmt β s next, held, write, none⟩ =>
      some (.start k, σ.setActive k (some ⟨job, .stmt β s next, held, write, some (write σ.db)⟩))
    | _ => none
  | .finish => match σ.active k with
    | some ⟨job, .stmt _ s next, held, write, some snapshot⟩ =>
      match s (σ.lockedBy k) snapshot (write σ.db) with
      | .ok finished =>
        if ∀ l ∈ finished.locks, σ.lockedBy k l = false then
          some (.finish k, σ.setActive k (some ⟨job, next (.ok finished.value), finished.locks ++ held,
            finished.write ∘ write, none⟩))
        else none
      | .error e => some (.finish k, σ.setActive k (some ⟨job, next (.error e), held, write, none⟩))
    | _ => none
  | .commit => match σ.active k with
    | some ⟨job, .ret a, _, write, _⟩ => some (.commit k job a, { σ.setActive k none with db := write σ.db })
    | _ => none

theorem lockedBy_iff (σ : Cluster D L ε α J Bool) (k : Bool) (l : L) : σ.lockedBy k l = true ↔ σ.LockedFor k l := by
  simp only [lockedBy, Option.any_eq_true, decide_eq_true_eq, LockedFor]
  constructor
  · rintro ⟨t, found, hold⟩
    exact ⟨!k, t, by simp, found, hold⟩
  · rintro ⟨other, t, different, found, hold⟩
    obtain rfl : other = !k := by cases other <;> cases k <;> simp at different ⊢
    exact ⟨t, found, hold⟩

theorem step_of_move {body : J → Prog D L ε α} {σ σ' : Cluster D L ε α J Bool} {k : Bool} {m : Move J}
    {event : Event ε α J Bool} (h : σ.move body k m = some (event, σ')) : Step body σ event σ' := by
  cases m with
  | begin job =>
    simp only [move] at h
    split at h
    next idle =>
      cases h
      exact .begin idle
    next => cases h
  | start =>
    simp only [move] at h
    split at h
    next found =>
      cases h
      exact .start found rfl rfl
    next => cases h
  | finish =>
    simp only [move] at h
    split at h
    next found =>
      split at h
      next ran =>
        split at h
        next granted =>
          cases h
          exact .finish found rfl rfl (σ.lockedBy_iff k) ran granted
        next => cases h
      next ran =>
        cases h
        exact .fail found rfl rfl (σ.lockedBy_iff k) ran
    next => cases h
  | commit =>
    simp only [move] at h
    split at h
    next found =>
      cases h
      exact .commit found rfl
    next => cases h

/-- The transitions of two transactions that take turns as listed. -/
def moves (body : J → Prog D L ε α) (σ : Cluster D L ε α J Bool) :
    List (Bool × Move J) →
      Option (List (Transition (Cluster D L ε α J Bool) (Event ε α J Bool)) × Cluster D L ε α J Bool)
  | [] => some ([], σ)
  | (k, m) :: rest => do
    let (event, σ') ← σ.move body k m
    let (trace, last) ← moves body σ' rest
    pure (⟨σ, event, σ'⟩ :: trace, last)

theorem exec_of_moves {body : J → Prog D L ε α} {turns : List (Bool × Move J)} {σ last : Cluster D L ε α J Bool}
    {trace : List (Transition (Cluster D L ε α J Bool) (Event ε α J Bool))}
    (h : σ.moves body turns = some (trace, last)) : Exec (Step body) σ trace last := by
  induction turns generalizing σ trace with
  | nil =>
    cases h
    exact .start
  | cons turn rest ih =>
    obtain ⟨⟨event, σ'⟩, taken, h⟩ := Option.bind_eq_some_iff.mp h
    obtain ⟨⟨later, end'⟩, others, h⟩ := Option.bind_eq_some_iff.mp h
    cases h
    exact (Exec.start.next (step_of_move taken)).append (ih others)

end

end Cluster
