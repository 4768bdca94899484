import DeliveryService.Fragment
import DeliveryService.Stages

variable {D L D' L' ε α J κ γ : Type}

namespace Contract

/-- The contract under which every commit also keeps what is observed. -/
def keeping (C : Contract D L) (observe : D → γ) : Contract D L where
  step a b := C.step a b ∧ observe a = observe b
  agree := C.agree
  step_refl db := ⟨C.step_refl db, rfl⟩
  step_trans h h' := ⟨C.step_trans h.1 h'.1, h.2.trans h'.2⟩
  agree_refl := C.agree_refl
  agree_trans := C.agree_trans

theorem keeping_const (C : Contract D L) (c : γ) : C.keeping (fun _ => c) = C := by
  cases C
  simp [keeping]

end Contract

namespace Fragment

variable {part : Fragment D L D' L'} {C : Contract D L} {C' : Contract D' L'}

theorem Respects.keeping (respects : part.Respects C C') (observe : D' → γ) : part.Respects C (C'.keeping observe) :=
  ⟨fun env => respects.env ⟨env.1.1, env.2⟩, fun covers => respects.covers covers⟩

theorem Respects.observing (respects : part.Respects C C') (observe : D → γ) :
    part.Respects (C.keeping observe) (C'.keeping (observe ∘ part.get)) := by
  refine ⟨fun env => ?_, fun covers => respects.covers covers⟩
  have inner := respects.env ⟨env.1.1, env.2⟩
  exact ⟨⟨inner.1, env.1.2⟩, inner.2⟩

end Fragment

/-- Some results of the statements that are left make the program end so. -/
def Prog.MayEnd (wanted : Except ε α → Prop) : Prog D L ε α → Prop
  | ret a => wanted (.ok a)
  | raise e => wanted (.error e)
  | stmt _ s next => ∃ locked snapshot current, (next ((s locked snapshot current).map Done.value)).MayEnd wanted

/-- With what it has read, a transaction may still end so. -/
def Active.MayEnd (wanted : Except ε α → Prop) (t : Active D L ε α J) : Prop :=
  match t.snapshot, t.program with
  | some snapshot, .stmt _ s next =>
    ∃ locked current, (next ((s locked snapshot current).map Done.value)).MayEnd wanted
  | _, program => program.MayEnd wanted

section

variable {wanted : Except ε α → Prop} {t : Active D L ε α J} {β : Type} {s : Statement D L ε β}
  {next : Except ε β → Prog D L ε α}

theorem Active.MayEnd.of_start {snapshot : D} (shape : t.program = .stmt β s next) (idle : t.snapshot = none)
    (may : Active.MayEnd wanted { t with snapshot := some snapshot }) : t.MayEnd wanted := by
  simp only [Active.MayEnd, shape, idle] at may ⊢
  obtain ⟨locked, current, rest⟩ := may
  exact ⟨locked, snapshot, current, rest⟩

theorem Active.MayEnd.of_finish {snapshot current : D} {locked : L → Bool} {held : List L} {write : D → D}
    (shape : t.program = .stmt β s next) (snap : t.snapshot = some snapshot)
    (may : Active.MayEnd wanted ⟨t.job, next ((s locked snapshot current).map Done.value), held, write, none⟩) :
    t.MayEnd wanted := by
  simp only [Active.MayEnd, shape, snap] at may ⊢
  exact ⟨locked, current, may⟩

end

namespace Cluster

/-- The transaction has not started its first statement. -/
def Unstarted (body : J → Prog D L ε α) (t : Active D L ε α J) : Prop := t = ⟨t.job, body t.job, [], id, none⟩

/-- Nothing changes what a transaction in progress observes, once it has started and as long as it may end as wanted. -/
def Keeps (body : J → Prog D L ε α) (observe : J → D → γ) (wanted : J → Except ε α → Prop)
    (t : Transition (Cluster D L ε α J κ) (Event ε α J κ)) : Prop :=
  ∀ k active, t.post.active k = some active → ¬ Unstarted body active → active.MayEnd (wanted active.job) →
    observe active.job t.pre.db = observe active.job t.post.db

/-- A transaction that may end as wanted is on track as long as what it observes is kept. -/
abbrev Relying (C : Contract D L) (observe : J → D → γ) (wanted : J → Except ε α → Prop)
    (spec : J → Prog.Ending D L ε α) (σ : Cluster D L ε α J κ) : Prop :=
  Staged (fun db t => t.MayEnd (wanted t.job) → OnTrack (C.keeping (observe t.job)) spec t db) σ

variable [DecidableEq κ] {C : Contract D L} {observe : J → D → γ} {wanted : J → Except ε α → Prop}
  {spec spec₀ : J → Prog.Ending D L ε α} {body : J → Prog D L ε α} {σ σ' : Cluster D L ε α J κ}

omit [DecidableEq κ] in
theorem Sound.unlocked (sound : Sound C spec₀ σ) {k : κ} {t : Active D L ε α J} (found : σ.active k = some t)
    {locked : L → Bool} (known : ∀ l, locked l = true ↔ σ.LockedFor k l) : ∀ l ∈ t.held, locked l = false := by
  intro l hold
  rw [← Bool.not_eq_true, known l]
  exact sound.not_locked found hold

section

variable (verified : ∀ job db, Prog.wp (C.keeping (observe job)) (spec job) (body job) [] id db)

include verified

omit [DecidableEq κ] in
theorem onTrack_of_unstarted {t : Active D L ε α J} (unstarted : Unstarted body t) (db : D) :
    OnTrack (C.keeping (observe t.job)) spec t db := by
  have same : OnTrack (C.keeping (observe t.job)) spec ⟨t.job, body t.job, [], id, none⟩ db :=
    ⟨fun l _ later => C.agree_refl l later, db, verified t.job db, Contract.env_refl _ _ _, by simp⟩
  rwa [← unstarted] at same

variable (promise : ∀ job a held write db, spec₀ job (.ok a) held write db → C.step db (write db))

include promise

theorem Relying.step {event : Event ε α J κ} (sound : Sound C spec₀ σ) (relying : Relying C observe wanted spec σ)
    (keeps : Keeps body observe wanted ⟨σ, event, σ'⟩) (taken : Step body σ event σ') :
    Relying C observe wanted spec σ' := by
  cases taken with
  | @begin k job _ =>
    have fresh : Unstarted body ⟨job, body job, [], id, none⟩ := rfl
    exact relying.replace fun t same _ => Option.some.inj same ▸ onTrack_of_unstarted verified fresh _
  | @start k t β s next found shape idle =>
    refine relying.replace fun t' same may => ?_
    obtain rfl := Option.some.inj same
    obtain ⟨covers, base, safe, env, _⟩ := relying k t found (may.of_start shape idle)
    refine ⟨covers, σ.db, Prog.wp_env safe env, Contract.env_refl _ _ _, fun snapshot h => ?_⟩
    exact (Option.some.inj h).symm
  | @finish k t β s next snapshot locked finished found shape snap known ran granted =>
    refine relying.replace fun t' same may => ?_
    obtain rfl := Option.some.inj same
    have before : t.MayEnd (wanted t.job) := .of_finish shape snap (by rw [ran]; exact may)
    exact ((relying k t found before).statement shape snap (sound.unlocked found known)).1 _ ran granted
  | @fail k t β s next snapshot locked e found shape snap known ran =>
    refine relying.replace fun t' same may => ?_
    obtain rfl := Option.some.inj same
    have before : t.MayEnd (wanted t.job) := .of_finish shape snap (by rw [ran]; exact may)
    exact ((relying k t found before).statement shape snap (sound.unlocked found known)).2 _ ran
  | rollback | crash => exact relying.replace fun t same => by cases same
  | @commit k t a found shape =>
    intro other t' found' may
    by_cases unstarted : Unstarted body t'
    · exact onTrack_of_unstarted verified unstarted _
    · have kept := keeps other t' found' unstarted may
      obtain ⟨different, found'⟩ := active_of_removed found'
      have track := sound.onTrack k t found
      have promised := promise _ _ _ _ _ (track.ending (r := .ok a) shape)
      obtain ⟨covers, base, safe, env, snap⟩ := relying other t' found' may
      refine ⟨covers, base, safe, env.trans ⟨⟨promised, kept⟩, fun l hold => ?_⟩, snap⟩
      exact track.1 l (sound.exclusive other k t' t l different found' found hold) σ.db

/-- In a run that keeps what such transactions observe, every commit that ends as wanted meets the specification
that relies on it. -/
theorem ending_of_keeps (verified₀ : ∀ job db, Prog.wp C (spec₀ job) (body job) [] id db) {db₀ : D}
    {trace : List (Transition (Cluster D L ε α J κ) (Event ε α J κ))}
    (run : Exec (Step body) (quiet db₀) trace σ) (keeps : ∀ t ∈ trace, Keeps body observe wanted t)
    {t : Transition (Cluster D L ε α J κ) (Event ε α J κ)} (ht : t ∈ trace) {k : κ} {job : J} {a : α}
    (label : t.label = .commit k job a) (ended : wanted job (.ok a)) :
    ∃ held write, spec job (.ok a) held write t.pre.db ∧ t.post.db = write t.pre.db := by
  have sound : ∀ t ∈ trace, Sound C spec₀ t.pre := fun t ht =>
    (run.invariant_transition (sound_quiet db₀) (fun _ _ _ => Sound.step verified₀ promise) ht).1
  have relying := run.carried (P := Relying C observe wanted spec) (fun _ _ found => by cases found)
    fun t ht before => before.step verified promise (sound t ht) (keeps t ht) (run.step_of_mem ht)
  obtain ⟨σ, event, σ'⟩ := t
  obtain rfl : event = .commit k job a := label
  have before : Relying C observe wanted spec σ := (relying _ ht).1
  have step : Step body σ (.commit k job a) σ' := run.step_of_mem ht
  cases step with
  | @commit _ t _ found shape =>
    have may : t.MayEnd (wanted t.job) := by
      rw [Active.MayEnd, shape]
      cases t.snapshot <;> exact ended
    exact ⟨t.held, t.write, (before k t found may).ending (r := .ok a) shape, rfl⟩

end

end Cluster
