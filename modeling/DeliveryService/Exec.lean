import Mathlib.Data.List.Induction

universe u v

/-- One step of a run: the state before it, its label and the state after it. -/
structure Transition (σ : Type u) (ℓ : Type v) where
  pre : σ
  label : ℓ
  post : σ

/-- Finite runs of a labelled step relation with the transitions they take, oldest first. -/
inductive Exec {σ : Type u} {ℓ : Type v} (Step : σ → ℓ → σ → Prop) (initial : σ) :
    List (Transition σ ℓ) → σ → Prop
  | start : Exec Step initial [] initial
  | next {trace s l s'} : Exec Step initial trace s → Step s l s' →
      Exec Step initial (trace ++ [⟨s, l, s'⟩]) s'

namespace Exec

variable {σ : Type u} {ℓ : Type v} {Step : σ → ℓ → σ → Prop} {initial s : σ}
  {trace : List (Transition σ ℓ)}

theorem invariant {I : σ → Prop} (run : Exec Step initial trace s) (base : I initial)
    (step : ∀ s l s', I s → Step s l s' → I s') : I s := by
  induction run with
  | start => exact base
  | next _ taken ih => exact step _ _ _ ih taken

/-- What the steps that meet a condition keep holds after a run whose steps all meet it. -/
theorem invariant_while {I : σ → Prop} {C : σ → ℓ → Prop} (run : Exec Step initial trace s) (base : I initial)
    (step : ∀ s l s', I s → Step s l s' → C s l → I s') (meets : ∀ t ∈ trace, C t.pre t.label) : I s := by
  induction run with
  | start => exact base
  | @next trace s l s' _ taken ih =>
    have before : I s := ih fun t ht => meets t (List.mem_append_left _ ht)
    exact step s l s' before taken (meets ⟨s, l, s'⟩ (by simp))

/-- Every transition of a run is a step between two states that satisfy the invariant. -/
theorem invariant_transition {I : σ → Prop} (run : Exec Step initial trace s) (base : I initial)
    (step : ∀ s l s', I s → Step s l s' → I s') {t : Transition σ ℓ} (ht : t ∈ trace) :
    I t.pre ∧ Step t.pre t.label t.post ∧ I t.post := by
  induction run with
  | start => simp at ht
  | next previous taken ih =>
    rcases List.mem_append.mp ht with old | last
    · exact ih old
    · obtain rfl := List.mem_singleton.mp last
      have before := previous.invariant base step
      exact ⟨before, taken, step _ _ _ before taken⟩

theorem step_of_mem (run : Exec Step initial trace s) {t : Transition σ ℓ} (ht : t ∈ trace) :
    Step t.pre t.label t.post :=
  (run.invariant_transition (I := fun _ => True) trivial (fun _ _ _ _ _ => trivial) ht).2.1

theorem final_of_posts {P : σ → Prop} (run : Exec Step initial trace s) (base : P initial)
    (posts : ∀ t ∈ trace, P t.post) : P s := by
  cases run with
  | start => exact base
  | @next trace before l _ _ _ => exact posts ⟨before, l, s⟩ (by simp)

/-- If a step from a good state is good exactly when it meets a condition, then a run stays good
exactly when all of its steps meet the condition. -/
theorem good_iff_steps (I Good : σ → Prop) (Meets : σ → ℓ → Prop)
    (run : Exec Step initial trace s) (base : I initial) (good : Good initial)
    (step : ∀ s l s', I s → Step s l s' → I s')
    (exact_step : ∀ s l s', I s → Good s → Step s l s' → (Good s' ↔ Meets s l)) :
    (∀ t ∈ trace, Good t.post) ↔ ∀ t ∈ trace, Meets t.pre t.label := by
  induction run with
  | start => simp
  | @next trace s l s' previous taken ih =>
    have hI := previous.invariant base step
    simp only [List.mem_append, List.mem_singleton, or_imp, forall_and, forall_eq, ← ih]
    constructor
    · rintro ⟨old, last⟩
      exact ⟨old, (exact_step s l s' hI (previous.final_of_posts good old) taken).mp last⟩
    · rintro ⟨old, last⟩
      exact ⟨old, (exact_step s l s' hI (previous.final_of_posts good old) taken).mpr last⟩

/-- If from a state in a relation a step is good exactly when it meets a condition, and a step that meets
the condition stays in the relation, then the steps of a run are good exactly when they all meet it. -/
theorem good_iff_meets (Sim : σ → Prop) (Good : Transition σ ℓ → Prop) (Meets : σ → ℓ → Prop)
    (run : Exec Step initial trace s) (base : Sim initial)
    (exact_step : ∀ s l s', Sim s → Step s l s' → (Good ⟨s, l, s'⟩ ↔ Meets s l))
    (kept : ∀ s l s', Sim s → Step s l s' → Meets s l → Sim s') :
    (∀ t ∈ trace, Good t) ↔ ∀ t ∈ trace, Meets t.pre t.label := by
  have both : ((∀ t ∈ trace, Good t) ↔ ∀ t ∈ trace, Meets t.pre t.label) ∧
      ((∀ t ∈ trace, Meets t.pre t.label) → Sim s) := by
    induction run with
    | start => simp [base]
    | @next trace s l s' _ taken ih =>
      obtain ⟨same, sim⟩ := ih
      simp only [List.mem_append, List.mem_singleton, or_imp, forall_and, forall_eq, same]
      refine ⟨and_congr_right fun met => exact_step s l s' (sim met) taken, ?_⟩
      exact fun met => kept s l s' (sim met.1) taken met.2
  exact both.1

/-- The transitions of a program that takes its labels one after the other. -/
def traceOf (next : σ → ℓ → σ) (s : σ) : List ℓ → List (Transition σ ℓ)
  | [] => []
  | l :: rest => ⟨s, l, next s l⟩ :: traceOf next (next s l) rest

theorem traceOf_append (next : σ → ℓ → σ) (s : σ) (labels later : List ℓ) :
    traceOf next s (labels ++ later) = traceOf next s labels ++ traceOf next (labels.foldl next s) later := by
  induction labels generalizing s with
  | nil => rfl
  | cons l rest ih => simp [traceOf, ih]

theorem length_traceOf (next : σ → ℓ → σ) (s : σ) (labels : List ℓ) :
    (traceOf next s labels).length = labels.length := by
  induction labels generalizing s with
  | nil => rfl
  | cons l rest ih => simp [traceOf, ih]

theorem append {middle : σ} {later : List (Transition σ ℓ)} (run : Exec Step initial trace middle)
    (rest : Exec Step middle later s) : Exec Step initial (trace ++ later) s := by
  induction rest with
  | start => simpa using run
  | next _ taken ih => simpa using ih.next taken

theorem ofLabels {next : σ → ℓ → σ} (s : σ) (labels : List ℓ) (step : ∀ s, ∀ l ∈ labels, Step s l (next s l)) :
    Exec Step s (traceOf next s labels) (labels.foldl next s) := by
  induction labels generalizing s with
  | nil => exact .start
  | cons l rest ih =>
    have others := ih (next s l) fun s l' mem => step s l' (List.mem_cons_of_mem _ mem)
    exact (Exec.start.next (step s l (List.mem_cons_self ..))).append others

theorem ofGuard (guard : σ → ℓ → Prop) (next : σ → ℓ → σ) (s : σ) (labels : List ℓ)
    (enabled : ∀ t ∈ traceOf next s labels, guard t.pre t.label) :
    Exec (fun s l s' => guard s l ∧ s' = next s l) s (traceOf next s labels) (labels.foldl next s) := by
  induction labels generalizing s with
  | nil => exact .start
  | cons l rest ih =>
    have first : guard s l := enabled ⟨s, l, next s l⟩ (List.mem_cons_self ..)
    have others := ih (next s l) fun t mem => enabled t (List.mem_cons_of_mem _ mem)
    exact (Exec.start.next ⟨first, rfl⟩).append others

/-- A run can be cut at any of its transitions. -/
theorem split {earlier later : List (Transition σ ℓ)} {t : Transition σ ℓ}
    (run : Exec Step initial (earlier ++ t :: later) s) :
    Exec Step initial earlier t.pre ∧ Step t.pre t.label t.post ∧ Exec Step t.post later s := by
  induction later using List.reverseRecOn generalizing s with
  | nil =>
    generalize he : earlier ++ [t] = whole at run
    cases run with
    | start => simp at he
    | next previous taken =>
      obtain ⟨rfl, last⟩ := List.append_inj' he rfl
      obtain rfl := List.singleton_inj.mp last
      exact ⟨previous, taken, .start⟩
  | append_singleton later last ih =>
    generalize he : earlier ++ t :: (later ++ [last]) = whole at run
    cases run with
    | start => simp at he
    | next previous taken =>
      rw [show earlier ++ t :: (later ++ [last]) = (earlier ++ t :: later) ++ [last] by simp] at he
      obtain ⟨rfl, same⟩ := List.append_inj' he rfl
      obtain rfl := List.singleton_inj.mp same
      obtain ⟨before, step, after⟩ := ih previous
      exact ⟨before, step, after.next taken⟩

/-- What every transition of a run carries over holds before and after each of them. -/
theorem carried {P : σ → Prop} (run : Exec Step initial trace s) (base : P initial)
    (each : ∀ t ∈ trace, P t.pre → P t.post) : ∀ t ∈ trace, P t.pre ∧ P t.post := by
  induction run with
  | start => simp
  | next previous taken ih =>
    have old := ih fun t ht => each t (List.mem_append_left _ ht)
    intro t ht
    rcases List.mem_append.mp ht with here | last
    · exact old t here
    · obtain rfl := List.mem_singleton.mp last
      have before := previous.final_of_posts base fun t ht => (old t ht).2
      exact ⟨before, each _ ht before⟩

end Exec
