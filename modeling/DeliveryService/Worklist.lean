import Mathlib.Algebra.BigOperators.Group.Finset.Basic
import Mathlib.Algebra.Order.BigOperators.Group.Finset
import Mathlib.Data.Fintype.Basic
import Mathlib.Logic.Relation

universe u v

/-- A search of a graph for a node with a value. Nodes are pushed on a stack when they are met and marked
when they are popped; the search stops at the first value. -/
structure Worklist (α : Type u) (β : Type v) where
  pending : List α
  seen : Finset α := ∅
  inspected : List α := []
  found : Option β := none

namespace Worklist

variable {α : Type u} {β : Type v} [DecidableEq α]

section

variable (next : α → List α) (value : α → Option β)

/-- The stack holds the start only. -/
def start (a : α) : Worklist α β := { pending := [a] }

/-- One iteration; `none` when the search has ended. -/
def step (s : Worklist α β) : Option (Worklist α β) :=
  match s.found, s.pending with
  | some _, _ => none
  | none, [] => none
  | none, a :: rest =>
    if a ∈ s.seen then some { s with pending := rest }
    else match value a with
      | some b => some {
          pending := rest, seen := insert a s.seen, inspected := s.inspected ++ [a], found := some b }
      | none => some {
          pending := (next a).reverse ++ rest, seen := insert a s.seen, inspected := s.inspected ++ [a]
          found := none }

/-- So many iterations lead from one state to another. -/
inductive Steps : Nat → Worklist α β → Worklist α β → Prop
  | refl (s) : Steps 0 s s
  | tail {k s s' s''} : Steps k s s' → step next value s' = some s'' → Steps (k + 1) s s''

/-- The end of a path from the start. -/
abbrev Reaches (a b : α) : Prop := Relation.ReflTransGen (fun x y => y ∈ next x) a b

/-- What every iteration keeps. -/
structure Invariant (a : α) (s : Worklist α β) : Prop where
  once : s.inspected.Nodup
  marked : ∀ x, x ∈ s.inspected ↔ x ∈ s.seen
  reached : ∀ x, x ∈ s.seen ∨ x ∈ s.pending → Reaches next a x
  started : a ∈ s.seen ∨ a ∈ s.pending
  silent : s.found = none → ∀ x ∈ s.seen, value x = none ∧ ∀ y ∈ next x, y ∈ s.seen ∨ y ∈ s.pending
  valued : ∀ b, s.found = some b → ∃ x ∈ s.seen, value x = some b

end

variable {next : α → List α} {value : α → Option β} {s s' : Worklist α β} {a : α} {k : Nat}

/-- Everything that an iteration can do. -/
theorem step_cases (taken : step next value s = some s') : s.found = none ∧ ∃ x rest, s.pending = x :: rest ∧
    ((x ∈ s.seen ∧ s' = { s with pending := rest }) ∨
      (x ∉ s.seen ∧ ∃ b, value x = some b ∧ s' = {
        pending := rest, seen := insert x s.seen, inspected := s.inspected ++ [x], found := some b }) ∨
      (x ∉ s.seen ∧ value x = none ∧ s' = {
        pending := (next x).reverse ++ rest, seen := insert x s.seen, inspected := s.inspected ++ [x]
        found := none })) := by
  unfold step at taken
  split at taken
  next => cases taken
  next => cases taken
  next x rest unfound shape =>
    refine ⟨unfound, x, rest, shape, ?_⟩
    split_ifs at taken with old
    · exact .inl ⟨old, (Option.some.inj taken).symm⟩
    · split at taken
      next b known => exact .inr (.inl ⟨old, b, known, (Option.some.inj taken).symm⟩)
      next unknown => exact .inr (.inr ⟨old, unknown, (Option.some.inj taken).symm⟩)

theorem ended_iff : step next value s = none ↔ s.found.isSome = true ∨ s.pending = [] := by
  unfold step
  split
  next b found => simp [found]
  next unfound empty => simp [empty]
  next x rest unfound shape =>
    have going : ¬ (s.found.isSome = true ∨ s.pending = []) := by simp [unfound, shape]
    refine iff_of_false ?_ going
    split_ifs
    · simp
    · split <;> simp

omit [DecidableEq α] in
theorem invariant_start : Invariant next value a (start a) where
  once := List.nodup_nil
  marked x := by simp [start]
  reached x mem := by
    obtain rfl : x = a := by simpa [start] using mem
    exact .refl
  started := by simp [start]
  silent _ x mem := by simp [start] at mem
  valued b found := by simp [start] at found

omit [DecidableEq α] in
/-- What was marked or on the stack still is when the top of the stack is taken off and is marked. -/
theorem covered_rest {x y : α} {rest : List α} {seen : Finset α} (shape : s.pending = x :: rest)
    (grown : s.seen ⊆ seen) (marked : x ∈ seen) (covered : y ∈ s.seen ∨ y ∈ s.pending) : y ∈ seen ∨ y ∈ rest := by
  rcases covered with old | waiting
  · exact .inl (grown old)
  · rcases List.mem_cons.mp (shape ▸ waiting) with rfl | later
    · exact .inl marked
    · exact .inr later

/-- The parts of the invariant that marking a node keeps, whatever its value is. -/
theorem Invariant.mark (inv : Invariant next value a s) {x : α} {rest : List α} (shape : s.pending = x :: rest)
    (fresh : x ∉ s.seen) : (s.inspected ++ [x]).Nodup ∧ (∀ y, y ∈ s.inspected ++ [x] ↔ y ∈ insert x s.seen) ∧
      ∀ y, y ∈ insert x s.seen ∨ y ∈ rest → Reaches next a y := by
  refine ⟨?_, fun y => ?_, ?_⟩
  · rw [List.nodup_append]
    refine ⟨inv.once, List.nodup_singleton x, ?_⟩
    rintro y old _ new rfl
    obtain rfl := List.mem_singleton.mp new
    exact fresh ((inv.marked y).mp old)
  · rw [List.mem_append, List.mem_singleton, Finset.mem_insert, inv.marked y]
    exact or_comm
  · rintro y (marked | later)
    · rcases Finset.mem_insert.mp marked with rfl | old
      · exact inv.reached y (.inr (by simp [shape]))
      · exact inv.reached y (.inl old)
    · exact inv.reached y (.inr (shape ▸ List.mem_cons_of_mem x later))

theorem Invariant.step (inv : Invariant next value a s) (taken : step next value s = some s') :
    Invariant next value a s' := by
  obtain ⟨unfound, x, rest, shape, ⟨old, rfl⟩ | ⟨fresh, b, known, rfl⟩ | ⟨fresh, unknown, rfl⟩⟩ := step_cases taken
  · have covered {y : α} := covered_rest (y := y) shape (Finset.Subset.refl _) old
    refine ⟨inv.once, inv.marked, fun y mem => inv.reached y ?_, covered inv.started, ?_, inv.valued⟩
    · exact mem.imp_right fun later => shape ▸ List.mem_cons_of_mem x later
    · intro _ y mem
      obtain ⟨quiet, closed⟩ := inv.silent unfound y mem
      exact ⟨quiet, fun z link => covered (closed z link)⟩
  · obtain ⟨once, marked, reached⟩ := inv.mark shape fresh
    have started := covered_rest shape (Finset.subset_insert x _) (Finset.mem_insert_self x _) inv.started
    refine ⟨once, marked, reached, started, fun none => (Option.some_ne_none b none).elim, ?_⟩
    rintro _ ⟨⟩
    exact ⟨x, Finset.mem_insert_self x _, known⟩
  · obtain ⟨once, marked, reached⟩ := inv.mark shape fresh
    have covered {y : α} (was : y ∈ s.seen ∨ y ∈ s.pending) :
        y ∈ insert x s.seen ∨ y ∈ (next x).reverse ++ rest := by
      have rests := covered_rest shape (Finset.subset_insert x _) (Finset.mem_insert_self x _) was
      exact rests.imp_right (List.mem_append_right _)
    refine ⟨once, marked, ?_, covered inv.started, ?_, fun b found => by cases found⟩
    · rintro y (mem | waiting)
      · exact reached y (.inl mem)
      · rcases List.mem_append.mp waiting with new | later
        · exact (reached x (.inl (Finset.mem_insert_self x _))).tail (List.mem_reverse.mp new)
        · exact reached y (.inr later)
    · intro _ y mem
      rcases Finset.mem_insert.mp mem with rfl | old
      · exact ⟨unknown, fun z link => .inr (List.mem_append_left _ (List.mem_reverse.mpr link))⟩
      · obtain ⟨quiet, closed⟩ := inv.silent unfound y old
        exact ⟨quiet, fun z link => covered (closed z link)⟩

theorem Invariant.steps (inv : Invariant next value a s) (steps : Steps next value k s s') :
    Invariant next value a s' := by
  induction steps with
  | refl => exact inv
  | tail _ taken ih => exact (ih inv).step taken

omit [DecidableEq α] in
/-- A search that ended without a value has marked whatever can be reached. -/
theorem Invariant.marks_reached (inv : Invariant next value a s) (unfound : s.found = none)
    (empty : s.pending = []) {x : α} (path : Reaches next a x) : x ∈ s.seen := by
  have marked : ∀ y, y ∈ s.seen ∨ y ∈ s.pending → y ∈ s.seen := by simp [empty]
  induction path with
  | refl => exact marked a inv.started
  | tail _ link ih => exact marked _ ((inv.silent unfound _ ih).2 _ link)

/-- Where the search ends it has found a value exactly when one can be reached. -/
theorem Invariant.found_iff (inv : Invariant next value a s) (ended : Worklist.step next value s = none) :
    (∃ b, s.found = some b) ↔ ∃ x b, Reaches next a x ∧ value x = some b := by
  constructor
  · rintro ⟨b, found⟩
    obtain ⟨x, mem, known⟩ := inv.valued b found
    exact ⟨x, b, inv.reached x (.inl mem), known⟩
  · rintro ⟨x, b, path, known⟩
    by_contra! missing
    have unfound : s.found = none := by
      by_contra other
      obtain ⟨b, found⟩ := Option.ne_none_iff_exists'.mp other
      exact missing b found
    have empty : s.pending = [] := by simpa [unfound] using ended_iff.mp ended
    have quiet := (inv.silent unfound x (inv.marks_reached unfound empty path)).1
    rw [quiet] at known
    cases known

section

variable [Fintype α]

/-- The nodes on the stack and the links of the nodes that are not marked yet. -/
def work (next : α → List α) (s : Worklist α β) : Nat :=
  s.pending.length + ∑ x ∈ s.seenᶜ, (next x).length

theorem work_mark (next : α → List α) {seen : Finset α} {x : α} (fresh : x ∉ seen) :
    ∑ y ∈ (insert x seen)ᶜ, (next y).length + (next x).length = ∑ y ∈ seenᶜ, (next y).length := by
  rw [Finset.compl_insert]
  exact Finset.sum_erase_add _ _ (Finset.mem_compl.mpr fresh)

theorem work_step (taken : step next value s = some s') : work next s' < work next s := by
  obtain ⟨-, x, rest, shape, ⟨-, rfl⟩ | ⟨fresh, b, -, rfl⟩ | ⟨fresh, -, rfl⟩⟩ := step_cases taken
  · simp only [work, shape, List.length_cons]
    omega
  · have links := work_mark next fresh
    simp only [work, shape, List.length_cons]
    omega
  · have links := work_mark next fresh
    simp only [work, shape, List.length_append, List.length_reverse, List.length_cons]
    omega

/-- The search ends after at most as many iterations as there is work. -/
theorem ends (next : α → List α) (value : α → Option β) (s : Worklist α β) :
    ∃ k s', k ≤ work next s ∧ Steps next value k s s' ∧ step next value s' = none := by
  suffices h : ∀ n k s', work next s' + k ≤ work next s → work next s' ≤ n → Steps next value k s s' →
      ∃ k s', k ≤ work next s ∧ Steps next value k s s' ∧ step next value s' = none from
    h (work next s) 0 s (by omega) le_rfl (.refl s)
  intro n
  induction n with
  | zero =>
    intro k s' bound small steps
    refine ⟨k, s', by omega, steps, ?_⟩
    by_contra going
    obtain ⟨s'', taken⟩ := Option.ne_none_iff_exists'.mp going
    have := work_step taken
    omega
  | succ n ih =>
    intro k s' bound small steps
    cases taken : step next value s' with
    | none => exact ⟨k, s', by omega, steps, taken⟩
    | some s'' =>
      have less := work_step taken
      exact ih (k + 1) s'' (by omega) (by omega) (steps.tail taken)

theorem work_start (next : α → List α) (a : α) : work next (start a : Worklist α β) = 1 + ∑ x, (next x).length := by
  simp [work, start]

end

end Worklist
