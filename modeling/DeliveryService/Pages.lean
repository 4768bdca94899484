import Mathlib.Data.List.Basic

/-- A client that asks for pages of the given size one after the other, until one of them is empty. -/
inductive Pages {ε α : Type} (fetch : Nat → Except ε (List α)) (size : Nat) : Nat → List α → Prop
  | done {offset} : fetch offset = .ok [] → Pages fetch size offset []
  | more {offset page rest} : fetch offset = .ok page → page ≠ [] → Pages fetch size (offset + size) rest →
      Pages fetch size offset (page ++ rest)

namespace Pages

variable {ε α : Type} {fetch : Nat → Except ε (List α)} {size offset : Nat} {items items' : List α}

theorem unique (pages : Pages fetch size offset items) (other : Pages fetch size offset items') : items = items' := by
  induction pages generalizing items' with
  | done last =>
    cases other with
    | done _ => rfl
    | more fetched nonempty _ =>
      rw [last] at fetched
      exact absurd (Except.ok.inj fetched).symm nonempty
  | more fetched nonempty _ ih =>
    cases other with
    | done last =>
      rw [last] at fetched
      exact absurd (Except.ok.inj fetched).symm nonempty
    | more fetched' _ rest' =>
      rw [fetched] at fetched'
      rw [Except.ok.inj fetched', ih rest']

/-- If every page is the slice of one list, the client collects the rest of that list. -/
theorem of_slices {all : List α} (positive : 0 < size)
    (slices : ∀ offset, fetch offset = .ok ((all.drop offset).take size)) (offset : Nat) :
    Pages fetch size offset (all.drop offset) := by
  induction left : all.length - offset using Nat.strongRecOn generalizing offset with
  | ind n ih =>
    by_cases finished : all.length ≤ offset
    · have empty : all.drop offset = [] := List.drop_eq_nil_iff.mpr finished
      rw [empty]
      refine .done ?_
      rw [slices, empty, List.take_nil]
    · have nonempty : (all.drop offset).take size ≠ [] := by
        intro empty
        have none := congrArg List.length empty
        simp only [List.length_take, List.length_drop, List.length_nil] at none
        omega
      have rest := ih (all.length - (offset + size)) (by omega) (offset + size) rfl
      have split : (all.drop offset).take size ++ all.drop (offset + size) = all.drop offset := by
        rw [← List.drop_drop, List.take_append_drop]
      rw [← split]
      exact .more (slices offset) nonempty rest

end Pages
