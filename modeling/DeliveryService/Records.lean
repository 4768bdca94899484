import Mathlib.Data.List.Induction
import Mathlib.Order.MinMax

namespace Records

variable {α ι : Type} [LinearOrder ι] (key : α → ι)

/-- The element lies above the floor and above everything before it. -/
def IsRecord (floor : ι) (before : List α) (x : α) : Prop := floor < key x ∧ ∀ y ∈ before, key y < key x

instance decidableIsRecord (floor : ι) (before : List α) (x : α) : Decidable (IsRecord key floor before x) :=
  inferInstanceAs (Decidable (_ ∧ _))

/-- The elements that are records where they stand, in their order. -/
def records (floor : ι) (xs : List α) : List α :=
  (xs.zipIdx.filter fun entry => IsRecord key floor (xs.take entry.2) entry.1).map Prod.fst

/-- The largest key so far. -/
def height (floor : ι) (xs : List α) : ι := xs.foldl (fun top x => max top (key x)) floor

variable {key} {floor : ι} {xs : List α} {x : α}

theorem height_append (x : α) : height key floor (xs ++ [x]) = max (height key floor xs) (key x) := by
  simp [height]

theorem isRecord_iff : IsRecord key floor xs x ↔ height key floor xs < key x := by
  induction xs using List.reverseRecOn with
  | nil => simp [IsRecord, height]
  | append_singleton xs y ih =>
    rw [height_append, max_lt_iff, ← ih]
    simp only [IsRecord, List.mem_append, List.mem_singleton, or_imp, forall_and, forall_eq, and_assoc]

/-- A further element changes nothing about those before it. -/
theorem records_append (x : α) : records key floor (xs ++ [x]) =
    records key floor xs ++ if IsRecord key floor xs x then [x] else [] := by
  have earlier : (xs.zipIdx.filter fun entry => IsRecord key floor ((xs ++ [x]).take entry.2) entry.1) =
      xs.zipIdx.filter fun entry => IsRecord key floor (xs.take entry.2) entry.1 := by
    refine List.filter_congr fun entry mem => ?_
    have inside : entry.2 < xs.length := by
      have := (List.mem_zipIdx mem).2.1
      omega
    rw [List.take_append_of_le_length (by omega)]
  simp only [records, List.zipIdx_append, List.filter_append, List.map_append, earlier]
  congr 1
  by_cases new : IsRecord key floor xs x <;> simp [new]

theorem records_sublist : (records key floor xs).Sublist xs := by
  have kept := (List.filter_sublist (p := fun entry => decide (IsRecord key floor (xs.take entry.2) entry.1))
    (l := xs.zipIdx)).map Prod.fst
  simpa [records] using kept

theorem records_above (mem : x ∈ records key floor xs) : floor < key x := by
  obtain ⟨entry, kept, rfl⟩ := List.mem_map.mp mem
  have record := (List.mem_filter.mp kept).2
  exact (of_decide_eq_true record).1

/-- The keys of the records increase. -/
theorem records_increasing : (records key floor xs).Pairwise fun x y => key x < key y := by
  induction xs using List.reverseRecOn with
  | nil => simp [records]
  | append_singleton xs x ih =>
    rw [records_append, List.pairwise_append]
    refine ⟨ih, by split <;> simp, fun y earlier z last => ?_⟩
    split_ifs at last with new
    · obtain rfl := List.mem_singleton.mp last
      exact new.2 y (records_sublist.mem earlier)
    · simp at last

end Records
