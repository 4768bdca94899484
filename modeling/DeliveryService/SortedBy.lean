import Mathlib.Data.List.Sort

namespace List

variable {α β κ : Type} [LinearOrder κ]

/-- Sort by a key. -/
def sortedBy (key : α → κ) (l : List α) : List α := l.insertionSort fun a b => key a ≤ key b

instance total_key (key : α → κ) : Std.Total fun a b => key a ≤ key b := ⟨fun a b => le_total (key a) (key b)⟩

instance trans_key (key : α → κ) : IsTrans α fun a b => key a ≤ key b := ⟨fun _ _ _ h h' => h.trans h'⟩

/-- The order in which elements come does not matter if their keys differ. -/
theorem Perm.sortedBy_eq {l l' : List α} (perm : l.Perm l') (key : α → κ)
    (distinct : ∀ a ∈ l, ∀ b ∈ l, key a = key b → a = b) : l.sortedBy key = l'.sortedBy key := by
  refine Perm.eq_of_pairwise (fun a b ha hb le ge => ?_) (pairwise_insertionSort _ l) (pairwise_insertionSort _ l') ?_
  · have mem : a ∈ l := (mem_insertionSort _).mp ha
    have mem' : b ∈ l := perm.mem_iff.mpr ((mem_insertionSort _).mp hb)
    exact distinct a mem b mem' (le_antisymm le ge)
  · exact (perm_insertionSort _ l).trans (perm.trans (perm_insertionSort _ l').symm)

theorem map_sortedBy {key : α → κ} {key' : β → κ} (f : α → β) (l : List α) (same : ∀ a, key' (f a) = key a) :
    (l.sortedBy key).map f = (l.map f).sortedBy key' := by
  refine map_insertionSort _ _ f l fun a _ b _ => ?_
  rw [same, same]

theorem pairwise_lt_sortedBy {key : α → κ} {l : List α} (nodup : l.Nodup)
    (distinct : ∀ a ∈ l, ∀ b ∈ l, key a = key b → a = b) : (l.sortedBy key).Pairwise fun a b => key a < key b := by
  have sorted : (l.sortedBy key).Pairwise fun a b => key a ≤ key b := pairwise_insertionSort _ l
  have nodup' : (l.sortedBy key).Nodup := (perm_insertionSort _ l).nodup_iff.mpr nodup
  refine (sorted.and nodup').imp_of_mem fun {a b} ha hb both => lt_of_le_of_ne both.1 fun same => both.2 ?_
  exact distinct a ((mem_insertionSort _).mp ha) b ((mem_insertionSort _).mp hb) same

/-- A partial function that keeps the keys keeps their order. -/
theorem map_filterMap_sublist {f : α → Option α} {key : α → β} (keeps : ∀ a b, f a = some b → key b = key a)
    (l : List α) : ((l.filterMap f).map key).Sublist (l.map key) := by
  induction l with
  | nil => exact Sublist.refl _
  | cons a rest ih =>
    rw [filterMap_cons]
    cases found : f a with
    | none => exact ih.cons _
    | some b =>
      simp only [map_cons, keeps a b found]
      exact ih.cons_cons _

theorem mem_sortedBy {key : α → κ} {l : List α} {a : α} : a ∈ l.sortedBy key ↔ a ∈ l :=
  mem_insertionSort _

end List
