import Mathlib.Data.List.Chain
import Mathlib.Data.List.Nodup

variable {α : Type*}

/-- A list of pairwise different elements in which `next` leads from each element to the one after
it and from the last one nowhere. -/
structure SuccessorPath (next : α → Option α) (path : List α) : Prop where
  nodup : path.Nodup
  linked : path.IsChain fun a b => next a = some b
  ended : ∀ last ∈ path.getLast?, next last = none

namespace SuccessorPath

variable {next next' : α → Option α} {path : List α} {a a' b : α}

theorem singleton (h : next a = none) : SuccessorPath next [a] :=
  ⟨by simp, by simp, by simpa using h⟩

theorem congr (h : SuccessorPath next path) (same : ∀ a ∈ path, next' a = next a) :
    SuccessorPath next' path := by
  refine ⟨h.nodup, ?_, ?_⟩
  · refine h.linked.imp_of_mem_imp fun a b ha _ hab => ?_
    rw [same a ha, hab]
  · intro last hl
    rw [same last (List.mem_of_getLast? hl), h.ended last hl]

theorem snoc (h : SuccessorPath next path) (last : path.getLast? = some a) (fresh : b ∉ path)
    (same : ∀ x ∈ path, x ≠ a → next' x = next x) (link : next' a = some b) (stop : next' b = none) :
    SuccessorPath next' (path ++ [b]) := by
  refine ⟨List.nodup_append.mpr ⟨h.nodup, by simp, ?_⟩, ?_, by simpa using stop⟩
  · rintro x hx y hy rfl
    exact fresh (List.mem_singleton.mp hy ▸ hx)
  · rw [List.isChain_append]
    refine ⟨h.linked.imp_of_mem_imp fun x y hx _ hxy => ?_, by simp, ?_⟩
    · have inner : x ≠ a := by
        rintro rfl
        simp [h.ended x last] at hxy
      rw [same x hx inner, hxy]
    · intro x hx y hy
      obtain rfl : a = x := Option.some.inj (last.symm.trans hx)
      obtain rfl : b = y := by simpa using hy
      exact link

theorem split_of_next (h : SuccessorPath next path) (ha : a ∈ path) (hab : next a = some b) :
    ∃ before after, path = before ++ a :: b :: after := by
  obtain ⟨before, after, rfl⟩ := List.append_of_mem ha
  cases after with
  | nil =>
    have stop := h.ended a (by simp)
    simp [stop] at hab
  | cons c after =>
    have link := (List.isChain_append_cons_cons.mp h.linked).2.1
    obtain rfl : c = b := Option.some.inj (link.symm.trans hab)
    exact ⟨before, after, rfl⟩

theorem mem_of_next (h : SuccessorPath next path) (ha : a ∈ path) (hab : next a = some b) : b ∈ path := by
  obtain ⟨before, after, rfl⟩ := h.split_of_next ha hab
  simp

theorem eq_of_next_eq (h : SuccessorPath next path) (ha : a ∈ path) (ha' : a' ∈ path)
    (hab : next a = some b) (hab' : next a' = some b) : a = a' := by
  obtain ⟨before, after, rfl⟩ := h.split_of_next ha hab
  obtain ⟨before', after', he⟩ := h.split_of_next ha' hab'
  have once := h.nodup
  rw [List.append_cons] at he once
  rw [he, List.append_cons] at once
  rw [List.append_cons before' a'] at he
  have absent : b ∉ before' ++ [a'] ∧ b ∉ after' := by
    simp only [List.nodup_append, List.nodup_cons] at once
    refine ⟨fun hm => ?_, once.2.1.1⟩
    exact once.2.2 b hm b (by simp) rfl
  obtain ⟨same, _, _⟩ := (List.append_cons_inj_of_notMem absent.1 absent.2).mp he.symm
  simpa using (List.append_inj' same rfl).2.symm

theorem next_ne_head (h : SuccessorPath next path) (ha : a ∈ path) (hab : next a = some b) :
    path.head? ≠ some b := by
  obtain ⟨before, after, rfl⟩ := h.split_of_next ha hab
  have once := h.nodup
  intro head
  cases before with
  | nil =>
    obtain rfl : a = b := by simpa using head
    simp at once
  | cons c before =>
    obtain rfl : c = b := by simpa using head
    simp at once

theorem exists_previous (h : SuccessorPath next path) (hb : b ∈ path) (inner : path.head? ≠ some b) :
    ∃ a ∈ path, next a = some b := by
  obtain ⟨before, after, rfl⟩ := List.append_of_mem hb
  rcases List.eq_nil_or_concat before with rfl | ⟨before, a, rfl⟩
  · simp at inner
  · refine ⟨a, by simp, ?_⟩
    have links := h.linked
    simp only [List.concat_eq_append, List.append_assoc, List.cons_append, List.nil_append] at links
    exact (List.isChain_append_cons_cons.mp links).2.1

end SuccessorPath
