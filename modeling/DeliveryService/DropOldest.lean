import Mathlib.Data.List.Infix
import Mathlib.Data.Int.Basic

/-- The history of a bounded queue: what was put into it, what was taken from it, and what waits. -/
structure QueueLog (α : Type) where
  put : List α := []
  taken : List α := []
  waiting : List α := []

namespace QueueLog

variable {α : Type} {size : Int} {q q' : QueueLog α}

/-- What can happen to a queue that loses its oldest element when it is full. -/
inductive Change (size : Int) (q : QueueLog α) : QueueLog α → Prop
  | same : Change size q q
  | stored (a : α) : (q.waiting.length : Int) < size →
      Change size q { q with put := q.put ++ [a], waiting := q.waiting ++ [a] }
  | replaced (a : α) {oldest : α} {rest : List α} : q.waiting = oldest :: rest → (q.waiting.length : Int) = size →
      Change size q { q with put := q.put ++ [a], waiting := rest ++ [a] }
  | taken {oldest : α} {rest : List α} : q.waiting = oldest :: rest →
      Change size q { q with taken := q.taken ++ [oldest], waiting := rest }

/-- How many elements were neither taken nor still wait. -/
def lost (q : QueueLog α) : Int := q.put.length - q.taken.length - q.waiting.length

/-- The queue holds the newest elements, within its bound, and what was taken came before them, in order. -/
structure Sound (size : Int) (q : QueueLog α) : Prop where
  bounded : (q.waiting.length : Int) ≤ size
  flow : ∃ gone, q.put = gone ++ q.waiting ∧ q.taken.Sublist gone

theorem sound_empty (nonneg : 0 ≤ size) : Sound size ({} : QueueLog α) := ⟨by simpa, [], by simp⟩

theorem Sound.change (sound : q.Sound size) (change : q.Change size q') : q'.Sound size := by
  obtain ⟨bounded, gone, shape, ordered⟩ := sound
  cases change with
  | same => exact ⟨bounded, gone, shape, ordered⟩
  | stored a room => exact ⟨by simp; omega, gone, by simp [shape], ordered⟩
  | @replaced a oldest rest full length =>
    rw [full] at shape length
    have shorter : ((rest ++ [a]).length : Int) ≤ size := by simp at length ⊢; omega
    exact ⟨shorter, gone ++ [oldest], by simp [shape], ordered.trans (List.sublist_append_left _ _)⟩
  | @taken oldest rest full =>
    rw [full] at shape bounded
    have shorter : (rest.length : Int) ≤ size := by simp at bounded; omega
    exact ⟨shorter, gone ++ [oldest], by simp [shape], ordered.append (List.Sublist.refl _)⟩

theorem Sound.suffix (sound : q.Sound size) : q.waiting <:+ q.put := by
  obtain ⟨gone, shape, -⟩ := sound.flow
  exact ⟨gone, shape.symm⟩

theorem Sound.taken_sublist (sound : q.Sound size) : q.taken.Sublist q.put := by
  obtain ⟨gone, shape, ordered⟩ := sound.flow
  rw [shape]
  exact ordered.trans (List.sublist_append_left _ _)

end QueueLog
