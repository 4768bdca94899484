import Mathlib.Data.List.Basic
import Mathlib.Logic.Function.Basic

variable {α β : Type*}

/-- A code whose words can be told apart from whatever follows them. -/
def SelfDelimiting (code : α → List β) : Prop :=
  ∀ a a' rest rest', code a ++ rest = code a' ++ rest' → a = a' ∧ rest = rest'

namespace SelfDelimiting

variable {code : α → List β} {stop : β}

theorem injective (h : SelfDelimiting code) : Function.Injective code := by
  intro a a' same
  exact (h a a' [] [] (by rw [same])).1

/-- The first occurrence of a symbol splits a text in one way only. -/
theorem split_first {word word' rest rest' : List β} (free : stop ∉ word) (free' : stop ∉ word')
    (same : word ++ stop :: rest = word' ++ stop :: rest') : word = word' ∧ rest = rest' := by
  induction word generalizing word' with
  | nil =>
    cases word' with
    | nil => exact ⟨rfl, (List.cons.inj same).2⟩
    | cons c' word' => exact absurd ((List.cons.inj same).1 ▸ List.mem_cons_self) free'
  | cons c word ih =>
    cases word' with
    | nil => exact absurd ((List.cons.inj same).1 ▸ List.mem_cons_self) free
    | cons c' word' =>
      obtain ⟨rfl, tails⟩ := List.cons.inj same
      obtain ⟨rfl, rests⟩ := ih (List.not_mem_of_not_mem_cons free) (List.not_mem_of_not_mem_cons free') tails
      exact ⟨rfl, rests⟩

/-- So does the last occurrence. -/
theorem split_last {word word' rest rest' : List β} (free : stop ∉ rest) (free' : stop ∉ rest')
    (same : word ++ stop :: rest = word' ++ stop :: rest') : word = word' ∧ rest = rest' := by
  have turned : rest.reverse ++ stop :: word.reverse = rest'.reverse ++ stop :: word'.reverse := by
    simpa using congrArg List.reverse same
  obtain ⟨rests, words⟩ := split_first (by simpa using free) (by simpa using free') turned
  exact ⟨List.reverse_injective words, List.reverse_injective rests⟩

/-- Words without a symbol, ended by that symbol. -/
theorem ended (inj : Function.Injective code) (absent : ∀ a, stop ∉ code a) :
    SelfDelimiting fun a => code a ++ [stop] := by
  intro a a' rest rest' same
  simp only [List.append_assoc, List.singleton_append] at same
  obtain ⟨words, rests⟩ := split_first (absent a) (absent a') same
  exact ⟨inj words, rests⟩

/-- A list behind its length. -/
theorem lengthPrefixed {size : Nat → List β} (h : SelfDelimiting size) :
    SelfDelimiting fun symbols : List β => size symbols.length ++ symbols := by
  intro symbols symbols' rest rest' same
  simp only [List.append_assoc] at same
  obtain ⟨length, same⟩ := h _ _ _ _ same
  exact List.append_inj same length

end SelfDelimiting
