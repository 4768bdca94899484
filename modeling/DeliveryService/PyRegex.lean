import Mathlib.Computability.RegularExpressions

namespace PyRegex

/-- A regular expression of `re` over characters. -/
abbrev Pattern := RegularExpression Char

def literal (text : String) : Pattern := (text.toList.map .char).foldr (· * ·) 1

/-- A character class. -/
def oneOf (chars : List Char) : Pattern := (chars.map .char).foldr (· + ·) 0

/-- `p+` -/
def atLeastOnce (p : Pattern) : Pattern := p * p.star

/-- `fullmatch`; the anchors `^` and `$` of a pattern add nothing to it. -/
def fullmatch (p : Pattern) (text : String) : Bool := p.rmatch text.toList

def digits : List Char := "0123456789".toList

def lowerHex : List Char := "0123456789abcdef".toList

theorem fullmatch_iff (p : Pattern) (text : String) : fullmatch p text = true ↔ text.toList ∈ p.matches' :=
  p.rmatch_iff_matches' text.toList

theorem mem_mul {p q : Pattern} {text : List Char} :
    text ∈ (p * q).matches' ↔ ∃ a ∈ p.matches', ∃ b ∈ q.matches', a ++ b = text := by
  rw [RegularExpression.matches'_mul, Language.mem_mul]

theorem append_mem {p q : Pattern} {a b : List Char} (left : a ∈ p.matches') (right : b ∈ q.matches') :
    a ++ b ∈ (p * q).matches' := mem_mul.mpr ⟨a, left, b, right, rfl⟩

theorem mem_add {p q : Pattern} {text : List Char} :
    text ∈ (p + q).matches' ↔ text ∈ p.matches' ∨ text ∈ q.matches' := by
  rw [RegularExpression.matches'_add, Language.mem_add]

theorem mem_char {c : Char} {text : List Char} :
    text ∈ (RegularExpression.char c).matches' ↔ text = [c] := by
  rw [RegularExpression.matches'_char]
  exact Set.mem_singleton_iff

theorem mem_epsilon {text : List Char} : text ∈ (1 : Pattern).matches' ↔ text = [] := by
  rw [RegularExpression.matches'_epsilon, Language.mem_one]

@[simp] theorem mem_literal {word : String} {text : List Char} :
    text ∈ (literal word).matches' ↔ text = word.toList := by
  unfold literal
  generalize word.toList = chars
  induction chars generalizing text with
  | nil => exact mem_epsilon
  | cons c rest ih =>
    simp only [List.map_cons, List.foldr_cons, mem_mul, mem_char, ih, exists_eq_left, List.singleton_append]
    exact eq_comm

@[simp] theorem mem_oneOf {chars text : List Char} :
    text ∈ (oneOf chars).matches' ↔ ∃ c ∈ chars, text = [c] := by
  unfold oneOf
  induction chars with
  | nil => simp
  | cons c rest ih =>
    rw [List.map_cons, List.foldr_cons, mem_add, mem_char, ih]
    simp

/-- A text whose characters all belong to the class. -/
def Within (chars text : List Char) : Prop := ∀ c ∈ text, c ∈ chars

theorem within_of_all {chars text : List Char} (all : text.all chars.contains = true) : Within chars text := by
  simpa [Within] using all

theorem flatten_singletons {chars : List Char} {parts : List (List Char)}
    (single : ∀ part ∈ parts, part ∈ (oneOf chars).matches') :
    parts.flatten.length = parts.length ∧ Within chars parts.flatten := by
  induction parts with
  | nil => simp [Within]
  | cons part rest ih =>
    obtain ⟨c, known, rfl⟩ := mem_oneOf.mp (single part (by simp))
    obtain ⟨size, inside⟩ := ih fun other mem => single other (by simp [mem])
    refine ⟨by simp [size], fun d mem => ?_⟩
    rcases List.mem_cons.mp mem with rfl | mem
    · exact known
    · exact inside d mem

theorem flatten_map_singleton (text : List Char) : (text.map fun c => [c]).flatten = text := by
  rw [← List.flatMap_def, List.flatMap_singleton']

theorem mem_oneOf_pow {chars text : List Char} {n : Nat} :
    text ∈ (oneOf chars ^ n).matches' ↔ text.length = n ∧ Within chars text := by
  rw [RegularExpression.matches'_pow, Language.mem_pow]
  constructor
  · rintro ⟨parts, rfl, rfl, single⟩
    exact flatten_singletons single
  · rintro ⟨rfl, inside⟩
    refine ⟨text.map fun c => [c], (flatten_map_singleton text).symm, by simp, fun part mem => ?_⟩
    obtain ⟨c, known, rfl⟩ := List.mem_map.mp mem
    exact mem_oneOf.mpr ⟨c, inside c known, rfl⟩

theorem mem_atLeastOnce {chars text : List Char} :
    text ∈ (atLeastOnce (oneOf chars)).matches' ↔ text ≠ [] ∧ Within chars text := by
  rw [atLeastOnce, mem_mul]
  simp only [RegularExpression.matches'_star, Language.mem_kstar]
  constructor
  · rintro ⟨head, one, -, ⟨parts, rfl, single⟩, rfl⟩
    obtain ⟨c, known, rfl⟩ := mem_oneOf.mp one
    refine ⟨by simp, fun d mem => ?_⟩
    rcases List.mem_cons.mp mem with rfl | mem
    · exact known
    · exact (flatten_singletons single).2 d mem
  · rintro ⟨nonempty, inside⟩
    cases text with
    | nil => exact absurd rfl nonempty
    | cons c rest =>
      refine ⟨[c], mem_oneOf.mpr ⟨c, inside c (by simp), rfl⟩, rest, ⟨rest.map fun c => [c], ?_, ?_⟩, rfl⟩
      · exact (flatten_map_singleton rest).symm
      · intro part mem
        obtain ⟨d, known, rfl⟩ := List.mem_map.mp mem
        exact mem_oneOf.mpr ⟨d, inside d (by simp [known]), rfl⟩

end PyRegex
