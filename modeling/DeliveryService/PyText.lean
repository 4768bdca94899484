import Mathlib.Data.List.DropRight
import Mathlib.Data.List.Basic
import Mathlib.Data.List.Chain
import Mathlib.Data.Nat.Digits.Defs

namespace PyText

/-- The characters `str.strip` and `str.split` treat as white space. -/
def isSpace (c : Char) : Bool :=
  (0x09 ≤ c.toNat && c.toNat ≤ 0x0d) || (0x1c ≤ c.toNat && c.toNat ≤ 0x20) ||
    (0x2000 ≤ c.toNat && c.toNat ≤ 0x200a) ||
    [0x85, 0xa0, 0x1680, 0x2028, 0x2029, 0x202f, 0x205f, 0x3000].contains c.toNat

/-- `str.strip`: drop the characters that satisfy `p` from both ends. -/
def strip (p : Char → Bool) (text : List Char) : List Char :=
  (text.dropWhile p).rdropWhile p

/-- `str.replace(pattern, "")` for a non-empty pattern; `skip` counts the characters of a match
that are still to be dropped. -/
def removeAll (pattern : List Char) : Nat → List Char → List Char
  | _, [] => []
  | skip + 1, _ :: rest => removeAll pattern skip rest
  | 0, c :: rest =>
    if pattern.isPrefixOf (c :: rest) then removeAll pattern (pattern.length - 1) rest
    else c :: removeAll pattern 0 rest

/-- `str.partition` at one character: the text before it and, if it occurs, the text after it. -/
def partition (separator : Char) : List Char → List Char × Option (List Char)
  | [] => ([], none)
  | c :: rest =>
    if c = separator then ([], some rest)
    else
      let parts := partition separator rest
      (c :: parts.1, parts.2)

/-- `str.split` without a separator: the maximal runs of characters that are not white space. -/
def words (text : List Char) : List (List Char) := (text.splitOnP isSpace).filter (· ≠ [])

/-- The characters that `int` and `float` treat as digits, with their values. -/
structure DecimalDigits where
  value : Char → Option Nat
  ascii : ∀ c, c.toNat < 128 → value c = if c.isDigit then some (c.toNat - 48) else none

/-- Digits that only know ASCII, to run programs on ASCII input. -/
def asciiDigits : DecimalDigits :=
  ⟨fun c => if c.isDigit then some (c.toNat - 48) else none, fun _ _ => rfl⟩

/-- The value of a digit of `int(text, base)`. -/
def digitIn (decimals : DecimalDigits) (base : Nat) (c : Char) : Option Nat :=
  let letter : Option Nat :=
    if 97 ≤ c.toNat ∧ c.toNat ≤ 122 then some (c.toNat - 87)
    else if 65 ≤ c.toNat ∧ c.toNat ≤ 90 then some (c.toNat - 55)
    else none
  ((decimals.value c).or letter).filter (· < base)

/-- Digits, most significant first, with single underscores between them. -/
def readDigits (digit : Char → Option Nat) : Bool → List Char → Option (List Nat)
  | afterDigit, [] => if afterDigit then some [] else none
  | afterDigit, c :: rest =>
    if c = '_' then if afterDigit then readDigits digit false rest else none
    else match digit c with
      | some d => (readDigits digit true rest).map (d :: ·)
      | none => none

/-- The white space around the text of a number. -/
def isNumberSpace (c : Char) : Bool := isSpace c && !(0x1c ≤ c.toNat && c.toNat ≤ 0x1f)

/-- The sign and the rest of the text of a number. -/
def splitSign : List Char → Bool × List Char
  | '-' :: rest => (true, rest)
  | '+' :: rest => (false, rest)
  | text => (false, text)

/-- What follows `0x`, with one underscore more if there is one. -/
def dropHexPrefix : List Char → List Char
  | '0' :: x :: rest =>
    if x = 'x' || x = 'X' then match rest with
      | '_' :: more => more
      | _ => rest
    else '0' :: x :: rest
  | text => text

/-- `int(text, 16)`; `none` is its `ValueError`. -/
def intHex (decimals : DecimalDigits) (text : List Char) : Option Int :=
  let (negative, body) := splitSign (strip isNumberSpace text)
  (readDigits (digitIn decimals 16) false (dropHexPrefix body)).map fun digits =>
    let size : Int := Nat.ofDigits 16 digits.reverse
    if negative then -size else size

/-- `int(text)`, for at most `limit` digits; `none` is its `ValueError`. -/
def intDecimal (decimals : DecimalDigits) (limit : Nat) (text : List Char) : Option Int :=
  let (negative, body) := splitSign (strip isNumberSpace text)
  (readDigits (digitIn decimals 10) false body).bind fun digits =>
    let size : Int := Nat.ofDigits 10 digits.reverse
    if limit < digits.length then none else some (if negative then -size else size)

/-- Unicode case folding: each character folds on its own, an ASCII character to its lower case. -/
structure CaseFolding where
  fold : Char → List Char
  ascii : ∀ c, c.toNat < 128 → fold c = [c.toLower]

/-- `str.casefold` -/
def CaseFolding.casefold (folding : CaseFolding) (text : List Char) : List Char :=
  text.flatMap folding.fold

/-- Folding that only knows ASCII, to run programs on ASCII input. -/
def asciiFolding : CaseFolding := ⟨fun c => [c.toLower], fun _ _ => rfl⟩

theorem CaseFolding.casefold_ascii (folding : CaseFolding) {text : List Char}
    (h : ∀ c ∈ text, c.toNat < 128) : folding.casefold text = text.map Char.toLower := by
  induction text with
  | nil => rfl
  | cons c rest ih =>
    have tail := ih (fun x hx => h x (by simp [hx]))
    simp only [CaseFolding.casefold, List.flatMap_cons, folding.ascii c (h c (by simp)),
      List.map_cons] at tail ⊢
    simp [tail]

theorem strip_of_forall_not {p : Char → Bool} {text : List Char} (h : ∀ c ∈ text, p c = false) :
    strip p text = text := by
  cases text with
  | nil => rfl
  | cons c rest =>
    have front : (c :: rest).dropWhile p = c :: rest := by simp [h c (by simp)]
    rw [strip, front, List.rdropWhile_eq_self_iff]
    intro hn hp
    simp [h _ (List.getLast_mem hn)] at hp

theorem removeAll_of_head_notMem {c : Char} {pattern text : List Char} (h : c ∉ text) :
    removeAll (c :: pattern) 0 text = text := by
  induction text with
  | nil => rfl
  | cons x rest ih =>
    have hx : c ≠ x := fun e => h (by simp [e])
    have tail := ih (fun hm => h (by simp [hm]))
    simp [removeAll, hx, tail]

theorem partition_append {separator : Char} {before after : List Char} (h : separator ∉ before) :
    partition separator (before ++ separator :: after) = (before, some after) := by
  induction before with
  | nil => simp [partition]
  | cons c rest ih =>
    have hc : c ≠ separator := fun e => h (by simp [e])
    simp [partition, hc, ih (fun hm => h (by simp [hm]))]

theorem eq_of_partition {separator : Char} {text before after : List Char}
    (parts : partition separator text = (before, some after)) : text = before ++ separator :: after := by
  induction text generalizing before with
  | nil => simp [partition] at parts
  | cons c rest ih =>
    unfold partition at parts
    split_ifs at parts with here
    · obtain ⟨rfl, found⟩ := Prod.mk.inj parts
      rw [here, Option.some.inj found, List.nil_append]
    · obtain ⟨rfl, found⟩ := Prod.mk.inj parts
      rw [List.cons_append, ← ih (Prod.ext rfl found)]

theorem splitOnPPrepend_not {p : Char → Bool} {text : List Char} (acc : List Char) (h : ∀ c ∈ acc, p c = false) :
    ∀ word ∈ text.splitOnPPrepend p acc, ∀ c ∈ word, p c = false := by
  induction text generalizing acc with
  | nil => simpa using h
  | cons x rest ih =>
    rw [List.splitOnPPrepend_cons_eq_if]
    split_ifs with space
    · intro word mem
      rcases List.mem_cons.mp mem with rfl | later
      · simpa using h
      · exact ih [] (by simp) word later
    · exact ih (x :: acc) (List.forall_mem_cons.mpr ⟨by simpa using space, h⟩)

theorem mem_words {text word : List Char} (mem : word ∈ words text) :
    word ≠ [] ∧ ∀ c ∈ word, isSpace c = false := by
  obtain ⟨part, nonempty⟩ := List.mem_filter.mp mem
  exact ⟨by simpa using nonempty, splitOnPPrepend_not [] (by simp) word part⟩

/-- No white space at either end, and never two in a row. -/
structure Tidy (text : List Char) : Prop where
  head : ∀ c ∈ text.head?, isSpace c = false
  last : ∀ c ∈ text.getLast?, isSpace c = false
  single : text.IsChain fun a b => isSpace a = false ∨ isSpace b = false

theorem tidy_of_forall_not {text : List Char} (h : ∀ c ∈ text, isSpace c = false) : Tidy text where
  head c mem := h c (List.mem_of_mem_head? mem)
  last c mem := h c (List.mem_of_mem_getLast? mem)
  single := by
    refine List.isChain_iff_forall_rel_of_append_cons_cons.mpr fun a b before after shape => ?_
    exact .inl (h a (by simp [shape]))

theorem Tidy.join {word text : List Char} (nonempty : word ≠ []) (h : ∀ c ∈ word, isSpace c = false)
    (filled : text ≠ []) (tidy : Tidy text) : Tidy (word ++ ' ' :: text) := by
  have solid := tidy_of_forall_not h
  refine ⟨fun c mem => ?_, fun c mem => ?_, List.isChain_append.mpr ⟨solid.single, ?_, ?_⟩⟩
  · rw [List.head?_append_of_ne_nil _ nonempty] at mem
    exact solid.head c mem
  · rw [List.getLast?_append_of_ne_nil _ (by simp), List.getLast?_cons_of_ne_nil filled] at mem
    exact tidy.last c mem
  · exact List.isChain_cons.mpr ⟨fun c mem => .inr (tidy.head c mem), tidy.single⟩
  · exact fun c mem _ _ => .inl (solid.last c mem)

theorem tidy_intercalate {parts : List (List Char)}
    (h : ∀ word ∈ parts, word ≠ [] ∧ ∀ c ∈ word, isSpace c = false) : Tidy ([' '].intercalate parts) := by
  induction parts with
  | nil => exact tidy_of_forall_not (by simp [List.intercalate])
  | cons word rest ih =>
    obtain ⟨nonempty, solid⟩ := h word (by simp)
    have others := ih fun word mem => h word (List.mem_cons_of_mem _ mem)
    cases rest with
    | nil => simpa [List.intercalate] using tidy_of_forall_not solid
    | cons next later =>
      have filled : [' '].intercalate (next :: later) ≠ [] := by
        have first := (h next (by simp)).1
        cases later <;> simp [List.intercalate, first]
      rw [List.intercalate_cons_cons, List.append_assoc, List.singleton_append]
      exact others.join nonempty solid filled

end PyText
