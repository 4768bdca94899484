import DeliveryService.PyText
import Mathlib.Data.Rat.Defs
import Mathlib.Data.Nat.Digits.Defs

namespace PyJson

/-- A Python float; a finite one is its value. -/
inductive PyFloat
  | finite (x : Rat)
  | inf (negative : Bool)
  | nan
deriving DecidableEq

/-- What `json.loads` returns. -/
inductive Json
  | null
  | bool (b : Bool)
  | int (n : Int)
  | float (x : PyFloat)
  | str (text : String)
  | list (items : List Json)
  | dict (fields : List (String × Json))

/-- The exceptions of `json.loads`: a `ValueError` (`JSONDecodeError` is one), or a `RecursionError`. -/
inductive LoadsError
  | valueError
  | recursionError
deriving DecidableEq

/-- The interpreter that reads the text: `float(text)`, the deepest nesting it follows, and the longest decimal
integer it converts. -/
structure Reader where
  float : List Char → Option PyFloat
  depth : Nat
  digits : Nat

/-- A list or a dictionary that is being read. -/
inductive Frame
  | list (items : List Json)
  | dict (fields : List (String × Json)) (key : String)

/-- How far an escape in a string has been read. -/
inductive Escape
  | none
  | backslash
  | hex (digits : List Nat)

/-- The parts of a number. -/
inductive NumberPart
  | minus
  | zero
  | int
  | dot
  | fraction
  | exponent
  | exponentSign
  | exponentDigits
deriving DecidableEq

/-- What the scanner expects next. -/
inductive Mode
  | value
  | firstItem
  | firstKey
  | nextKey
  | colon
  | comma
  | string (isKey : Bool) (units : List Nat) (escape : Escape)
  | number (text : List Char) (part : NumberPart)
  | literal (rest : List Char) (value : Json)
  | done (value : Json)

structure Scanner where
  stack : List Frame := []
  mode : Mode := .value

def isBlank (c : Char) : Bool := c = ' ' || c = '\t' || c = '\n' || c = '\r'

def hexValue (c : Char) : Option Nat :=
  if c.isDigit then some (c.toNat - 48)
  else if 97 ≤ c.toNat ∧ c.toNat ≤ 102 then some (c.toNat - 87)
  else if 65 ≤ c.toNat ∧ c.toNat ≤ 70 then some (c.toNat - 55)
  else none

def isHighSurrogate (unit : Nat) : Bool := 0xd800 ≤ unit && unit ≤ 0xdbff

def isLowSurrogate (unit : Nat) : Bool := 0xdc00 ≤ unit && unit ≤ 0xdfff

/-- The text of the units of a string: two surrogates make one character, and a lone one, which no `Char` is, is
held as U+FFFD. -/
def decodeUnits : List Nat → List Char
  | [] => []
  | high :: low :: rest =>
    if isHighSurrogate high && isLowSurrogate low then
      Char.ofNat (0x10000 + (high - 0xd800) * 0x400 + (low - 0xdc00)) :: decodeUnits rest
    else
      (if isHighSurrogate high || isLowSurrogate high then Char.ofNat 0xfffd else Char.ofNat high) ::
        decodeUnits (low :: rest)
  | [unit] => [if isHighSurrogate unit || isLowSurrogate unit then Char.ofNat 0xfffd else Char.ofNat unit]

/-- Assignment to a key of a dictionary. -/
def assign (fields : List (String × Json)) (key : String) (value : Json) : List (String × Json) :=
  if fields.any fun field => field.1 = key then
    fields.map fun field => if field.1 = key then (key, value) else field
  else fields ++ [(key, value)]

/-- A value is complete: it is the document, or it goes into the innermost container. -/
def complete (stack : List Frame) (value : Json) : Scanner :=
  match stack with
  | [] => ⟨[], .done value⟩
  | .list items :: rest => ⟨.list (items ++ [value]) :: rest, .comma⟩
  | .dict fields key :: rest => ⟨.dict (assign fields key value) key :: rest, .comma⟩

/-- A string is complete: it is a value, or the next key of the innermost dictionary. -/
def completeString (stack : List Frame) (isKey : Bool) (units : List Nat) : Except LoadsError Scanner :=
  let text := String.ofList (decodeUnits units)
  if isKey then
    match stack with
    | .dict fields _ :: rest => .ok ⟨.dict fields text :: rest, .colon⟩
    | _ => .error .valueError
  else .ok (complete stack (.str text))

def NumberPart.next (part : NumberPart) (c : Char) : Option NumberPart :=
  let point : Option NumberPart := if c = '.' then some .dot else none
  let power : Option NumberPart := if c = 'e' || c = 'E' then some .exponent else none
  match part with
  | .minus => if c = '0' then some .zero else if c.isDigit then some .int else none
  | .zero => point.or power
  | .int => if c.isDigit then some .int else point.or power
  | .dot => if c.isDigit then some .fraction else none
  | .fraction => if c.isDigit then some .fraction else power
  | .exponent =>
    if c = '+' || c = '-' then some .exponentSign else if c.isDigit then some .exponentDigits else none
  | .exponentSign | .exponentDigits => if c.isDigit then some .exponentDigits else none

/-- The value of an integer literal. -/
def literalInt (text : List Char) : Int :=
  let size : Int := Nat.ofDigitChars 10 (text.filter Char.isDigit) 0
  if text.head? = some '-' then -size else size

/-- `int(text)` of an integer literal that is not too long. -/
def intLiteral (reader : Reader) (text : List Char) : Except LoadsError Json :=
  if reader.digits < (text.filter Char.isDigit).length then .error .valueError else .ok (.int (literalInt text))

/-- The value of a number that ends here. -/
def numberValue (reader : Reader) (text : List Char) (part : NumberPart) : Except LoadsError Json :=
  match part with
  | .zero | .int => intLiteral reader text
  | .fraction | .exponentDigits => match reader.float text with
    | some x => .ok (.float x)
    | none => .error .valueError
  | .minus | .dot | .exponent | .exponentSign => .error .valueError

/-- The start of a value. -/
def startValue (reader : Reader) (stack : List Frame) (c : Char) : Except LoadsError Scanner :=
  let enter (frame : Frame) (mode : Mode) : Except LoadsError Scanner :=
    if reader.depth ≤ stack.length then .error .recursionError else .ok ⟨frame :: stack, mode⟩
  if c = '"' then .ok ⟨stack, .string false [] .none⟩
  else if c = '[' then enter (.list []) .firstItem
  else if c = '\x7b' then enter (.dict [] "") .firstKey
  else if c = 'n' then .ok ⟨stack, .literal "ull".toList .null⟩
  else if c = 't' then .ok ⟨stack, .literal "rue".toList (.bool true)⟩
  else if c = 'f' then .ok ⟨stack, .literal "alse".toList (.bool false)⟩
  else if c = 'N' then .ok ⟨stack, .literal "aN".toList (.float .nan)⟩
  else if c = 'I' then .ok ⟨stack, .literal "nfinity".toList (.float (.inf false))⟩
  else if c = '-' then .ok ⟨stack, .number [c] .minus⟩
  else match NumberPart.minus.next c with
    | some part => .ok ⟨stack, .number [c] part⟩
    | none => .error .valueError

/-- One character where no string, number or literal is open. -/
def stepBetween (reader : Reader) (scanner : Scanner) (c : Char) : Except LoadsError Scanner :=
  if isBlank c then .ok scanner
  else match scanner.mode with
    | .value => startValue reader scanner.stack c
    | .firstItem => match scanner.stack with
      | .list items :: rest =>
        if c = ']' then .ok (complete rest (.list items)) else startValue reader scanner.stack c
      | _ => .error .valueError
    | .firstKey => match scanner.stack with
      | .dict fields _ :: rest =>
        if c = '\x7d' then .ok (complete rest (.dict fields))
        else if c = '"' then .ok ⟨scanner.stack, .string true [] .none⟩
        else .error .valueError
      | _ => .error .valueError
    | .nextKey => if c = '"' then .ok ⟨scanner.stack, .string true [] .none⟩ else .error .valueError
    | .colon => if c = ':' then .ok ⟨scanner.stack, .value⟩ else .error .valueError
    | .comma => match scanner.stack with
      | .list items :: rest =>
        if c = ']' then .ok (complete rest (.list items))
        else if c = ',' then .ok ⟨scanner.stack, .value⟩
        else .error .valueError
      | .dict fields _ :: rest =>
        if c = '\x7d' then .ok (complete rest (.dict fields))
        else if c = ',' then .ok ⟨scanner.stack, .nextKey⟩
        else .error .valueError
      | [] => .error .valueError
    | _ => .error .valueError

/-- One character of a string. -/
def stepString (stack : List Frame) (isKey : Bool) (units : List Nat) (escape : Escape) (c : Char) :
    Except LoadsError Scanner :=
  let go (units : List Nat) (escape : Escape) : Except LoadsError Scanner := .ok ⟨stack, .string isKey units escape⟩
  match escape with
  | .none =>
    if c = '"' then completeString stack isKey units
    else if c = '\\' then go units .backslash
    else if c.toNat < 32 then .error .valueError
    else go (units ++ [c.toNat]) .none
  | .backslash =>
    if c = '"' || c = '\\' || c = '/' then go (units ++ [c.toNat]) .none
    else if c = 'b' then go (units ++ [8]) .none
    else if c = 'f' then go (units ++ [12]) .none
    else if c = 'n' then go (units ++ [10]) .none
    else if c = 'r' then go (units ++ [13]) .none
    else if c = 't' then go (units ++ [9]) .none
    else if c = 'u' then go units (.hex [])
    else .error .valueError
  | .hex digits => match hexValue c with
    | none => .error .valueError
    | some digit =>
      if digits.length < 3 then go units (.hex (digits ++ [digit]))
      else go (units ++ [Nat.ofDigits 16 (digits ++ [digit]).reverse]) .none

def step (reader : Reader) (scanner : Scanner) (c : Char) : Except LoadsError Scanner :=
  match scanner.mode with
  | .string isKey units escape => stepString scanner.stack isKey units escape c
  | .number text part =>
    -- `-Infinity` begins like a number
    if part = .minus ∧ c = 'I' then .ok ⟨scanner.stack, .literal "nfinity".toList (.float (.inf true))⟩
    else match part.next c with
      | some part => .ok ⟨scanner.stack, .number (text ++ [c]) part⟩
      | none => do
        let value ← numberValue reader text part
        stepBetween reader (complete scanner.stack value) c
  | .literal rest value => match rest with
    | [] => .error .valueError
    | [last] => if c = last then .ok (complete scanner.stack value) else .error .valueError
    | next :: more => if c = next then .ok ⟨scanner.stack, .literal more value⟩ else .error .valueError
  | _ => stepBetween reader scanner c

/-- The end of the text. -/
def finish (reader : Reader) (scanner : Scanner) : Except LoadsError Json :=
  match scanner.stack, scanner.mode with
  | [], .done value => .ok value
  | [], .number text part => numberValue reader text part
  | _, _ => .error .valueError

/-- `json.loads` -/
def loads (reader : Reader) (text : List Char) : Except LoadsError Json := do
  let scanner ← text.foldlM (step reader) {}
  finish reader scanner

/-- `payload[key]` and `payload.get(key)` -/
def field? (fields : List (String × Json)) (key : String) : Option Json :=
  (fields.find? fun field => field.1 = key).map Prod.snd

/-- The scanner expects a value. -/
def Scanner.ExpectsValue (scanner : Scanner) : Prop :=
  scanner.mode = .value ∨ scanner.mode = .firstItem ∧ ∃ items rest, scanner.stack = .list items :: rest

/-- The text opens a list or a dictionary inside as many open ones as the interpreter follows. -/
def TooDeep (reader : Reader) (text : List Char) : Prop :=
  ∃ (before : List Char) (c : Char) (rest : List Char) (scanner : Scanner), text = before ++ c :: rest ∧
    before.foldlM (step reader) {} = .ok scanner ∧ scanner.ExpectsValue ∧ (c = '[' ∨ c = '\x7b') ∧
    reader.depth ≤ scanner.stack.length

section

variable {reader : Reader} {scanner : Scanner} {c : Char}

theorem startValue_recursion_iff {stack : List Frame} :
    startValue reader stack c = .error .recursionError ↔ (c = '[' ∨ c = '\x7b') ∧ reader.depth ≤ stack.length := by
  unfold startValue
  by_cases quote : c = '"'
  · simp [quote]
  by_cases list : c = '['
  · simp [list]
  by_cases dict : c = '\x7b'
  · simp [dict]
  · simp only [quote, list, dict, if_false, false_or, false_and, iff_false]
    split_ifs <;> try simp
    split <;> simp

theorem numberValue_ne_recursion (text : List Char) (part : NumberPart) :
    numberValue reader text part ≠ .error .recursionError := by
  have literal : intLiteral reader text ≠ .error .recursionError := by
    unfold intLiteral
    split_ifs <;> simp
  unfold numberValue
  cases part with
  | zero => exact literal
  | int => exact literal
  | fraction => cases reader.float text <;> simp
  | exponentDigits => cases reader.float text <;> simp
  | _ => simp

theorem completeString_ne_recursion (stack : List Frame) (isKey : Bool) (units : List Nat) :
    completeString stack isKey units ≠ .error .recursionError := by
  unfold completeString
  split_ifs
  · split <;> simp
  · simp

theorem stepString_ne_recursion (stack : List Frame) (isKey : Bool) (units : List Nat) (escape : Escape) :
    stepString stack isKey units escape c ≠ .error .recursionError := by
  unfold stepString
  cases escape with
  | none =>
    simp only
    split_ifs
    · exact completeString_ne_recursion stack isKey units
    all_goals simp
  | backslash =>
    simp only
    split_ifs <;> simp
  | hex digits =>
    cases hexValue c with
    | none => simp
    | some digit =>
      simp only
      split_ifs <;> simp

theorem stepBetween_recursion_iff : stepBetween reader scanner c = .error .recursionError ↔
    scanner.ExpectsValue ∧ (c = '[' ∨ c = '\x7b') ∧ reader.depth ≤ scanner.stack.length := by
  obtain ⟨stack, mode⟩ := scanner
  unfold stepBetween Scanner.ExpectsValue
  by_cases blank : isBlank c = true
  · have other : ¬ (c = '[' ∨ c = '\x7b') := by
      rintro (rfl | rfl)
      · simp [isBlank] at blank
      · simp [isBlank] at blank
    simp [blank, other]
  rw [if_neg blank]
  cases mode with
  | value => simp [startValue_recursion_iff]
  | firstItem =>
    cases stack with
    | nil => simp
    | cons frame rest =>
      cases frame with
      | list items =>
        by_cases closing : c = ']'
        · simp [closing]
        · simp [closing, startValue_recursion_iff]
      | dict fields key => simp
  | firstKey =>
    simp only [reduceCtorEq, false_and, or_self, iff_false]
    split
    · split_ifs <;> simp
    · simp
  | comma =>
    simp only [reduceCtorEq, false_and, or_self, iff_false]
    split
    · split_ifs <;> simp
    · split_ifs <;> simp
    · simp
  | nextKey =>
    simp only [reduceCtorEq, false_and, or_self, iff_false]
    split_ifs <;> simp
  | colon =>
    simp only [reduceCtorEq, false_and, or_self, iff_false]
    split_ifs <;> simp
  | _ => simp

/-- After a value no other value is expected. -/
theorem complete_expects (stack : List Frame) (value : Json) : ¬ (complete stack value).ExpectsValue := by
  unfold complete Scanner.ExpectsValue
  split <;> simp

theorem step_recursion_iff : step reader scanner c = .error .recursionError ↔
    scanner.ExpectsValue ∧ (c = '[' ∨ c = '\x7b') ∧ reader.depth ≤ scanner.stack.length := by
  obtain ⟨stack, mode⟩ := scanner
  cases mode with
  | string isKey units escape =>
    refine iff_of_false (stepString_ne_recursion stack isKey units escape) ?_
    simp [Scanner.ExpectsValue]
  | number text part =>
    refine iff_of_false ?_ (by simp [Scanner.ExpectsValue])
    unfold step
    simp only
    split_ifs
    · simp
    · split
      · simp
      · cases read : numberValue reader text part with
        | error e =>
          intro failed
          have same : e = .recursionError := Except.error.inj failed
          exact numberValue_ne_recursion text part (read.trans (congrArg Except.error same))
        | ok value =>
          intro failed
          exact complete_expects stack value (stepBetween_recursion_iff.mp failed).1
  | literal rest value =>
    refine iff_of_false ?_ (by simp [Scanner.ExpectsValue])
    unfold step
    simp only
    split
    · simp
    · split_ifs <;> simp
    · split_ifs <;> simp
  | _ => exact stepBetween_recursion_iff

theorem finish_ne_recursion : finish reader scanner ≠ .error .recursionError := by
  unfold finish
  split
  · simp
  · exact numberValue_ne_recursion _ _
  · simp

/-- A fold stops at the first character that gives an error. -/
theorem foldlM_error_iff {text : List Char} {e : LoadsError} :
    text.foldlM (step reader) scanner = .error e ↔ ∃ (before : List Char) (c : Char) (rest : List Char)
      (reached : Scanner), text = before ++ c :: rest ∧ before.foldlM (step reader) scanner = .ok reached ∧
        step reader reached c = .error e := by
  induction text generalizing scanner with
  | nil => simp [pure, Except.pure]
  | cons d text ih =>
    rw [List.foldlM_cons]
    cases taken : step reader scanner d with
    | error e' =>
      change Except.error e' = .error e ↔ _
      constructor
      · intro same
        exact ⟨[], d, text, scanner, rfl, rfl, taken.trans same⟩
      · rintro ⟨before, c, rest, reached, split, read, failed⟩
        cases before with
        | nil =>
          obtain ⟨rfl, rfl⟩ := List.cons.inj split
          obtain rfl := Except.ok.inj read
          exact taken.symm.trans failed
        | cons d' before =>
          obtain ⟨rfl, rfl⟩ := List.cons.inj split
          rw [List.foldlM_cons, taken] at read
          exact absurd read nofun
    | ok next =>
      change text.foldlM (step reader) next = _ ↔ _
      rw [ih]
      constructor
      · rintro ⟨before, c, rest, reached, rfl, read, failed⟩
        refine ⟨d :: before, c, rest, reached, rfl, ?_, failed⟩
        rw [List.foldlM_cons, taken]
        exact read
      · rintro ⟨before, c, rest, reached, split, read, failed⟩
        cases before with
        | nil =>
          obtain ⟨rfl, rfl⟩ := List.cons.inj split
          obtain rfl := Except.ok.inj read
          rw [taken] at failed
          exact absurd failed nofun
        | cons d' before =>
          obtain ⟨rfl, rfl⟩ := List.cons.inj split
          rw [List.foldlM_cons, taken] at read
          exact ⟨before, c, rest, reached, rfl, read, failed⟩

theorem loads_recursion_iff {text : List Char} :
    loads reader text = .error .recursionError ↔ TooDeep reader text := by
  unfold TooDeep
  simp only [← step_recursion_iff, ← foldlM_error_iff]
  unfold loads
  cases text.foldlM (step reader) {} with
  | error e => simp only [bind, Except.bind, Except.error.injEq]
  | ok reached =>
    refine iff_of_false ?_ nofun
    exact finish_ne_recursion

end

end PyJson
