import DeliveryService.Commands
import DeliveryService.Events
import DeliveryService.PyJson
import Mathlib.Algebra.Field.Rat
import Mathlib.Data.Rat.Lemmas
import Mathlib.Tactic.Ring

namespace DeliveryService

open PyJson

/-- The text is a JSON number with a fraction or an exponent. -/
def IsFloatLiteral (text : List Char) : Prop :=
  ∃ sign body part, text = sign ++ body ∧ (sign = [] ∨ sign = ['-']) ∧
    body.foldlM NumberPart.next .minus = some part ∧ (part = .fraction ∨ part = .exponentDigits)

/-- The value is that of a double. -/
def IsDouble (x : Rat) : Prop :=
  ∃ m e : Int, m.natAbs < 2 ^ 53 ∧ -1074 ≤ e ∧ e ≤ 971 ∧ x = m * 2 ^ e

/-- The texts of floats: `repr(x)`, which `float` reads back. -/
structure FloatText where
  repr : Rat → List Char
  float : List Char → Option PyFloat
  literal : ∀ x, IsFloatLiteral (repr x)
  exact : ∀ x, IsDouble x → float (repr x) = some (.finite x)

/-- The limits of the interpreter: how deep it nests containers when it reads and when it prints them, and how many
digits a decimal integer may have. -/
structure Limits where
  loads : Nat
  str : Nat
  digits : Nat
  nests : 1 ≤ loads

section

variable (floats : FloatText) (limits : Limits)

def reader : Reader := ⟨floats.float, limits.loads, limits.digits⟩

/-- `json.dumps` of a float. -/
def dumpsFloat : PyFloat → List Char
  | .finite x => floats.repr x
  | .inf negative => if negative then "-Infinity".toList else "Infinity".toList
  | .nan => "NaN".toList

/-- `json.dumps` of a number, a text or `None`. -/
def dumpsValue : JsonValue → List Char
  | .null => "null".toList
  | .int n => jsonInt n
  | .float x => dumpsFloat floats x
  | .str text => jsonString text

def dumpsField (field : String × JsonValue) : List Char := jsonString field.1 ++ ':' :: dumpsValue floats field.2

/-- `json.dumps(payload, ensure_ascii=False, separators=(",", ":"))` -/
def dumps (payload : Payload) : List Char :=
  '\x7b' :: [','].intercalate (payload.map (dumpsField floats)) ++ ['\x7d']

/-- Finite floats are doubles, and integers not too long to be written. -/
def JsonValue.Printable : JsonValue → Prop
  | .float (.finite x) => IsDouble x
  | .int n => (Nat.toDigits 10 n.natAbs).length ≤ limits.digits
  | _ => True

end

/-- The value that `json.loads` gives back. -/
def JsonValue.loaded : JsonValue → Json
  | .null => .null
  | .int n => .int n
  | .float x => .float x
  | .str text => .str text

section

variable {reader : Reader} {stack : List Frame}

theorem step_number {text : List Char} {part next : NumberPart} {c : Char} (h : part.next c = some next) :
    step reader ⟨stack, .number text part⟩ c = .ok ⟨stack, .number (text ++ [c]) next⟩ := by
  have plain : ¬ (part = .minus ∧ c = 'I') := by
    rintro ⟨rfl, rfl⟩
    simp [NumberPart.next] at h
  simp [step, plain, h]

theorem scan_number {body text : List Char} {part last : NumberPart}
    (h : body.foldlM NumberPart.next part = some last) :
    body.foldlM (step reader) ⟨stack, .number text part⟩ = .ok ⟨stack, .number (text ++ body) last⟩ := by
  induction body generalizing text part with
  | nil =>
    cases h
    simp
    rfl
  | cons c rest ih =>
    rw [List.foldlM_cons] at h ⊢
    obtain ⟨next, taken, others⟩ := Option.bind_eq_some_iff.mp h
    rw [step_number taken]
    refine (ih others).trans ?_
    simp

theorem step_digit {c : Char} {part : NumberPart} (h : NumberPart.minus.next c = some part) :
    step reader ⟨stack, .value⟩ c = .ok ⟨stack, .number [c] part⟩ := by
  have digit : c.isDigit = true := by
    by_contra other
    by_cases zero : c = '0' <;> simp_all [NumberPart.next]
  have differs (d : Char) (h : d.isDigit = false) : c ≠ d := by
    rintro rfl
    rw [digit] at h
    cases h
  have blank : isBlank c = false := by
    simp [isBlank, differs ' ' rfl, differs '\t' rfl, differs '\n' rfl, differs '\r' rfl]
  simp [step, stepBetween, blank, startValue, h, differs '"' rfl, differs '[' rfl, differs '\x7b' rfl, differs 'n' rfl,
    differs 't' rfl, differs 'f' rfl, differs 'N' rfl, differs 'I' rfl, differs '-' rfl]

/-- A signed or unsigned number is read to its last character. -/
theorem scan_signed (reader : Reader) (stack : List Frame) {sign body : List Char} {part : NumberPart}
    (signed : sign = [] ∨ sign = ['-']) (h : body.foldlM NumberPart.next .minus = some part) (filled : body ≠ []) :
    (sign ++ body).foldlM (step reader) ⟨stack, .value⟩ = .ok ⟨stack, .number (sign ++ body) part⟩ := by
  rcases signed with rfl | rfl
  · obtain ⟨c, rest, rfl⟩ := List.exists_cons_of_ne_nil filled
    rw [List.foldlM_cons] at h
    obtain ⟨next, taken, others⟩ := Option.bind_eq_some_iff.mp h
    rw [List.nil_append, List.foldlM_cons, step_digit taken]
    exact scan_number others
  · have minus : step reader ⟨stack, .value⟩ '-' = .ok ⟨stack, .number ['-'] .minus⟩ := rfl
    rw [List.cons_append, List.nil_append, List.foldlM_cons, minus]
    exact scan_number h

theorem digitsOf_succ {n : Nat} (h : 0 < n) : ∃ c rest, Nat.toDigits 10 n = c :: rest ∧
    NumberPart.minus.next c = some .int ∧ ∀ d ∈ rest, d.isDigit = true := by
  have digit : ∀ d < 10, (Nat.digitChar d).isDigit = true := by decide
  have first : ∀ d < 10, 0 < d → NumberPart.minus.next (Nat.digitChar d) = some .int := by decide
  induction n using Nat.strong_induction_on with
  | _ n ih =>
    by_cases small : n < 10
    · exact ⟨_, [], Nat.toDigits_of_lt_base small, first n small h, by simp⟩
    · obtain ⟨c, rest, shape, leading, others⟩ := ih (n / 10) (by omega) (by omega)
      refine ⟨c, rest ++ [Nat.digitChar (n % 10)], ?_, leading, ?_⟩
      · rw [Nat.toDigits_of_base_le (by decide) (by omega), shape, List.cons_append]
      · intro d mem
        rcases List.mem_append.mp mem with old | last
        · exact others d old
        · rw [List.mem_singleton.mp last]
          exact digit _ (Nat.mod_lt _ (by decide))

/-- A part of a number that goes on with every digit takes them all. -/
theorem scan_digits {part : NumberPart} (goes_on : ∀ d, d.isDigit = true → part.next d = some part)
    {digits : List Char} (h : ∀ d ∈ digits, d.isDigit = true) : digits.foldlM NumberPart.next part = some part := by
  induction digits with
  | nil => rfl
  | cons d rest ih =>
    rw [List.foldlM_cons, goes_on d (h d (by simp))]
    exact ih fun x mem => h x (by simp [mem])

/-- The digits of a natural number are an integer literal. -/
theorem toDigits_literal (n : Nat) : ∃ part, (Nat.toDigits 10 n).foldlM NumberPart.next .minus = some part ∧
    (part = .zero ∨ part = .int) := by
  rcases Nat.eq_zero_or_pos n with rfl | positive
  · exact ⟨.zero, by rw [Nat.toDigits_zero]; rfl, .inl rfl⟩
  · obtain ⟨c, rest, shape, leading, others⟩ := digitsOf_succ positive
    refine ⟨.int, ?_, .inr rfl⟩
    rw [shape, List.foldlM_cons, leading]
    exact scan_digits (fun d digit => by simp [NumberPart.next, digit]) others

theorem filter_toDigits (n : Nat) : (Nat.toDigits 10 n).filter Char.isDigit = Nat.toDigits 10 n := by
  rw [List.filter_eq_self]
  intro c mem
  exact Nat.isDigit_of_mem_toDigits (by decide) (by decide) mem

theorem filter_jsonInt (n : Int) : (jsonInt n).filter Char.isDigit = Nat.toDigits 10 n.natAbs := by
  unfold jsonInt
  split_ifs
  · rw [List.filter_cons_of_neg (by decide), filter_toDigits]
  · exact filter_toDigits _

theorem jsonInt_signed (n : Int) : jsonInt n = (if n < 0 then ['-'] else []) ++ Nat.toDigits 10 n.natAbs := by
  unfold jsonInt
  split_ifs <;> rfl

theorem notMem_toDigits {c : Char} (other : c.isDigit = false) (n : Nat) : c ∉ Nat.toDigits 10 n := by
  intro mem
  rw [Nat.isDigit_of_mem_toDigits (by decide) (by decide) mem] at other
  cases other

theorem literalInt_jsonInt (n : Int) : literalInt (jsonInt n) = n := by
  have head : (jsonInt n).head? = some '-' ↔ n < 0 := by
    unfold jsonInt
    split_ifs with negative
    · simp [negative]
    · refine iff_of_false (fun minus => ?_) negative
      exact notMem_toDigits rfl _ (List.mem_of_head? minus)
  simp only [literalInt, filter_jsonInt, Nat.ofDigitChars_ten_toDigits, head]
  split_ifs <;> omega

theorem jsonInt_injective : Function.Injective jsonInt := by
  intro m n same
  rw [← literalInt_jsonInt m, same, literalInt_jsonInt]

theorem toDigits_injective : Function.Injective (Nat.toDigits 10) := by
  intro m n same
  rw [← Nat.ofDigitChars_ten_toDigits (n := m), same, Nat.ofDigitChars_ten_toDigits]

theorem toList_toString_nat (n : Nat) : (toString n).toList = Nat.toDigits 10 n := Nat.toList_repr

theorem toList_toString_int (n : Int) : (toString n).toList = jsonInt n := by
  cases n with
  | ofNat m => exact toList_toString_nat m
  | negSucc m =>
    have text : toString (Int.negSucc m) = "-" ++ toString (m + 1) := rfl
    have minus : "-".toList = ['-'] := by decide
    rw [text, String.toList_append, toList_toString_nat, minus, jsonInt, if_pos (Int.negSucc_lt_zero m)]
    rfl

theorem notMem_jsonInt {c : Char} (other : c.isDigit = false) (unsigned : c ≠ '-') (n : Int) : c ∉ jsonInt n := by
  rw [jsonInt_signed]
  intro mem
  rcases List.mem_append.mp mem with sign | digit
  · split_ifs at sign
    · exact unsigned (List.mem_singleton.mp sign)
    · cases sign
  · exact notMem_toDigits other _ digit

theorem numberValue_jsonInt {n : Int} (fits : (Nat.toDigits 10 n.natAbs).length ≤ reader.digits) {part : NumberPart}
    (whole : part = .zero ∨ part = .int) : numberValue reader (jsonInt n) part = .ok (.int n) := by
  have shape : numberValue reader (jsonInt n) part = intLiteral reader (jsonInt n) := by
    rcases whole with rfl | rfl <;> rfl
  rw [shape, intLiteral, filter_jsonInt, if_neg (Nat.not_lt.mpr fits), literalInt_jsonInt]

theorem scan_jsonInt (reader : Reader) (stack : List Frame) {n : Int}
    (fits : (Nat.toDigits 10 n.natAbs).length ≤ reader.digits) : ∃ part,
    (jsonInt n).foldlM (step reader) ⟨stack, .value⟩ = .ok ⟨stack, .number (jsonInt n) part⟩ ∧
    numberValue reader (jsonInt n) part = .ok (.int n) := by
  obtain ⟨part, read, whole⟩ := toDigits_literal n.natAbs
  refine ⟨part, ?_, numberValue_jsonInt fits whole⟩
  rw [jsonInt_signed]
  exact scan_signed reader stack (by split_ifs <;> simp) read Nat.toDigits_ne_nil

/-- A character that ends a value inside a dictionary. -/
def EndsValue (c : Char) : Prop := c = ',' ∨ c = '\x7d'

theorem next_of_endsValue {c : Char} (ending : EndsValue c) (part : NumberPart) : part.next c = none := by
  rcases ending with rfl | rfl <;> cases part <;> rfl

theorem step_number_end {text : List Char} {part : NumberPart} {c : Char} {value : Json} (ending : EndsValue c)
    (read : numberValue reader text part = .ok value) :
    step reader ⟨stack, .number text part⟩ c = stepBetween reader (complete stack value) c := by
  have plain : ¬ (part = .minus ∧ c = 'I') := by
    rintro ⟨-, rfl⟩
    rcases ending with h | h <;> simp at h
  simp only [step, if_neg plain, next_of_endsValue ending, read]
  rfl

theorem step_complete (value : Json) (c : Char) :
    step reader (complete stack value) c = stepBetween reader (complete stack value) c := by
  cases stack with
  | nil => rfl
  | cons frame rest => cases frame <;> rfl

theorem hexValue_digitChar : ∀ d < 16, PyJson.hexValue (Nat.digitChar d) = some d := by decide

theorem scan_escape {isKey : Bool} {units : List Nat} (c : Char) :
    (jsonEscape c).foldlM (step reader) ⟨stack, .string isKey units .none⟩ =
      .ok ⟨stack, .string isKey (units ++ [c.toNat]) .none⟩ := by
  unfold jsonEscape
  split_ifs with quote backslash feed back tab bell page control
  · subst quote
    rfl
  · subst backslash
    rfl
  · subst feed
    rfl
  · subst back
    rfl
  · subst tab
    rfl
  · rw [bell]
    rfl
  · rw [page]
    rfl
  · have high := hexValue_digitChar (c.toNat / 16) (by omega)
    have low := hexValue_digitChar (c.toNat % 16) (by omega)
    have unit : Nat.ofDigits 16 [c.toNat % 16, c.toNat / 16, 0, 0] = c.toNat := by
      simp only [Nat.ofDigits_cons, Nat.ofDigits_nil]
      push_cast
      omega
    have zero : PyJson.hexValue '0' = some 0 := rfl
    simp [List.foldlM_cons, step, stepString, zero, high, low, unit, bind, Except.bind]
    rfl
  · have shown : ¬ c.toNat < 32 := control
    simp [step, stepString, quote, backslash, shown]

theorem scan_text {isKey : Bool} {units : List Nat} (text : List Char) :
    (text.flatMap jsonEscape).foldlM (step reader) ⟨stack, .string isKey units .none⟩ =
      .ok ⟨stack, .string isKey (units ++ text.map Char.toNat) .none⟩ := by
  induction text generalizing units with
  | nil =>
    simp
    rfl
  | cons c rest ih =>
    rw [List.flatMap_cons, List.foldlM_append, scan_escape]
    refine Eq.trans ih ?_
    simp

theorem decodeUnits_toNat (text : List Char) : decodeUnits (text.map Char.toNat) = text := by
  have whole (c : Char) : isHighSurrogate c.toNat = false ∧ isLowSurrogate c.toNat = false := by
    have valid := c.valid
    simp only [isHighSurrogate, isLowSurrogate, Bool.and_eq_false_iff, decide_eq_false_iff_not]
    change (c.toNat < 0xd800 ∨ _ < c.toNat ∧ _) at valid
    omega
  induction text with
  | nil => rfl
  | cons c rest ih =>
    cases rest with
    | nil => simp [decodeUnits, whole]
    | cons next others =>
      simp only [List.map_cons] at ih ⊢
      simp [decodeUnits, whole, ih]

/-- The characters of a string literal after its opening quote. -/
theorem scan_string_end {isKey : Bool} (text : String) :
    (text.toList.flatMap jsonEscape ++ ['"']).foldlM (step reader) ⟨stack, .string isKey [] .none⟩ =
      completeString stack isKey (text.toList.map Char.toNat) := by
  rw [List.foldlM_append, scan_text, List.nil_append]
  change step reader ⟨stack, .string isKey _ .none⟩ '"' >>= _ = _
  have closed : step reader ⟨stack, .string isKey (text.toList.map Char.toNat) .none⟩ '"' =
      completeString stack isKey (text.toList.map Char.toNat) := rfl
  rw [closed]
  exact bind_pure _

theorem scan_jsonString (text : String) :
    (jsonString text).foldlM (step reader) ⟨stack, .value⟩ = .ok (complete stack (.str text)) := by
  have opened : step reader ⟨stack, .value⟩ '"' = .ok ⟨stack, .string false [] .none⟩ := rfl
  rw [jsonString, List.cons_append, List.foldlM_cons, opened]
  refine scan_string_end text |>.trans ?_
  simp [completeString, decodeUnits_toNat]

/-- A key with its colon, where the dictionary expects one. -/
theorem scan_key {fields : List (String × Json)} {old key : String} {mode : Mode}
    (expected : mode = .firstKey ∨ mode = .nextKey) :
    (jsonString key ++ [':']).foldlM (step reader) ⟨.dict fields old :: stack, mode⟩ =
      .ok ⟨.dict fields key :: stack, .value⟩ := by
  have opened : step reader ⟨.dict fields old :: stack, mode⟩ '"' =
      .ok ⟨.dict fields old :: stack, .string true [] .none⟩ := by
    rcases expected with rfl | rfl <;> rfl
  have closed : (jsonString key).foldlM (step reader) ⟨.dict fields old :: stack, mode⟩ =
      .ok ⟨.dict fields key :: stack, .colon⟩ := by
    rw [jsonString, List.cons_append, List.foldlM_cons, opened]
    refine scan_string_end key |>.trans ?_
    simp [completeString, decodeUnits_toNat]
  rw [List.foldlM_append, closed]
  rfl

end

section

variable {floats : FloatText} {limits : Limits} {stack : List Frame}

theorem filled_of_literal {body : List Char} {part : NumberPart}
    (read : body.foldlM NumberPart.next .minus = some part) (other : part ≠ .minus) : body ≠ [] := by
  rintro rfl
  exact other (Option.some.inj read).symm

theorem scan_dumpsFloat {x : PyFloat} {c : Char} (printable : (JsonValue.float x).Printable limits)
    (ending : EndsValue c) :
    (dumpsFloat floats x).foldlM (step (reader floats limits)) ⟨stack, .value⟩ >>=
      (fun scanner => [c].foldlM (step (reader floats limits)) scanner) =
      stepBetween (reader floats limits) (complete stack (.float x)) c := by
  cases x with
  | finite x =>
    obtain ⟨sign, body, part, shape, signed, digits, kind⟩ := floats.literal x
    have filled : body ≠ [] := filled_of_literal digits (by rcases kind with rfl | rfl <;> simp)
    have read := scan_signed (reader floats limits) stack signed digits filled
    rw [← shape] at read
    have whole : numberValue (reader floats limits) (floats.repr x) part = .ok (.float (.finite x)) := by
      have exact : (reader floats limits).float (floats.repr x) = some (.finite x) := floats.exact x printable
      rcases kind with rfl | rfl <;> simp [numberValue, exact]
    rw [dumpsFloat, read]
    exact (bind_pure _).trans (step_number_end ending whole)
  | inf negative =>
    have read : (dumpsFloat floats (.inf negative)).foldlM (step (reader floats limits)) ⟨stack, .value⟩ =
        .ok (complete stack (.float (.inf negative))) := by
      cases negative <;> rfl
    rw [read]
    exact (bind_pure _).trans (step_complete _ _)
  | nan =>
    have read : "NaN".toList.foldlM (step (reader floats limits)) ⟨stack, .value⟩ =
        .ok (complete stack (.float .nan)) := rfl
    rw [dumpsFloat, read]
    exact (bind_pure _).trans (step_complete _ _)

/-- A value that was written is read back up to the character that ends it. -/
theorem scan_dumpsValue {value : JsonValue} {c : Char} (printable : value.Printable limits) (ending : EndsValue c) :
    (dumpsValue floats value ++ [c]).foldlM (step (reader floats limits)) ⟨stack, .value⟩ =
      stepBetween (reader floats limits) (complete stack value.loaded) c := by
  rw [List.foldlM_append]
  cases value with
  | null =>
    have read : "null".toList.foldlM (step (reader floats limits)) ⟨stack, .value⟩ = .ok (complete stack .null) := rfl
    rw [dumpsValue, read]
    refine (bind_pure _).trans (step_complete _ _)
  | int n =>
    obtain ⟨part, read, whole⟩ := scan_jsonInt (reader floats limits) stack printable
    rw [dumpsValue, read]
    exact (bind_pure _).trans (step_number_end ending whole)
  | float x => exact scan_dumpsFloat printable ending
  | str text =>
    rw [dumpsValue, scan_jsonString]
    exact (bind_pure _).trans (step_complete _ _)

theorem assign_absent {fields : List (String × Json)} {key : String} (value : Json)
    (absent : ∀ field ∈ fields, field.1 ≠ key) : assign fields key value = fields ++ [(key, value)] := by
  rw [assign, if_neg]
  simp only [List.any_eq_true, decide_eq_true_eq, not_exists, not_and]
  exact absent

theorem scan_dumpsField (floats : FloatText) {field : String × JsonValue} {c : Char}
    {fields : List (String × Json)} (old : String) {mode : Mode} (printable : field.2.Printable limits)
    (expected : mode = .firstKey ∨ mode = .nextKey) (absent : ∀ other ∈ fields, other.1 ≠ field.1)
    (ending : EndsValue c) :
    (dumpsField floats field ++ [c]).foldlM (step (reader floats limits)) ⟨[.dict fields old], mode⟩ =
      stepBetween (reader floats limits) ⟨[.dict (fields ++ [(field.1, field.2.loaded)]) field.1], .comma⟩ c := by
  have parts : dumpsField floats field ++ [c] =
      (jsonString field.1 ++ [':']) ++ (dumpsValue floats field.2 ++ [c]) := by simp [dumpsField]
  rw [parts, List.foldlM_append, scan_key expected]
  refine (scan_dumpsValue printable ending).trans ?_
  rw [complete, assign_absent _ absent]

theorem scan_dumpsFields {payload : Payload} {fields : List (String × Json)} {old : String} {mode : Mode}
    (filled : payload ≠ []) (printable : ∀ field ∈ payload, field.2.Printable limits)
    (distinct : (payload.map Prod.fst).Nodup) (absent : ∀ field ∈ payload, ∀ other ∈ fields, other.1 ≠ field.1)
    (expected : mode = .firstKey ∨ mode = .nextKey) :
    ([','].intercalate (payload.map (dumpsField floats)) ++ ['\x7d']).foldlM (step (reader floats limits))
        ⟨[.dict fields old], mode⟩ =
      .ok ⟨[], .done (.dict (fields ++ payload.map fun field => (field.1, field.2.loaded)))⟩ := by
  induction payload generalizing fields old mode with
  | nil => exact absurd rfl filled
  | cons field rest ih =>
    have first (c : Char) (ending : EndsValue c) := scan_dumpsField floats old (printable field (by simp)) expected
      (absent field (by simp)) ending
    cases rest with
    | nil =>
      rw [List.map_singleton, List.intercalate_singleton, first _ (.inr rfl)]
      rfl
    | cons next more =>
      rw [List.map_cons, List.nodup_cons] at distinct
      have parts : [','].intercalate ((field :: next :: more).map (dumpsField floats)) ++ ['\x7d'] =
          (dumpsField floats field ++ [',']) ++
            ([','].intercalate ((next :: more).map (dumpsField floats)) ++ ['\x7d']) := by
        simp [List.intercalate_cons_cons]
      rw [parts, List.foldlM_append, first _ (.inl rfl)]
      refine (ih (by simp) (fun field mem => printable field (by simp [mem])) distinct.2 ?_ (.inr rfl)).trans ?_
      · intro later mem other stored
        rcases List.mem_append.mp stored with old | new
        · exact absent later (by simp [mem]) other old
        · rw [List.mem_singleton.mp new]
          rintro (same : field.1 = later.1)
          exact distinct.1 (same ▸ List.mem_map_of_mem mem)
      · simp

/-- What was dumped is loaded again. -/
theorem loads_dumps {payload : Payload} (filled : payload ≠ [])
    (printable : ∀ field ∈ payload, field.2.Printable limits) (distinct : (payload.map Prod.fst).Nodup) :
    loads (reader floats limits) (dumps floats payload) =
      .ok (.dict (payload.map fun field => (field.1, field.2.loaded))) := by
  have room : ¬ (reader floats limits).depth ≤ 0 := by
    have := limits.nests
    change ¬ limits.loads ≤ 0
    omega
  have opened : step (reader floats limits) {} '\x7b' = .ok ⟨[.dict [] ""], .firstKey⟩ := by
    simp [step, stepBetween, isBlank, startValue, room]
  rw [loads, dumps, List.cons_append, List.foldlM_cons, opened]
  change List.foldlM _ _ _ >>= _ = _
  rw [scan_dumpsFields filled printable distinct (by simp) (.inl rfl)]
  rfl

end

theorem IsDouble.scaled {x : Rat} (double : IsDouble x) {places : Nat} (enough : 1074 ≤ places) :
    ∃ z : Int, x * 10 ^ places = z := by
  obtain ⟨m, e, -, low, -, rfl⟩ := double
  refine ⟨m * 2 ^ (e + places).toNat * 5 ^ places, ?_⟩
  have split : (10 : Rat) ^ places = 2 ^ places * 5 ^ places := by
    rw [← mul_pow]
    norm_num
  have shift : (2 : Rat) ^ e * 2 ^ places = 2 ^ (e + places).toNat := by
    rw [← zpow_natCast, ← zpow_natCast, ← zpow_add₀ (by norm_num)]
    congr 1
    omega
  push_cast
  rw [split, ← shift]
  ring

section

variable (places : Nat)

/-- A float by its exact decimal value. -/
def exactRepr (x : Rat) : List Char := jsonInt (x * 10 ^ places).num ++ ('e' :: '-' :: Nat.toDigits 10 places)

def exactFloat (text : List Char) : Option PyFloat :=
  some (.finite (literalInt (text.takeWhile (· ≠ 'e')) / 10 ^ places))

theorem takeWhile_exactRepr (x : Rat) : (exactRepr places x).takeWhile (· ≠ 'e') = jsonInt (x * 10 ^ places).num := by
  have plain : ∀ c ∈ jsonInt (x * 10 ^ places).num, (decide (c ≠ 'e')) = true := by
    intro c mem
    rw [decide_eq_true_iff]
    rintro rfl
    exact notMem_jsonInt rfl (by decide) _ mem
  rw [exactRepr, List.takeWhile_append_of_pos plain]
  simp

theorem exactRepr_literal (x : Rat) : IsFloatLiteral (exactRepr places x) := by
  generalize number : (x * 10 ^ places).num = n
  obtain ⟨part, read, whole⟩ := toDigits_literal n.natAbs
  have digits : ∀ d ∈ Nat.toDigits 10 places, d.isDigit = true :=
    fun d mem => Nat.isDigit_of_mem_toDigits (by decide) (by decide) mem
  obtain ⟨first, rest, power⟩ := List.exists_cons_of_ne_nil (Nat.toDigits_ne_nil (n := places) (b := 10))
  rw [power] at digits
  have leading : NumberPart.exponentSign.next first = some .exponentDigits := by
    simp [NumberPart.next, digits first (by simp)]
  refine ⟨if n < 0 then ['-'] else [], Nat.toDigits 10 n.natAbs ++ ('e' :: '-' :: Nat.toDigits 10 places),
    .exponentDigits, ?_, by split_ifs <;> simp, ?_, .inr rfl⟩
  · rw [exactRepr, number, jsonInt_signed, List.append_assoc]
  · have marked : part.next 'e' = some .exponent := by rcases whole with rfl | rfl <;> rfl
    have signed : NumberPart.exponent.next '-' = some .exponentSign := rfl
    rw [List.foldlM_append, read, power]
    simp only [List.foldlM_cons, marked, signed, leading, Option.bind_eq_bind, Option.bind_some]
    exact scan_digits (fun d digit => by simp [NumberPart.next, digit]) fun d mem => digits d (by simp [mem])

theorem exactFloat_exactRepr {x : Rat} (double : IsDouble x) (enough : 1074 ≤ places) :
    exactFloat places (exactRepr places x) = some (.finite x) := by
  obtain ⟨z, scaled⟩ := double.scaled enough
  rw [exactFloat, takeWhile_exactRepr, literalInt_jsonInt, scaled, Rat.num_intCast, ← scaled, mul_div_assoc,
    div_self (by positivity), mul_one]

end

/-- Floats that are written in full, to run programs on messages without floats. -/
def exactFloats : FloatText where
  repr := exactRepr 1074
  float := exactFloat 1074
  literal := exactRepr_literal 1074
  exact _ double := exactFloat_exactRepr 1074 double le_rfl

end DeliveryService
