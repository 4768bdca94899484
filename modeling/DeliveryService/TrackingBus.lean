import DeliveryService.JsonText
import DeliveryService.TrackingHub

namespace DeliveryService

open PyJson

/-- The exceptions that a message can raise, by class. -/
inductive PyError
  | valueError
  | keyError
  | attributeError
  | typeError
  | overflowError
  | recursionError
deriving DecidableEq

mutual

/-- How deep containers are nested in a value. -/
def depth : Json → Nat
  | .list items => depthOfItems items + 1
  | .dict fields => depthOfFields fields + 1
  | _ => 0

def depthOfItems : List Json → Nat
  | [] => 0
  | item :: rest => max (depth item) (depthOfItems rest)

def depthOfFields : List (String × Json) → Nat
  | [] => 0
  | field :: rest => max (depth field.2) (depthOfFields rest)

end

/-- The interpreter: floats and their texts, its limits, Unicode digits, `float(n)` of an integer in range, and
`str` of a container. -/
structure Interpreter where
  floats : FloatText
  limits : Limits
  decimals : PyText.DecimalDigits
  floatOfInt : Int → Rat
  strOfContainer : Json → String

namespace Interpreter

variable (py : Interpreter)

def reader : Reader := DeliveryService.reader py.floats py.limits

def strOfFloat : PyFloat → String
  | .finite x => String.ofList (py.floats.repr x)
  | .inf negative => if negative then "-inf" else "inf"
  | .nan => "nan"

/-- The value is nested too deep to be printed. -/
def TooDeep (value : Json) : Prop := py.limits.str < depth value

instance decidableTooDeep (value : Json) : Decidable (py.TooDeep value) := inferInstanceAs (Decidable (_ < _))

/-- `str(value)` -/
def str (value : Json) : Except PyError String :=
  match value with
  | .null => .ok "None"
  | .bool b => .ok (if b then "True" else "False")
  | .int n => .ok (String.ofList (jsonInt n))
  | .float x => .ok (py.strOfFloat x)
  | .str text => .ok text
  | .list _ | .dict _ => if py.TooDeep value then .error .recursionError else .ok (py.strOfContainer value)

/-- `UUID(text)` -/
def uuidOfText (text : String) : Except PyError UUID :=
  let digits := UUID.digitsOf text.toList
  if digits.length ≠ 32 then .error .valueError
  else match PyText.intHex py.decimals digits with
    | none => .error .valueError
    | some n => if h : 0 ≤ n ∧ n.toNat < 2 ^ 128 then .ok ⟨n.toNat, h.2⟩ else .error .valueError

def uuid (value : Json) : Except PyError UUID := py.str value >>= py.uuidOfText

/-- `int(value)` -/
def int (value : Json) : Except PyError Int :=
  match value with
  | .int n => .ok n
  | .bool b => .ok (if b then 1 else 0)
  | .float (.finite x) => .ok (x.num.tdiv x.den)
  | .float (.inf _) => .error .overflowError
  | .float .nan => .error .valueError
  | .str text => match PyText.intDecimal py.decimals py.limits.digits text.toList with
    | some n => .ok n
    | none => .error .valueError
  | .null | .list _ | .dict _ => .error .typeError

/-- From here on `float(n)` overflows. -/
def overflows (n : Int) : Bool := 2 ^ 1024 - 2 ^ 970 ≤ n.natAbs

/-- `float(value)` -/
def float (value : Json) : Except PyError PyFloat :=
  match value with
  | .float x => .ok x
  | .bool b => .ok (.finite (if b then 1 else 0))
  | .int n => if overflows n then .error .overflowError else .ok (.finite (py.floatOfInt n))
  | .str text => match py.floats.float text.toList with
    | some x => .ok x
    | none => .error .valueError
  | .null | .list _ | .dict _ => .error .typeError

/-- `datetime.fromisoformat(str(value))` -/
def datetime (value : Json) : Except PyError Timestamp := do
  let text ← py.str value
  match Timestamp.fromisoformat text with
  | some time => .ok time
  | none => .error .valueError

end Interpreter

def truthy : Json → Bool
  | .null => false
  | .bool b => b
  | .int n => n ≠ 0
  | .float x => x ≠ .finite 0
  | .str text => text ≠ ""
  | .list items => !items.isEmpty
  | .dict fields => !fields.isEmpty

section

variable (py : Interpreter) (fields : List (String × Json))

/-- `payload[key]` -/
def item (key : String) : Except PyError Json :=
  match field? fields key with
  | some value => .ok value
  | none => .error .keyError

/-- `float(payload[key]) if payload.get(key) is not None else None` -/
def coordinate (key : String) : Except PyError (Option PyFloat) :=
  match field? fields key with
  | none | some .null => .ok none
  | some value => some <$> py.float value

/-- `datetime.fromisoformat(str(recorded_at)) if recorded_at else None` -/
def recordedTime : Except PyError (Option Timestamp) :=
  match (field? fields "recorded_at").filter truthy with
  | none => .ok none
  | some value => some <$> py.datetime value

def TrackingEvent.fromPayload (payload : Json) : Except PyError TrackingEvent :=
  match payload with
  | .dict fields => do
    let orderId ← item fields "order_id" >>= py.uuid
    let status ← item fields "status" >>= py.str
    let sequence ← item fields "sequence" >>= py.int
    let latitude ← coordinate py fields "latitude"
    let longitude ← coordinate py fields "longitude"
    let recordedAt ← recordedTime py fields
    pure { orderId, status, sequence, latitude, longitude, recordedAt }
  | _ => .error .attributeError

end

/-- The payload of a message, as the client decodes it or not. -/
inductive BusData
  | text (data : String)
  | bytes (data : ByteArray)

structure BusMessage where
  type : String
  data : BusData

/-- `raw.decode("utf-8")` where it is needed. -/
def BusData.decode : BusData → Except PyError String
  | .text data => .ok data
  | .bytes data => match String.fromUTF8? data with
    | some raw => .ok raw
    | none => .error .valueError

def raisedBy : LoadsError → PyError
  | .valueError => .valueError
  | .recursionError => .recursionError

/-- What the loop makes of one message: nothing, or an event to publish. -/
def receive (py : Interpreter) (message : BusMessage) : Except PyError (Option TrackingEvent) :=
  if message.type ≠ "message" then .ok none
  else do
    let raw ← message.data.decode
    let payload ← (loads py.reader raw.toList).mapError raisedBy
    let event ← TrackingEvent.fromPayload py payload
    pure (some event)

/-- `except (RedisError, OSError, ValueError, json.JSONDecodeError)` -/
def PyError.caught (error : PyError) : Bool := error = .valueError

/-- The task: the hub it feeds, the events that it published, and the exception that ended it. -/
structure Listener where
  hub : TrackingHub
  published : List TrackingEvent := []
  ended : Option PyError := none

/-- One message that the subscription yields; after a caught exception the task subscribes anew. -/
def Listener.hear (py : Interpreter) (listener : Listener) (message : BusMessage) : Listener :=
  match listener.ended with
  | some _ => listener
  | none => match receive py message with
    | .ok none => listener
    | .ok (some event) => { listener with
        hub := listener.hub.publish event, published := listener.published ++ [event] }
    | .error error => if error.caught then listener else { listener with ended := some error }

/-- `int` refuses the value with something else than a `ValueError`. -/
def Uncountable : Json → Prop
  | .null | .list _ | .dict _ | .float (.inf _) => True
  | _ => False

/-- `float` refuses the value, which is not `None`, with something else than a `ValueError`. -/
def Immeasurable : Json → Prop
  | .list _ | .dict _ => True
  | .int n => Interpreter.overflows n = true
  | _ => False

section

variable (py : Interpreter) (fields : List (String × Json))

/-- The field is there and can be read. -/
def Reads {α : Type} (read : Json → Except PyError α) (key : String) : Prop :=
  ∃ value result, field? fields key = some value ∧ read value = .ok result

/-- The coordinate is missing, null or can be read. -/
def ReadsCoordinate (key : String) : Prop := ∃ result, coordinate py fields key = .ok result

end

/-- The payloads that the loop does not survive: no object; an object that lacks the order, the status or the
sequence; a sequence that is null, a container or infinite; a coordinate that is a container or an integer beyond all
floats; or one of the texts nested too deep. The fields are read in this order, and the first `ValueError` saves
the loop. -/
inductive Breaks (py : Interpreter) : Json → Prop
  | noObject {payload} : (∀ fields, payload ≠ .dict fields) → Breaks py payload
  | noOrderId {fields} : field? fields "order_id" = none → Breaks py (.dict fields)
  | deepOrderId {fields value} : field? fields "order_id" = some value → py.TooDeep value → Breaks py (.dict fields)
  | noStatus {fields} : Reads fields py.uuid "order_id" → field? fields "status" = none → Breaks py (.dict fields)
  | deepStatus {fields value} : Reads fields py.uuid "order_id" → field? fields "status" = some value →
      py.TooDeep value → Breaks py (.dict fields)
  | noSequence {fields} : Reads fields py.uuid "order_id" → Reads fields py.str "status" →
      field? fields "sequence" = none → Breaks py (.dict fields)
  | sequence {fields value} : Reads fields py.uuid "order_id" → Reads fields py.str "status" →
      field? fields "sequence" = some value → Uncountable value → Breaks py (.dict fields)
  | latitude {fields value} : Reads fields py.uuid "order_id" → Reads fields py.str "status" →
      Reads fields py.int "sequence" → field? fields "latitude" = some value → Immeasurable value →
      Breaks py (.dict fields)
  | longitude {fields value} : Reads fields py.uuid "order_id" → Reads fields py.str "status" →
      Reads fields py.int "sequence" → ReadsCoordinate py fields "latitude" →
      field? fields "longitude" = some value → Immeasurable value → Breaks py (.dict fields)
  | deepRecordedAt {fields value} : Reads fields py.uuid "order_id" → Reads fields py.str "status" →
      Reads fields py.int "sequence" → ReadsCoordinate py fields "latitude" →
      ReadsCoordinate py fields "longitude" → field? fields "recorded_at" = some value → truthy value = true →
      py.TooDeep value → Breaks py (.dict fields)

/-- The computation ends in an exception that the loop does not catch. -/
def Uncaught {α : Type} (result : Except PyError α) : Prop := ∃ error, result = .error error ∧ error ≠ .valueError

section

variable {py : Interpreter} {fields : List (String × Json)} {α β : Type}

theorem uncaught_ok (a : α) : ¬ Uncaught (.ok a : Except PyError α) := by
  rintro ⟨error, h, -⟩
  cases h

theorem uncaught_error {error : PyError} : Uncaught (.error error : Except PyError α) ↔ error ≠ .valueError := by
  constructor
  · rintro ⟨_, h, other⟩
    cases h
    exact other
  · exact fun other => ⟨error, rfl, other⟩

/-- A sequence of steps fails in its first part, or in what comes after it. -/
theorem uncaught_bind {x : Except PyError α} {f : α → Except PyError β} :
    Uncaught (x >>= f) ↔ Uncaught x ∨ ∃ a, x = .ok a ∧ Uncaught (f a) := by
  cases x with
  | error error =>
    change Uncaught (.error error) ↔ _
    simp [uncaught_error]
  | ok a =>
    change Uncaught (f a) ↔ _
    simp [uncaught_ok]

theorem uncaught_str {value : Json} : Uncaught (py.str value) ↔ py.TooDeep value := by
  have shallow (flat : depth value = 0) : ¬ py.TooDeep value := by simp [Interpreter.TooDeep, flat]
  cases value with
  | null | bool | int | float | str =>
    exact iff_of_false (uncaught_ok _) (shallow rfl)
  | list | dict =>
    simp only [Interpreter.str]
    split_ifs with deep
    · simp [uncaught_error, deep]
    · simp [uncaught_ok, deep]

theorem uncaught_uuidOfText (text : String) : ¬ Uncaught (py.uuidOfText text) := by
  unfold Interpreter.uuidOfText
  simp only
  split_ifs
  · simp [uncaught_error]
  · split
    · simp [uncaught_error]
    · split_ifs
      · exact uncaught_ok _
      · simp [uncaught_error]

theorem uncaught_uuid {value : Json} : Uncaught (py.uuid value) ↔ py.TooDeep value := by
  simp [Interpreter.uuid, uncaught_bind, uncaught_str, uncaught_uuidOfText]

theorem uncaught_int {value : Json} : Uncaught (py.int value) ↔ Uncountable value := by
  cases value with
  | null | list | dict => simp [Interpreter.int, uncaught_error, Uncountable]
  | bool | int => simp [Interpreter.int, uncaught_ok, Uncountable]
  | float x => cases x <;> simp [Interpreter.int, uncaught_ok, uncaught_error, Uncountable]
  | str text =>
    simp only [Interpreter.int, Uncountable, iff_false]
    split
    · exact uncaught_ok _
    · simp [uncaught_error]

theorem uncaught_float {value : Json} (given : value ≠ .null) : Uncaught (py.float value) ↔ Immeasurable value := by
  cases value with
  | null => exact absurd rfl given
  | list | dict => simp [Interpreter.float, uncaught_error, Immeasurable]
  | bool | float => simp [Interpreter.float, uncaught_ok, Immeasurable]
  | int n =>
    simp only [Interpreter.float, Immeasurable]
    split_ifs with large <;> simp [uncaught_ok, uncaught_error, large]
  | str text =>
    simp only [Interpreter.float, Immeasurable, iff_false]
    split
    · exact uncaught_ok _
    · simp [uncaught_error]

theorem uncaught_map {x : Except PyError α} {f : α → β} : Uncaught (f <$> x) ↔ Uncaught x := by
  cases x with
  | error error => exact uncaught_error.trans uncaught_error.symm
  | ok a => exact iff_of_false (uncaught_ok _) (uncaught_ok _)

theorem uncaught_item {read : Json → Except PyError α} {key : String} :
    Uncaught (item fields key >>= read) ↔
      field? fields key = none ∨ ∃ value, field? fields key = some value ∧ Uncaught (read value) := by
  rw [uncaught_bind]
  unfold item
  cases field? fields key with
  | none => simp [uncaught_error]
  | some value => simp [uncaught_ok]

theorem uncaught_coordinate {key : String} : Uncaught (coordinate py fields key) ↔
    ∃ value, field? fields key = some value ∧ Immeasurable value := by
  unfold coordinate
  split
  · next missing => simp [uncaught_ok, missing]
  · next null => simp [uncaught_ok, null, Immeasurable]
  · next value given found =>
    rw [uncaught_map, uncaught_float given, found]
    simp

theorem uncaught_recordedTime : Uncaught (recordedTime py fields) ↔
    ∃ value, field? fields "recorded_at" = some value ∧ truthy value = true ∧ py.TooDeep value := by
  have parsed (text : String) : ¬ Uncaught (match Timestamp.fromisoformat text with
      | some time => .ok time
      | none => .error .valueError : Except PyError Timestamp) := by
    cases Timestamp.fromisoformat text with
    | none => simp [uncaught_error]
    | some time => exact uncaught_ok _
  unfold recordedTime
  cases field? fields "recorded_at" with
  | none => simp [uncaught_ok]
  | some value =>
    by_cases given : truthy value = true
    · have deep : Uncaught (py.datetime value) ↔ py.TooDeep value := by
        simp only [Interpreter.datetime, uncaught_bind, uncaught_str, parsed, and_false, exists_false, or_false]
      simp [Option.filter, given, uncaught_map, deep]
    · simp [Option.filter, given, uncaught_ok]

theorem reads_iff {read : Json → Except PyError α} {key : String} :
    Reads fields read key ↔ ∃ result, (item fields key >>= read) = .ok result := by
  unfold Reads item
  cases field? fields key with
  | none =>
    simp
    rintro x h
    cases h
  | some value => simp [bind, Except.bind]

/-- The fields of an event are read one after the other. -/
theorem uncaught_in_order {order : Except PyError UUID} {status : Except PyError String}
    {sequence : Except PyError Int} {latitude longitude : Except PyError (Option PyFloat)}
    {time : Except PyError (Option Timestamp)} :
    Uncaught (do
      let orderId ← order
      let status ← status
      let sequence ← sequence
      let latitude ← latitude
      let longitude ← longitude
      let recordedAt ← time
      pure { orderId, status, sequence, latitude, longitude, recordedAt } : Except PyError TrackingEvent) ↔
    Uncaught order ∨ (∃ a, order = .ok a) ∧ (Uncaught status ∨ (∃ a, status = .ok a) ∧
      (Uncaught sequence ∨ (∃ a, sequence = .ok a) ∧ (Uncaught latitude ∨ (∃ a, latitude = .ok a) ∧
        (Uncaught longitude ∨ (∃ a, longitude = .ok a) ∧ Uncaught time)))) := by
  have built (event : TrackingEvent) : ¬ Uncaught (pure event : Except PyError TrackingEvent) := uncaught_ok _
  simp only [uncaught_bind, built, and_false, exists_false, or_false, exists_and_right]

theorem breaks_dict_iff : Breaks py (.dict fields) ↔
    (field? fields "order_id" = none ∨ ∃ value, field? fields "order_id" = some value ∧ py.TooDeep value) ∨
    Reads fields py.uuid "order_id" ∧
      ((field? fields "status" = none ∨ ∃ value, field? fields "status" = some value ∧ py.TooDeep value) ∨
      Reads fields py.str "status" ∧
        ((field? fields "sequence" = none ∨ ∃ value, field? fields "sequence" = some value ∧ Uncountable value) ∨
        Reads fields py.int "sequence" ∧
          ((∃ value, field? fields "latitude" = some value ∧ Immeasurable value) ∨
          ReadsCoordinate py fields "latitude" ∧
            ((∃ value, field? fields "longitude" = some value ∧ Immeasurable value) ∨
            ReadsCoordinate py fields "longitude" ∧ ∃ value, field? fields "recorded_at" = some value ∧
              truthy value = true ∧ py.TooDeep value)))) := by
  constructor
  · intro breaks
    cases breaks with
    | noObject other => exact absurd rfl (other fields)
    | noOrderId missing => exact .inl (.inl missing)
    | deepOrderId found deep => exact .inl (.inr ⟨_, found, deep⟩)
    | noStatus order missing => exact .inr ⟨order, .inl (.inl missing)⟩
    | deepStatus order found deep => exact .inr ⟨order, .inl (.inr ⟨_, found, deep⟩)⟩
    | noSequence order status missing => exact .inr ⟨order, .inr ⟨status, .inl (.inl missing)⟩⟩
    | sequence order status found other => exact .inr ⟨order, .inr ⟨status, .inl (.inr ⟨_, found, other⟩)⟩⟩
    | latitude order status sequence found other =>
      exact .inr ⟨order, .inr ⟨status, .inr ⟨sequence, .inl ⟨_, found, other⟩⟩⟩⟩
    | longitude order status sequence latitude found other =>
      exact .inr ⟨order, .inr ⟨status, .inr ⟨sequence, .inr ⟨latitude, .inl ⟨_, found, other⟩⟩⟩⟩⟩
    | deepRecordedAt order status sequence latitude longitude found given deep =>
      exact .inr ⟨order, .inr ⟨status, .inr ⟨sequence, .inr ⟨latitude, .inr ⟨longitude, _, found, given, deep⟩⟩⟩⟩⟩
  · rintro ((missing | ⟨_, found, deep⟩) | ⟨order, (missing | ⟨_, found, deep⟩) | ⟨status, rest⟩⟩)
    · exact .noOrderId missing
    · exact .deepOrderId found deep
    · exact .noStatus order missing
    · exact .deepStatus order found deep
    · rcases rest with (missing | ⟨_, found, other⟩) | ⟨sequence, rest⟩
      · exact .noSequence order status missing
      · exact .sequence order status found other
      · rcases rest with ⟨_, found, other⟩ | ⟨latitude, ⟨_, found, other⟩ | ⟨longitude, _, found, given, deep⟩⟩
        · exact .latitude order status sequence found other
        · exact .longitude order status sequence latitude found other
        · exact .deepRecordedAt order status sequence latitude longitude found given deep

/-- Exactly the payloads of the list end in an exception that the loop does not catch. -/
theorem uncaught_fromPayload_iff {payload : Json} :
    Uncaught (TrackingEvent.fromPayload py payload) ↔ Breaks py payload := by
  cases payload with
  | null | bool | int | float | str | list =>
    refine iff_of_true ⟨.attributeError, rfl, by simp⟩ (.noObject (by simp))
  | dict fields =>
    rw [TrackingEvent.fromPayload, uncaught_in_order, breaks_dict_iff, uncaught_item, uncaught_item, uncaught_item]
    simp only [uncaught_uuid, uncaught_str, uncaught_int, uncaught_coordinate, uncaught_recordedTime, reads_iff,
      ReadsCoordinate]

end

section

variable {text : List Char} {values : List Nat}

theorem digitIn_hexValue (decimals : PyText.DecimalDigits) {c : Char} {v : Nat} (h : UUID.hexValue c = some v) :
    PyText.digitIn decimals 16 c = some v := by
  have small := UUID.hexValue_lt h
  have isDigit : c.isDigit = true ↔ 48 ≤ c.toNat ∧ c.toNat ≤ 57 := by
    simp only [Char.isDigit, ge_iff_le, Bool.and_eq_true, decide_eq_true_eq, UInt32.le_iff_toNat_le]
    rfl
  have known : PyText.DecimalDigits.value decimals c = if c.isDigit then some (c.toNat - 48) else none := by
    refine decimals.ascii c ?_
    unfold UUID.hexValue at h
    split_ifs at h <;> omega
  unfold UUID.hexValue at h
  simp only [PyText.digitIn, known]
  split_ifs at h with digit lower upper
  · rw [if_pos (isDigit.mpr digit), h]
    simp [small]
  · rw [if_neg (mt isDigit.mp digit), Option.none_or, if_pos (by omega), h]
    simp [small]
  · rw [if_neg (mt isDigit.mp digit), Option.none_or, if_neg (by omega), if_pos (by omega), h]
    simp [small]

theorem hexValue_ne {c d : Char} {v : Nat} (h : UUID.hexValue c = some v) (other : UUID.hexValue d = none) : c ≠ d := by
  rintro rfl
  rw [h] at other
  cases other

theorem readDigits_hex (decimals : PyText.DecimalDigits) {afterDigit : Bool}
    (read : text.mapM UUID.hexValue = some values) (some : afterDigit = true ∨ text ≠ []) :
    PyText.readDigits (PyText.digitIn decimals 16) afterDigit text = .some values := by
  induction text generalizing values afterDigit with
  | nil =>
    obtain rfl : afterDigit = true := by simpa using some
    simpa [PyText.readDigits] using read
  | cons c rest ih =>
    rw [List.mapM_cons] at read
    obtain ⟨v, first, read⟩ := Option.bind_eq_some_iff.mp read
    obtain ⟨others, later, read⟩ := Option.bind_eq_some_iff.mp read
    cases read
    have plain : c ≠ '_' := hexValue_ne first rfl
    simp [PyText.readDigits, plain, digitIn_hexValue decimals first, ih later (.inl rfl)]

theorem splitSign_plain {c : Char} {rest : List Char} (minus : c ≠ '-') (plus : c ≠ '+') :
    PyText.splitSign (c :: rest) = (false, c :: rest) := by
  unfold PyText.splitSign
  split
  · next h => exact absurd (List.cons.inj h).1 minus
  · next h => exact absurd (List.cons.inj h).1 plus
  · rfl

theorem dropHexPrefix_plain (hex : ∀ c ∈ text, c ≠ 'x' ∧ c ≠ 'X') : PyText.dropHexPrefix text = text := by
  unfold PyText.dropHexPrefix
  split
  · next x rest =>
    obtain ⟨lower, upper⟩ := hex x (by simp)
    simp [lower, upper]
  · rfl

theorem hexValue_of_mem {c : Char} (read : text.mapM UUID.hexValue = some values) (mem : c ∈ text) :
    ∃ v, UUID.hexValue c = some v := by
  induction text generalizing values with
  | nil => simp at mem
  | cons d rest ih =>
    rw [List.mapM_cons] at read
    obtain ⟨v, first, read⟩ := Option.bind_eq_some_iff.mp read
    obtain ⟨others, later, -⟩ := Option.bind_eq_some_iff.mp read
    rcases List.mem_cons.mp mem with rfl | old
    · exact ⟨v, first⟩
    · exact ih later old

theorem isNumberSpace_hex {c : Char} {v : Nat} (h : UUID.hexValue c = some v) : PyText.isNumberSpace c = false := by
  have range : 48 ≤ c.toNat ∧ c.toNat ≤ 102 := by
    unfold UUID.hexValue at h
    split_ifs at h <;> omega
  have solid : PyText.isSpace c = false := by
    simp only [PyText.isSpace, List.contains_eq_mem, List.mem_cons, List.not_mem_nil, or_false, Bool.or_eq_false_iff,
      Bool.and_eq_false_iff, decide_eq_false_iff_not]
    omega
  simp [PyText.isNumberSpace, solid]

theorem intHex_hex (decimals : PyText.DecimalDigits) (read : text.mapM UUID.hexValue = some values)
    (filled : text ≠ []) :
    PyText.intHex decimals text = some ((Nat.ofDigits 16 values.reverse : Nat) : Int) := by
  have digits (c : Char) (mem : c ∈ text) : ∃ v, UUID.hexValue c = some v := hexValue_of_mem read mem
  have solid : ∀ c ∈ text, PyText.isNumberSpace c = false := fun c mem =>
    have ⟨v, hex⟩ := digits c mem
    isNumberSpace_hex hex
  have unsigned : PyText.splitSign text = (false, text) := by
    obtain ⟨c, rest, rfl⟩ := List.exists_cons_of_ne_nil filled
    obtain ⟨v, hex⟩ := digits c (by simp)
    exact splitSign_plain (hexValue_ne hex rfl) (hexValue_ne hex rfl)
  have unprefixed : PyText.dropHexPrefix text = text := dropHexPrefix_plain fun c mem =>
    have ⟨v, hex⟩ := digits c mem
    ⟨hexValue_ne hex rfl, hexValue_ne hex rfl⟩
  simp only [PyText.intHex, PyText.strip_of_forall_not solid, unsigned, unprefixed,
    readDigits_hex decimals read (.inr filled), Option.map_some, Bool.false_eq_true, if_false]
  rw [Nat.coe_ofDigits]
  rfl

/-- Every spelling that names a UUID by hexadecimal digits is read as that UUID. -/
theorem uuidOfText_of_parse {py : Interpreter} {text : String} {id : UUID} (parsed : UUID.parse text.toList = some id) :
    py.uuidOfText text = .ok id := by
  obtain ⟨length, values, read, value⟩ := UUID.parse_eq_some_iff.mp parsed
  have filled : UUID.digitsOf text.toList ≠ [] := by
    intro empty
    simp [empty] at length
  have int := intHex_hex py.decimals read filled
  rw [value] at int
  have bound : 0 ≤ (id.int : Int) ∧ (id.int : Int).toNat < 2 ^ 128 :=
    ⟨Int.natCast_nonneg _, by rw [Int.toNat_natCast]; exact id.bound⟩
  simp only [Interpreter.uuidOfText, length, int, ne_eq, not_true_eq_false, if_false, dif_pos bound]
  exact congrArg Except.ok (UUID.int_injective (Int.toNat_natCast _))

end

/-- The message is the JSON text of an event, which can be written, as text or in UTF-8. -/
def BusMessage.Carries (py : Interpreter) (message : BusMessage) (event : TrackingEvent) : Prop :=
  message.type = "message" ∧ (∀ field ∈ event.payload, field.2.Printable py.limits) ∧
    (message.data = .text (String.ofList (dumps py.floats event.payload)) ∨
      message.data = .bytes (String.ofList (dumps py.floats event.payload)).toUTF8)

/-- The message has a payload that stops the task: JSON of one of the kinds listed above, or text that opens more
containers within each other than the interpreter follows. -/
def BusMessage.Stops (py : Interpreter) (message : BusMessage) : Prop :=
  message.type = "message" ∧ ∃ raw, message.data.decode = .ok raw ∧
    (loads py.reader raw.toList = .error .recursionError ∨
      ∃ payload, loads py.reader raw.toList = .ok payload ∧ Breaks py payload)

section

variable {py : Interpreter} {event : TrackingEvent} {message : BusMessage}

theorem datetime_isoformat (time : Timestamp) : py.datetime (.str time.isoformat) = .ok time := by
  simp only [Interpreter.datetime, Interpreter.str, bind, Except.bind, Timestamp.fromisoformat_isoformat]

theorem truthy_isoformat (time : Timestamp) : truthy (.str time.isoformat) = true := by
  have read := Timestamp.fromisoformat_isoformat time
  have filled : time.isoformat ≠ "" := by
    intro empty
    rw [empty] at read
    cases read
  simp [truthy, filled]

theorem uuid_str (id : UUID) : py.uuid (.str id.str) = .ok id := by
  simp only [Interpreter.uuid, Interpreter.str, bind, Except.bind]
  exact uuidOfText_of_parse (UUID.parse_str id)

theorem coordinate_loaded {fields : List (String × Json)} {key : String} {x : Option PyFloat}
    (found : field? fields key = some (x.elim JsonValue.null .float).loaded) : coordinate py fields key = .ok x := by
  cases x with
  | none => simp only [coordinate, found, Option.elim_none, JsonValue.loaded]
  | some x =>
    simp only [coordinate, found, Option.elim_some, JsonValue.loaded, Interpreter.float]
    rfl

theorem recordedTime_loaded {fields : List (String × Json)} {time : Option Timestamp}
    (found : field? fields "recorded_at" = some (time.elim JsonValue.null fun time => .str time.isoformat).loaded) :
    recordedTime py fields = .ok time := by
  cases time with
  | none =>
    simp only [recordedTime, found, Option.elim_none, JsonValue.loaded]
    rfl
  | some time =>
    simp only [recordedTime, found, Option.elim_some, JsonValue.loaded, Option.filter_some, truthy_isoformat, if_true,
      datetime_isoformat]
    rfl

theorem fromPayload_payload (py : Interpreter) (event : TrackingEvent) :
    TrackingEvent.fromPayload py (.dict (event.payload.map fun field => (field.1, field.2.loaded))) = .ok event := by
  generalize shape : (event.payload.map fun field => (field.1, field.2.loaded)) = fields
  have order : field? fields "order_id" = some (.str event.orderId.str) := by rw [← shape]; rfl
  have status : field? fields "status" = some (.str event.status) := by rw [← shape]; rfl
  have sequence : field? fields "sequence" = some (.int event.sequence) := by rw [← shape]; rfl
  have latitude : coordinate py fields "latitude" = .ok event.latitude := coordinate_loaded (by rw [← shape]; rfl)
  have longitude : coordinate py fields "longitude" = .ok event.longitude := coordinate_loaded (by rw [← shape]; rfl)
  have time : recordedTime py fields = .ok event.recordedAt := recordedTime_loaded (by rw [← shape]; rfl)
  simp only [TrackingEvent.fromPayload, item, order, status, sequence, latitude, longitude, time, bind, Except.bind,
    uuid_str, Interpreter.str, Interpreter.int]
  rfl

theorem fromUTF8?_toUTF8 (text : String) : String.fromUTF8? text.toUTF8 = some text := by
  have valid : text.toUTF8.IsValidUTF8 := text.isValidUTF8
  simp only [String.fromUTF8?, dif_pos valid]
  rfl

theorem decode_toUTF8 (text : String) : (BusData.bytes text.toUTF8).decode = .ok text := by
  simp only [BusData.decode, fromUTF8?_toUTF8]

/-- The text of an event is received as that event. -/
theorem receive_carried (carries : message.Carries py event) : receive py message = .ok (some event) := by
  obtain ⟨type, printable, data⟩ := carries
  have decoded : message.data.decode = .ok (String.ofList (dumps py.floats event.payload)) := by
    rcases data with data | data
    · rw [data]
      rfl
    · rw [data, decode_toUTF8]
  have filled : event.payload ≠ [] := by simp [TrackingEvent.payload]
  have distinct : (event.payload.map Prod.fst).Nodup := by simp [TrackingEvent.payload]
  have loaded : loads py.reader (dumps py.floats event.payload) = _ := loads_dumps filled printable distinct
  simp only [receive, type, ne_eq, not_true_eq_false, if_false, decoded, bind, Except.bind, String.toList_ofList,
    loaded, Except.mapError, fromPayload_payload]
  rfl

theorem uncaught_decode (data : BusData) : ¬ Uncaught data.decode := by
  cases data with
  | text data => exact uncaught_ok _
  | bytes data =>
    unfold BusData.decode
    simp only
    split
    · exact uncaught_ok _
    · simp [uncaught_error]

theorem uncaught_receive_iff : Uncaught (receive py message) ↔ message.Stops py := by
  unfold receive BusMessage.Stops
  by_cases type : message.type = "message"
  · have loading (raw : String) : Uncaught ((loads py.reader raw.toList).mapError raisedBy) ↔
        loads py.reader raw.toList = .error .recursionError := by
      cases loads py.reader raw.toList with
      | ok payload => simp [Except.mapError, uncaught_ok]
      | error error => cases error <;> simp [Except.mapError, uncaught_error, raisedBy]
    have loaded (raw : String) (payload : Json) : (loads py.reader raw.toList).mapError raisedBy = .ok payload ↔
        loads py.reader raw.toList = .ok payload := by
      cases loads py.reader raw.toList <;> simp [Except.mapError]
    have built (event : TrackingEvent) : ¬ Uncaught (pure (some event) : Except PyError (Option TrackingEvent)) :=
      uncaught_ok _
    rw [if_neg (not_not.mpr type)]
    simp only [uncaught_bind, uncaught_decode, false_or, loading, loaded, uncaught_fromPayload_iff, built, and_false,
      exists_false, or_false, type, true_and]
  · rw [if_pos type]
    simp [uncaught_ok, type]

theorem hear_ended {listener : Listener} {error : PyError} (ended : listener.ended = some error) :
    listener.hear py message = listener := by
  simp only [Listener.hear, ended]

theorem hear_goes_on_iff {listener : Listener} (alive : listener.ended = none) :
    (listener.hear py message).ended = none ↔ ¬ message.Stops py := by
  rw [← uncaught_receive_iff]
  simp only [Listener.hear, alive]
  cases received : receive py message with
  | ok event => cases event <;> simp [uncaught_ok, alive]
  | error error =>
    rw [uncaught_error, not_not]
    by_cases caught : error = .valueError
    · simp [PyError.caught, caught, alive]
    · simp [PyError.caught, caught]

/-- The task after the messages that it was given. -/
def Listener.after (py : Interpreter) (hub : TrackingHub) (messages : List BusMessage) : Listener :=
  messages.foldl (Listener.hear py) { hub }

theorem after_append (hub : TrackingHub) (messages : List BusMessage) (message : BusMessage) :
    Listener.after py hub (messages ++ [message]) = (Listener.after py hub messages).hear py message := by
  simp [Listener.after]

theorem goes_on_iff (hub : TrackingHub) (messages : List BusMessage) :
    (Listener.after py hub messages).ended = none ↔ ∀ message ∈ messages, ¬ message.Stops py := by
  induction messages using List.reverseRecOn with
  | nil => simp [Listener.after]
  | append_singleton messages last ih =>
    rw [after_append]
    simp only [List.mem_append, List.mem_singleton, or_imp, forall_and, forall_eq, ← ih]
    cases ended : (Listener.after py hub messages).ended with
    | none => simpa using hear_goes_on_iff ended
    | some error => simp [hear_ended ended, ended]

end

/-- The task goes on after all the messages, and each of them that is the JSON of an event has been published as
that event. -/
def ServesAll (py : Interpreter) (hub : TrackingHub) (messages : List BusMessage) : Prop :=
  (Listener.after py hub messages).ended = none ∧
  ∀ before message later event, messages = before ++ message :: later → message.Carries py event →
    (Listener.after py hub (before ++ [message])).hub = (Listener.after py hub before).hub.publish event ∧
    (Listener.after py hub (before ++ [message])).published = (Listener.after py hub before).published ++ [event]

/-- Live tracking survives a sequence of messages, and publishes the events among them, exactly when none of them is
of a kind that stops the task. -/
theorem bus_serves_all_iff (py : Interpreter) (hub : TrackingHub) (messages : List BusMessage) :
    ServesAll py hub messages ↔ ∀ message ∈ messages, ¬ message.Stops py := by
  refine ⟨fun serves => (goes_on_iff hub messages).mp serves.1, fun harmless => ?_⟩
  refine ⟨(goes_on_iff hub messages).mpr harmless, ?_⟩
  rintro before message later event rfl carries
  have alive : (Listener.after py hub before).ended = none :=
    (goes_on_iff hub before).mpr fun message mem => harmless message (by simp [mem])
  have received := receive_carried carries
  rw [after_append]
  simp [Listener.hear, alive, received]

def plainInterpreter : Interpreter where
  floats := exactFloats
  limits := ⟨1000, 1000, 4300, by decide⟩
  decimals := PyText.asciiDigits
  floatOfInt n := n
  strOfContainer _ := ""

theorem empty_object_stops_bus : ¬ ∀ py hub messages, ServesAll py hub messages := by
  intro all
  have serves := all plainInterpreter { queueSize := 8 } [⟨"message", .text "\x7b\x7d"⟩]
  have stops : (⟨"message", .text "\x7b\x7d"⟩ : BusMessage).Stops plainInterpreter :=
    ⟨rfl, _, rfl, .inr ⟨.dict [], rfl, .noOrderId rfl⟩⟩
  exact (goes_on_iff _ _).mp serves.1 _ (List.mem_singleton.mpr rfl) stops

end DeliveryService
