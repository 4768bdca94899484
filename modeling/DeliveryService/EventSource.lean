import Mathlib.Data.List.Basic

namespace EventSource

/-- A message of an event stream, as its reader gets it. -/
structure Message where
  id : String
  event : String
  data : String
deriving DecidableEq

/-- The reader of an event stream: the line that it is in, whether a carriage return came just before, the last id,
the name and the data lines of the message that is being read, and the messages so far. -/
structure Client where
  line : List Char := []
  returned : Bool := false
  id : List Char := []
  event : List Char := []
  data : List (List Char) := []
  messages : List Message := []

/-- The name and the value of a line, on either side of its first colon and of one blank behind it. -/
def fieldOf (line : List Char) : String × List Char :=
  let value := (line.dropWhile (· ≠ ':')).drop 1
  (String.ofList (line.takeWhile (· ≠ ':')), if value.head? = some ' ' then value.tail else value)

namespace Client

/-- The message that an empty line ends. -/
def message (client : Client) : Message where
  id := String.ofList client.id
  event := if client.event = [] then "message" else String.ofList client.event
  data := String.ofList (['\n'].intercalate client.data)

/-- A line without data is no message. -/
def dispatch (client : Client) : Client :=
  { client with
    event := []
    data := []
    messages := if client.data = [] then client.messages else client.messages ++ [client.message] }

def set (client : Client) (name : String) (value : List Char) : Client :=
  if name = "data" then { client with data := client.data ++ [value] }
  else if name = "event" then { client with event := value }
  else if name = "id" ∧ '\x00' ∉ value then { client with id := value }
  else client

def take (client : Client) (line : List Char) : Client :=
  if line = [] then client.dispatch else client.set (fieldOf line).1 (fieldOf line).2

/-- Lines end in a line feed, a carriage return or both. -/
def read (client : Client) (c : Char) : Client :=
  if c = '\n' ∧ client.returned = true then { client with returned := false }
  else if c = '\n' ∨ c = '\r' then { client with line := [], returned := c = '\r' }.take client.line
  else { client with line := client.line ++ [c], returned := false }

/-- The reader is between two messages. -/
structure Idle (client : Client) : Prop where
  line : client.line = []
  returned : client.returned = false
  event : client.event = []
  data : client.data = []

end Client

/-- The messages of a text. -/
def hear (text : List Char) : List Message := (text.foldl Client.read {}).messages

/-- A line that sets a field. -/
def fieldLine (name : String) (value : List Char) : List Char := name.toList ++ ':' :: ' ' :: value

/-- The text of a message. -/
def textOf (message : Message) : List Char :=
  fieldLine "id" message.id.toList ++ '\n' :: fieldLine "event" message.event.toList ++
    '\n' :: fieldLine "data" message.data.toList ++ ['\n', '\n']

/-- The text stays within its line. -/
def OneLine (text : List Char) : Prop := ∀ c ∈ text, c ≠ '\n' ∧ c ≠ '\r'

theorem OneLine.append {text text' : List Char} (h : OneLine text) (h' : OneLine text') : OneLine (text ++ text') := by
  intro c mem
  rcases List.mem_append.mp mem with mem | mem
  · exact h c mem
  · exact h' c mem

theorem OneLine.cons {c : Char} {text : List Char} (first : c ≠ '\n' ∧ c ≠ '\r') (h : OneLine text) :
    OneLine (c :: text) := by
  intro other mem
  rcases List.mem_cons.mp mem with rfl | later
  · exact first
  · exact h other later

/-- The message has an id, a name and one line of data. -/
structure Message.Whole (message : Message) : Prop where
  id : OneLine message.id.toList
  noNul : '\x00' ∉ message.id.toList
  event : OneLine message.event.toList
  named : message.event ≠ ""
  data : OneLine message.data.toList

namespace Client

variable {client : Client} {line : List Char}

theorem read_within (unreturned : client.returned = false) (within : OneLine line) :
    line.foldl read client = { client with line := client.line ++ line } := by
  induction line generalizing client with
  | nil => simp
  | cons c rest ih =>
    have first := within c (by simp)
    have taken : client.read c = { client with line := client.line ++ [c] } := by
      simp [read, first.1, first.2, unreturned]
    have others : OneLine rest := fun d mem => within d (by simp [mem])
    have unreturned' : { client with line := client.line ++ [c] }.returned = false := unreturned
    rw [List.foldl_cons, taken, ih unreturned' others]
    simp

/-- A whole line is taken at its end. -/
theorem read_line (client : Client) (fresh : client.line = []) (unreturned : client.returned = false) (within : OneLine line) :
    (line ++ ['\n']).foldl read client = client.take line := by
  rw [List.foldl_append, read_within unreturned within, fresh, List.nil_append]
  have same : { client with line := [], returned := decide ('\n' = '\r') } = client := by
    cases client
    simp_all
  simp only [List.foldl_cons, List.foldl_nil, read, unreturned, Bool.false_eq_true, and_false, if_false, true_or, if_true]
  rw [same]

theorem fieldOf_fieldLine {name : String} {value : List Char} (plain : ':' ∉ name.toList) :
    fieldOf (fieldLine name value) = (name, value) := by
  have others : ∀ c ∈ name.toList, decide (c ≠ ':') = true := by
    intro c mem
    rw [decide_eq_true_iff]
    rintro rfl
    exact plain mem
  simp only [fieldOf, fieldLine, List.takeWhile_append_of_pos others, List.dropWhile_append_of_pos others]
  simp

theorem read_fieldLine (client : Client) {name : String} {value : List Char} (fresh : client.line = [])
    (unreturned : client.returned = false) (plain : ':' ∉ name.toList) (named : OneLine name.toList)
    (within : OneLine value) : (fieldLine name value ++ ['\n']).foldl read client = client.set name value := by
  have whole : OneLine (fieldLine name value) :=
    named.append (OneLine.cons (by decide) (OneLine.cons (by decide) within))
  have filled : fieldLine name value ≠ [] := by simp [fieldLine]
  rw [read_line client fresh unreturned whole, take, if_neg filled, fieldOf_fieldLine plain]

/-- A reader between two messages reads a message whole. -/
theorem read_textOf {message : Message} (idle : client.Idle) (whole : message.Whole) :
    (textOf message).foldl read client =
      { client with id := message.id.toList, messages := client.messages ++ [message] } := by
  have lines : textOf message = (fieldLine "id" message.id.toList ++ ['\n']) ++
      ((fieldLine "event" message.event.toList ++ ['\n']) ++
        ((fieldLine "data" message.data.toList ++ ['\n']) ++ ([] ++ ['\n']))) := by
    simp [textOf]
  have id : (fieldLine "id" message.id.toList ++ ['\n']).foldl read client =
      { client with id := message.id.toList } := by
    rw [read_fieldLine client idle.line idle.returned (by decide) (by simp [OneLine]) whole.id]
    simp [set, whole.noNul]
  generalize named : { client with id := message.id.toList } = known at id
  have fresh : known.line = [] ∧ known.returned = false := by
    rw [← named]
    exact ⟨idle.line, idle.returned⟩
  have event : (fieldLine "event" message.event.toList ++ ['\n']).foldl read known =
      { known with event := message.event.toList } := by
    rw [read_fieldLine known fresh.1 fresh.2 (by decide) (by simp [OneLine]) whole.event]
    simp [set]
  have data : (fieldLine "data" message.data.toList ++ ['\n']).foldl read
      { known with event := message.event.toList } =
      { known with event := message.event.toList, data := known.data ++ [message.data.toList] } := by
    rw [read_fieldLine { known with event := message.event.toList } fresh.1 fresh.2 (by decide) (by simp [OneLine])
      whole.data]
    simp [set]
  have ended : ([] ++ ['\n']).foldl read
      { known with event := message.event.toList, data := known.data ++ [message.data.toList] } =
      dispatch { known with event := message.event.toList, data := known.data ++ [message.data.toList] } := by
    refine (read_line _ ?_ ?_ (by simp [OneLine])).trans (by simp [take])
    · exact fresh.1
    · exact fresh.2
  rw [lines, List.foldl_append, id, List.foldl_append, event, List.foldl_append, data, ended, ← named]
  simp [dispatch, Client.message, idle.event, idle.data, whole.named]

theorem Idle.read_textOf {message : Message} (idle : client.Idle) (whole : message.Whole) :
    ((textOf message).foldl read client).Idle := by
  rw [Client.read_textOf idle whole]
  exact ⟨idle.line, idle.returned, idle.event, idle.data⟩

end Client

/-- What was written message by message is heard so. -/
theorem hear_flatMap {messages : List Message} (whole : ∀ message ∈ messages, message.Whole) :
    hear (messages.flatMap textOf) = messages := by
  suffices read : ∀ client : Client, client.Idle →
      ((messages.flatMap textOf).foldl Client.read client).messages = client.messages ++ messages by
    exact read {} ⟨rfl, rfl, rfl, rfl⟩
  induction messages with
  | nil => simp
  | cons message rest ih =>
    intro client idle
    have first := whole message (by simp)
    rw [List.flatMap_cons, List.foldl_append,
      ih (fun other mem => whole other (by simp [mem])) _ (idle.read_textOf first), Client.read_textOf idle first]
    simp

end EventSource
