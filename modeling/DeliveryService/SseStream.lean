import DeliveryService.EventSource
import DeliveryService.HubSharing
import DeliveryService.Records
import DeliveryService.TrackingBus

namespace DeliveryService

open EventSource PyJson Records

/-- `encode_sse` -/
def encodeSse (floats : FloatText) (event : String) (eventId : Int) (data : Payload) : ByteArray :=
  let payload := String.ofList (dumps floats data)
  s!"id: {eventId}\nevent: {event}\ndata: {payload}\n\n".toUTF8

section

variable {floats : FloatText}

theorem oneLine_of_digits {text : List Char} (digits : ∀ c ∈ text, c.isDigit = true) : OneLine text := by
  intro c mem
  have digit := digits c mem
  constructor
  · rintro rfl
    cases digit
  · rintro rfl
    cases digit

theorem oneLine_sign {sign : List Char} (signed : sign = [] ∨ sign = ['-']) : OneLine sign := by
  rcases signed with rfl | rfl <;> simp [OneLine]

theorem oneLine_jsonInt (n : Int) : OneLine (jsonInt n) := by
  rw [jsonInt_signed]
  refine (oneLine_sign (by split_ifs <;> simp)).append (oneLine_of_digits fun c mem => ?_)
  exact Nat.isDigit_of_mem_toDigits (by decide) (by decide) mem

/-- No number goes on behind the end of a line. -/
theorem next_ne_none {part next : NumberPart} {c : Char} (h : part.next c = some next) : c ≠ '\n' ∧ c ≠ '\r' := by
  constructor
  · rintro rfl
    cases part <;> cases h
  · rintro rfl
    cases part <;> cases h

theorem oneLine_number {body : List Char} {part last : NumberPart}
    (read : body.foldlM NumberPart.next part = some last) : OneLine body := by
  induction body generalizing part with
  | nil => simp [OneLine]
  | cons c rest ih =>
    rw [List.foldlM_cons] at read
    obtain ⟨next, taken, others⟩ := Option.bind_eq_some_iff.mp read
    exact OneLine.cons (next_ne_none taken) (ih others)

theorem oneLine_dumpsFloat (x : PyFloat) : OneLine (dumpsFloat floats x) := by
  cases x with
  | finite x =>
    obtain ⟨sign, body, part, shape, signed, digits, -⟩ := floats.literal x
    rw [dumpsFloat, shape]
    exact (oneLine_sign signed).append (oneLine_number digits)
  | inf negative => cases negative <;> simp [dumpsFloat, OneLine]
  | nan => simp [dumpsFloat, OneLine]

theorem oneLine_jsonEscape (c : Char) : OneLine (jsonEscape c) := by
  have hex : ∀ d < 16, Nat.digitChar d ≠ '\n' ∧ Nat.digitChar d ≠ '\r' := by decide
  unfold jsonEscape
  split_ifs with quote slash feed ret tab backspace formFeed control
  · simp [OneLine]
  · simp [OneLine]
  · simp [OneLine]
  · simp [OneLine]
  · simp [OneLine]
  · simp [OneLine]
  · simp [OneLine]
  · have high := hex (c.toNat / 16) (by omega)
    have low := hex (c.toNat % 16) (by omega)
    simp [OneLine, high, low]
  · simp [OneLine, feed, ret]

theorem oneLine_jsonString (text : String) : OneLine (jsonString text) := by
  have inner : OneLine (text.toList.flatMap jsonEscape) := by
    intro c mem
    obtain ⟨d, -, mem⟩ := List.mem_flatMap.mp mem
    exact oneLine_jsonEscape d c mem
  exact (OneLine.cons (by decide) inner).append (by simp [OneLine])

theorem oneLine_dumpsValue (value : JsonValue) : OneLine (dumpsValue floats value) := by
  cases value with
  | null => simp [dumpsValue, OneLine]
  | int n => exact oneLine_jsonInt n
  | float x => exact oneLine_dumpsFloat x
  | str text => exact oneLine_jsonString text

theorem oneLine_intercalate {texts : List (List Char)} (h : ∀ text ∈ texts, OneLine text) :
    OneLine ([','].intercalate texts) := by
  induction texts with
  | nil => simp [OneLine]
  | cons text rest ih =>
    have others := ih fun other mem => h other (by simp [mem])
    cases rest with
    | nil => simpa using h text (by simp)
    | cons next more =>
      rw [List.intercalate_cons_cons]
      exact ((h text (by simp)).append (by simp [OneLine])).append others

/-- `json.dumps` escapes every end of a line. -/
theorem oneLine_dumps (payload : Payload) : OneLine (dumps floats payload) := by
  have fields : ∀ text ∈ payload.map (dumpsField floats), OneLine text := by
    intro text mem
    obtain ⟨field, -, rfl⟩ := List.mem_map.mp mem
    exact (oneLine_jsonString field.1).append (OneLine.cons (by decide) (oneLine_dumpsValue field.2))
  exact (OneLine.cons (by decide) (oneLine_intercalate fields)).append (by simp [OneLine])

variable (floats) in
/-- The message that `encode_sse` writes down. -/
def sseMessage (event : String) (eventId : Int) (data : Payload) : Message where
  id := toString eventId
  event := event
  data := String.ofList (dumps floats data)

theorem encodeSse_eq (event : String) (eventId : Int) (data : Payload) :
    encodeSse floats event eventId data = (String.ofList (textOf (sseMessage floats event eventId data))).toUTF8 := by
  refine congrArg String.toUTF8 (String.toList_injective ?_)
  simp [textOf, fieldLine, sseMessage, toString]

theorem whole_sseMessage {event : String} (named : event ≠ "") (within : OneLine event.toList) (eventId : Int)
    (data : Payload) : (sseMessage floats event eventId data).Whole where
  id := by
    simp only [sseMessage, toList_toString_int]
    exact oneLine_jsonInt eventId
  noNul := by
    simp only [sseMessage, toList_toString_int]
    exact notMem_jsonInt rfl (by decide) eventId
  event := within
  named := named
  data := by
    simp only [sseMessage, String.toList_ofList]
    exact oneLine_dumps data

/-- The id of a message as a number. -/
def number (message : Message) : Int := literalInt message.id.toList

variable (floats) in
/-- The message gives an event under a name: its id is the sequence of the event, and its data is JSON from which
`from_payload` builds the event again. -/
structure Tells (name : String) (event : TrackingEvent) (message : Message) : Prop where
  id : number message = event.sequence
  name : message.event = name
  data : ∀ py : Interpreter, py.floats = floats → (∀ field ∈ event.payload, field.2.Printable py.limits) →
    ∃ payload, loads py.reader message.data.toList = .ok payload ∧ TrackingEvent.fromPayload py payload = .ok event

theorem tells_sseMessage (name : String) (event : TrackingEvent) :
    Tells floats name event (sseMessage floats name event.sequence event.payload) where
  id := by
    simp only [number, sseMessage, toList_toString_int]
    exact literalInt_jsonInt event.sequence
  name := rfl
  data py same printable := by
    have filled : event.payload ≠ [] := by simp [TrackingEvent.payload]
    have distinct : (event.payload.map Prod.fst).Nodup := by simp [TrackingEvent.payload]
    have loaded : loads py.reader (dumps py.floats event.payload) = _ := loads_dumps filled printable distinct
    simp only [sseMessage, String.toList_ofList]
    exact ⟨_, same ▸ loaded, fromPayload_payload py event⟩

theorem joined_chunks (messages : List Message) :
    (messages.map fun message => (String.ofList (textOf message)).toUTF8).foldl (· ++ ·) ByteArray.empty =
      (String.ofList (messages.flatMap textOf)).toUTF8 := by
  induction messages using List.reverseRecOn with
  | nil => rfl
  | append_singleton messages last ih =>
    rw [List.map_append, List.foldl_append, ih, List.flatMap_append, String.ofList_append]
    simp

end

/-- The arguments of `order_event_stream`; `floats` prints the coordinates. -/
structure StreamArgs where
  floats : FloatText
  snapshot : TrackingEvent
  lastSequence : Int
  follow : Bool

namespace StreamArgs

def snapshotChunk (args : StreamArgs) : ByteArray :=
  encodeSse args.floats "snapshot" args.snapshot.sequence args.snapshot.payload

def updateChunk (args : StreamArgs) (update : TrackingEvent) : ByteArray :=
  encodeSse args.floats "tracking-position" update.sequence update.payload

/-- The event exceeds `last_sequence`, the sequence of the snapshot, and every sequence taken before it. -/
def IsNew (args : StreamArgs) (before : List TrackingEvent) (update : TrackingEvent) : Prop :=
  args.lastSequence < update.sequence ∧ args.snapshot.sequence < update.sequence ∧
    ∀ earlier ∈ before, earlier.sequence < update.sequence

instance decidableIsNew (args : StreamArgs) (before : List TrackingEvent) (update : TrackingEvent) :
    Decidable (args.IsNew before update) :=
  inferInstanceAs (Decidable (_ ∧ _ ∧ _))

/-- The events of a list that are new where they stand, in their order. -/
def newUpdates (args : StreamArgs) (taken : List TrackingEvent) : List TrackingEvent :=
  (taken.zipIdx.filter fun entry => args.IsNew (taken.take entry.2) entry.1).map Prod.fst

end StreamArgs

/-- Where the generator stands: not started, at one of its two `yield`s, in `await queue.get()`, or finished. -/
inductive StreamStage
  | created
  | atSnapshot
  | waiting
  | atUpdate
  | ended
deriving DecidableEq

/-- The variables that the generator sets when it starts. -/
structure StreamLocals where
  queue : Nat
  floor : Int

/-- The hub and one stream: what the generator holds, and the chunks it has yielded. -/
structure SseStream where
  history : HubHistory
  stage : StreamStage := .created
  locals : Option StreamLocals := none
  chunks : List ByteArray := []

inductive StreamEvent
  | start
  | resume
  | take
  | close
  | hub (call : HubCall)

namespace SseStream

/-- What a client reads from the bytes that the stream has yielded. -/
def received (s : SseStream) : Option (List Message) :=
  (String.fromUTF8? (s.chunks.foldl (· ++ ·) ByteArray.empty)).map fun text => hear text.toList

/-- The `finally` block. -/
def unsubscribed (args : StreamArgs) (s : SseStream) (queue : Nat) : SseStream :=
  { s with history := s.history.after (.unsubscribe args.snapshot.orderId queue), stage := .ended }

/-- One turn of the loop. -/
def turn (args : StreamArgs) (s : SseStream) (here : StreamLocals) (update : TrackingEvent) : SseStream :=
  if update.sequence ≤ here.floor then
    { s with history := s.history.after (.get here.queue) }
  else { s with
    history := s.history.after (.get here.queue)
    stage := .atUpdate
    locals := some { here with floor := update.sequence }
    chunks := s.chunks ++ [args.updateChunk update] }

end SseStream

/-- The steps of the stream and of everyone else at the hub. A generator that is closed, or cancelled where it
waits, runs its `finally` block. -/
inductive StreamStep (args : StreamArgs) : SseStream → StreamEvent → SseStream → Prop
  | start {s} : s.stage = .created →
      StreamStep args s .start { s with
        history := s.history.after (.subscribe args.snapshot.orderId)
        stage := .atSnapshot
        locals := some ⟨(s.history.hub.subscribe args.snapshot.orderId).1,
          max args.lastSequence args.snapshot.sequence⟩
        chunks := s.chunks ++ [args.snapshotChunk] }
  | finish {s here} : s.stage = .atSnapshot → s.locals = some here → args.follow = false →
      StreamStep args s .resume (s.unsubscribed args here.queue)
  | follow {s} : s.stage = .atSnapshot → args.follow = true → StreamStep args s .resume { s with stage := .waiting }
  | resume {s} : s.stage = .atUpdate → StreamStep args s .resume { s with stage := .waiting }
  | take {s here update rest} : s.stage = .waiting → s.locals = some here →
      s.history.waiting here.queue = update :: rest → StreamStep args s .take (s.turn args here update)
  | discard {s} : s.stage = .created → StreamStep args s .close { s with stage := .ended }
  | close {s here} : s.stage ≠ .ended → s.locals = some here →
      StreamStep args s .close (s.unsubscribed args here.queue)
  | hub {s call history} : HubHistory.Step s.history call history →
      (∀ here, s.locals = some here → call.Spares here.queue) → StreamStep args s (.hub call) { s with history }

namespace StreamArgs

variable (args : StreamArgs)

/-- The floor that the generator starts with. -/
def floor : Int := max args.lastSequence args.snapshot.sequence

variable {args}

theorem isNew_iff {before : List TrackingEvent} {update : TrackingEvent} :
    args.IsNew before update ↔ IsRecord TrackingEvent.sequence args.floor before update := by
  simp only [IsNew, IsRecord, floor, max_lt_iff, and_assoc]

theorem newUpdates_eq (taken : List TrackingEvent) :
    args.newUpdates taken = records TrackingEvent.sequence args.floor taken := by
  simp only [newUpdates, records, isNew_iff]

end StreamArgs

namespace SseStream

open HubHistory StreamArgs

variable {args : StreamArgs} {s s' : SseStream} {label : StreamEvent} {here : StreamLocals}

/-- The queue of a started stream is its own, its floor is the largest sequence that it has met, and it has yielded
the snapshot and what was new of the events it has taken. -/
structure Begun (args : StreamArgs) (s : SseStream) (here : StreamLocals) : Prop where
  started : s.stage ≠ .created
  own : s.history.madeFor here.queue = some args.snapshot.orderId
  floor : here.floor = height TrackingEvent.sequence args.floor (s.history.taken here.queue)
  chunks : s.chunks = args.snapshotChunk :: (args.newUpdates (s.history.taken here.queue)).map args.updateChunk
  subscribed : s.history.subscribedTo here.queue = if s.stage = .ended then none else some args.snapshot.orderId

structure Sound (args : StreamArgs) (s : SseStream) : Prop where
  wellFormed : s.history.WellFormed
  untouched : s.history.Untouched
  idle : s.locals = none → s.chunks = []
  begun : ∀ here, s.locals = some here → s.Begun args here

theorem begun_moved {stage : StreamStage} (begun : s.Begun args here) (active : s.stage ≠ .ended)
    (started : stage ≠ .created) (goes_on : stage ≠ .ended) : Begun args { s with stage } here where
  started := started
  own := begun.own
  floor := begun.floor
  chunks := begun.chunks
  subscribed := by simpa [active, goes_on] using begun.subscribed

theorem begun_start (wf : s.history.WellFormed) (untouched : s.history.Untouched) (silent : s.chunks = []) :
    Begun args { s with
      history := s.history.after (.subscribe args.snapshot.orderId)
      stage := .atSnapshot
      locals := some ⟨s.history.hub.nextHandle, args.floor⟩
      chunks := s.chunks ++ [args.snapshotChunk] } ⟨s.history.hub.nextHandle, args.floor⟩ := by
  have nothing : s.history.taken s.history.hub.nextHandle = [] := untouched _ (madeFor_nextHandle wf)
  have kept : (s.history.after (.subscribe args.snapshot.orderId)).taken s.history.hub.nextHandle = [] := nothing
  constructor
  · simp
  · simp [madeFor_after]
  · simp [kept, height]
  · simp [kept, silent, newUpdates]
  · simp [subscribedTo_after]

theorem begun_unsubscribed (begun : s.Begun args here) : (s.unsubscribed args here.queue).Begun args here := by
  constructor
  · simp [unsubscribed]
  · simpa [unsubscribed, madeFor_after] using begun.own
  · exact begun.floor
  · exact begun.chunks
  · simp only [unsubscribed, subscribedTo_after, begun.subscribed]
    split_ifs <;> simp_all

theorem taken_get {update : TrackingEvent} {rest : List TrackingEvent}
    (queued : s.history.waiting here.queue = update :: rest) :
    (s.history.after (.get here.queue)).taken here.queue = s.history.taken here.queue ++ [update] := by
  have filled : s.history.waiting here.queue ≠ [] := by simp [queued]
  simp only [after, taken_takeFrom filled, if_pos, queued, List.head?_cons, Option.toList_some]

/-- The event is dropped exactly if it is not new. -/
theorem begun_turn {update : TrackingEvent} {rest : List TrackingEvent} (begun : s.Begun args here)
    (waits : s.stage = .waiting) (found : s.locals = some here)
    (queued : s.history.waiting here.queue = update :: rest) :
    ∃ next, (s.turn args here update).locals = some next ∧ (s.turn args here update).Begun args next := by
  have taken := taken_get queued
  have active : s.history.subscribedTo here.queue = some args.snapshot.orderId := by
    simpa [waits] using begun.subscribed
  have new : IsRecord TrackingEvent.sequence args.floor (s.history.taken here.queue) update ↔
      here.floor < update.sequence := by
    rw [isRecord_iff, begun.floor]
  by_cases seen : update.sequence ≤ here.floor
  · have old : ¬ IsRecord TrackingEvent.sequence args.floor (s.history.taken here.queue) update := by
      rw [new]
      omega
    refine ⟨here, by simp [turn, seen, found], ?_⟩
    simp only [turn, if_pos seen]
    constructor
    · simp [waits]
    · simpa [madeFor_after] using begun.own
    · rw [taken, height_append, ← begun.floor, max_eq_left seen]
    · rw [begun.chunks, taken, newUpdates_eq, newUpdates_eq, records_append, if_neg old, List.append_nil]
    · simpa [subscribedTo_after, waits] using active
  · have above : here.floor < update.sequence := by omega
    refine ⟨{ here with floor := update.sequence }, by simp [turn, seen], ?_⟩
    simp only [turn, if_neg seen]
    constructor
    · simp
    · simpa [madeFor_after] using begun.own
    · rw [taken, height_append, ← begun.floor, max_eq_right (le_of_lt above)]
    · rw [begun.chunks, taken, newUpdates_eq, newUpdates_eq, records_append, if_pos (new.mpr above), List.map_append]
      rfl
    · simpa [subscribedTo_after] using active

theorem begun_hub {call : HubCall} {history : HubHistory} (wf : s.history.WellFormed) (begun : s.Begun args here)
    (step : HubHistory.Step s.history call history) (spares : call.Spares here.queue) :
    Begun args { s with history } here := by
  have taken : history.taken here.queue = s.history.taken here.queue := taken_after step spares
  have made : s.history.madeFor here.queue ≠ none := by simp [begun.own]
  constructor
  · exact begun.started
  · exact step.2 ▸ madeFor_kept wf begun.own call
  · exact taken ▸ begun.floor
  · exact taken ▸ begun.chunks
  · exact (subscribedTo_kept wf made step spares).trans begun.subscribed

theorem turn_history (update : TrackingEvent) :
    (s.turn args here update).history = s.history.after (.get here.queue) := by
  unfold turn
  split_ifs <;> rfl

theorem Sound.unsubscribed (sound : s.Sound args) (found : s.locals = some here) :
    (s.unsubscribed args here.queue).Sound args where
  wellFormed := sound.wellFormed.step (step_now _ (.unsubscribe ..) (by simp))
  untouched := sound.untouched.step (step_now _ (.unsubscribe ..) (by simp))
  idle unset := by
    rw [show (s.unsubscribed args here.queue).locals = s.locals from rfl, found] at unset
    cases unset
  begun other same := by
    obtain rfl : here = other := Option.some.inj (found.symm.trans same)
    exact begun_unsubscribed (sound.begun here found)

theorem Sound.moved {stage : StreamStage} (sound : s.Sound args) (active : s.stage ≠ .ended)
    (started : stage ≠ .created) (goes_on : stage ≠ .ended) : Sound args { s with stage } where
  wellFormed := sound.wellFormed
  untouched := sound.untouched
  idle := sound.idle
  begun here found := begun_moved (sound.begun here found) active started goes_on

theorem Sound.step (sound : s.Sound args) (step : StreamStep args s label s') : s'.Sound args := by
  cases step with
  | start created =>
    have unset : s.locals = none := by
      by_contra set
      obtain ⟨here, found⟩ := Option.ne_none_iff_exists'.mp set
      exact (sound.begun here found).started created
    have begins := step_now s.history (.subscribe args.snapshot.orderId) (by simp)
    refine ⟨sound.wellFormed.step begins, sound.untouched.step begins, ?_, ?_⟩
    · intro missing
      cases missing
    · intro here found
      obtain rfl := Option.some.inj found
      exact begun_start sound.wellFormed sound.untouched (sound.idle unset)
  | finish stage found => exact sound.unsubscribed found
  | follow stage => exact sound.moved (by simp [stage]) (by simp) (by simp)
  | resume stage => exact sound.moved (by simp [stage]) (by simp) (by simp)
  | @take here update rest stage found queued =>
    obtain ⟨next, set, begun⟩ := begun_turn (sound.begun here found) stage found queued
    have taken : HubHistory.Step s.history (.get here.queue) (s.turn args here update).history := by
      refine ⟨fun handle same => ?_, turn_history update⟩
      obtain rfl := HubCall.get.inj same
      simp [queued]
    refine ⟨sound.wellFormed.step taken, sound.untouched.step taken, ?_, ?_⟩
    · intro missing
      rw [set] at missing
      cases missing
    · intro other same
      obtain rfl := Option.some.inj (set.symm.trans same)
      exact begun
  | discard created =>
    refine ⟨sound.wellFormed, sound.untouched, sound.idle, fun here found => ?_⟩
    exact absurd created (sound.begun here found).started
  | close active found => exact sound.unsubscribed found
  | @hub call history taken spares =>
    refine ⟨sound.wellFormed.step taken, sound.untouched.step taken, sound.idle, fun here found => ?_⟩
    exact begun_hub sound.wellFormed (sound.begun here found) taken (spares here found)

/-- A stream that has not started, at a hub with nothing in it. -/
def opened (size : Int) : SseStream := { history := fresh size }

theorem sound_opened (size : Int) : (opened size).Sound args where
  wellFormed := ⟨by simp [opened, fresh], by simp [opened, fresh], by simp [opened, fresh]⟩
  untouched _ _ := rfl
  idle _ := rfl
  begun here found := by cases found

variable {size : Int} {trace : List (Transition SseStream StreamEvent)}

theorem newUpdates_increasing (taken : List TrackingEvent) :
    (args.newUpdates taken).Pairwise fun u v => u.sequence < v.sequence := by
  rw [newUpdates_eq]
  exact records_increasing

theorem newUpdates_above {taken : List TrackingEvent} {u : TrackingEvent} (mem : u ∈ args.newUpdates taken) :
    args.snapshot.sequence < u.sequence ∧ args.lastSequence < u.sequence := by
  rw [newUpdates_eq] at mem
  have above := records_above mem
  rw [StreamArgs.floor, max_lt_iff] at above
  exact above.symm

/-- A client hears the snapshot, and then an update for each further chunk. -/
theorem received_chunks {updates : List TrackingEvent}
    (chunks : s.chunks = args.snapshotChunk :: updates.map args.updateChunk) :
    s.received = some (sseMessage args.floats "snapshot" args.snapshot.sequence args.snapshot.payload ::
      updates.map fun u => sseMessage args.floats "tracking-position" u.sequence u.payload) := by
  have encoded : s.chunks = (sseMessage args.floats "snapshot" args.snapshot.sequence args.snapshot.payload ::
      updates.map fun u => sseMessage args.floats "tracking-position" u.sequence u.payload).map
        fun message => (String.ofList (textOf message)).toUTF8 := by
    rw [chunks, List.map_cons, List.map_map]
    simp only [snapshotChunk, encodeSse_eq, List.cons.injEq, true_and]
    exact List.map_congr_left fun u _ => encodeSse_eq ..
  rw [received, encoded, joined_chunks, fromUTF8?_toUTF8, Option.map_some, String.toList_ofList, hear_flatMap]
  intro message mem
  rcases List.mem_cons.mp mem with rfl | mem
  · exact whole_sseMessage (by decide) (by simp [OneLine]) _ _
  · obtain ⟨u, -, rfl⟩ := List.mem_map.mp mem
    exact whole_sseMessage (by decide) (by simp [OneLine]) _ _

/-- In every run a stream yields nothing before it starts. Then a client reads from its bytes the snapshot and
exactly those of the events taken from its queue that exceed `last_sequence`, the snapshot and all events taken before
them, in the order taken, one message a chunk; so the ids after the snapshot increase strictly. -/
theorem stream_increases_after_snapshot (run : Exec (StreamStep args) (opened size) trace s) :
    (s.locals = none → s.chunks = []) ∧
    ∀ here, s.locals = some here → ∃ first later,
      s.received = some (first :: later) ∧ s.chunks.length = (first :: later).length ∧
      Tells args.floats "snapshot" args.snapshot first ∧
      List.Forall₂ (Tells args.floats "tracking-position") (args.newUpdates (s.history.taken here.queue)) later ∧
      later.Pairwise (fun m m' => number m < number m') ∧
      ∀ m ∈ later, args.snapshot.sequence < number m ∧ args.lastSequence < number m := by
  have sound : s.Sound args := run.invariant (sound_opened size) fun _ _ _ sound step => sound.step step
  refine ⟨sound.idle, fun here found => ?_⟩
  have chunks := (sound.begun here found).chunks
  generalize updates : args.newUpdates (s.history.taken here.queue) = news at chunks
  have ids (u : TrackingEvent) :
      number (sseMessage args.floats "tracking-position" u.sequence u.payload) = u.sequence :=
    (tells_sseMessage "tracking-position" u).id
  refine ⟨_, _, received_chunks chunks, by simp [chunks], tells_sseMessage .., ?_, ?_, ?_⟩
  · rw [List.forall₂_map_right_iff]
    exact List.forall₂_same.mpr fun u _ => tells_sseMessage ..
  · rw [List.pairwise_map]
    simp only [ids]
    exact updates ▸ newUpdates_increasing _
  · intro m mem
    obtain ⟨u, among, rfl⟩ := List.mem_map.mp mem
    rw [ids]
    exact newUpdates_above (updates ▸ among)

/-- A client that has seen the first two positions. -/
def returningClient : StreamArgs where
  floats := exactFloats
  snapshot := positionUpdate 1
  lastSequence := 2
  follow := true

theorem stream_increases_for_returning_client : ∃ trace s here first update,
    Exec (StreamStep returningClient) (opened 8) trace s ∧ s.locals = some here ∧
    s.history.taken here.queue = [positionUpdate 2, positionUpdate 4, positionUpdate 3] ∧
    s.received = some [first, update] ∧ first.event = "snapshot" ∧ number first = 1 ∧
    update.event = "tracking-position" ∧ number update = 4 ∧
    ∃ payload, loads plainInterpreter.reader update.data.toList = .ok payload ∧
      TrackingEvent.fromPayload plainInterpreter payload = .ok (positionUpdate 4) := by
  have begun : Exec (StreamStep returningClient) (opened 8) _ _ := Exec.start.next (.start rfl)
  have second := begun.next (.hub (step_now _ (.publish (positionUpdate 2)) (by simp)) fun _ _ => trivial)
  have fourth := second.next (.hub (step_now _ (.publish (positionUpdate 4)) (by simp)) fun _ _ => trivial)
  have third := fourth.next (.hub (step_now _ (.publish (positionUpdate 3)) (by simp)) fun _ _ => trivial)
  have waits := third.next (.follow rfl rfl)
  have skipped := waits.next (.take rfl rfl rfl)
  have sent := skipped.next (.take rfl rfl rfl)
  have resumed := sent.next (.resume rfl)
  have run := resumed.next (.take rfl rfl rfl)
  obtain ⟨first, later, received, -, snapshot, updates, -⟩ := (stream_increases_after_snapshot run).2 _ rfl
  have news : returningClient.newUpdates [positionUpdate 2, positionUpdate 4, positionUpdate 3] =
      [positionUpdate 4] := by decide
  replace updates : List.Forall₂ (Tells returningClient.floats "tracking-position")
      (returningClient.newUpdates [positionUpdate 2, positionUpdate 4, positionUpdate 3]) later := updates
  rw [news] at updates
  obtain ⟨update, _, told, rest, rfl⟩ := List.forall₂_cons_left_iff.mp updates
  obtain rfl := List.forall₂_nil_left_iff.mp rest
  have short : (Nat.toDigits 10 4).length ≤ plainInterpreter.limits.digits := by decide
  have printable : ∀ field ∈ (positionUpdate 4).payload, field.2.Printable plainInterpreter.limits := by
    simp [TrackingEvent.payload, positionUpdate, JsonValue.Printable, short]
  exact ⟨_, _, _, first, update, run, rfl, rfl, received, snapshot.name, snapshot.id, told.name, told.id,
    told.data plainInterpreter rfl printable⟩

/-- A stream that has ended is no longer subscribed. -/
theorem ended_unsubscribed (run : Exec (StreamStep args) (opened size) trace s) (found : s.locals = some here)
    (ended : s.stage = .ended) : s.history.subscribedTo here.queue = none := by
  have sound : s.Sound args := run.invariant (sound_opened size) fun _ _ _ sound step => sound.step step
  simpa [ended] using (sound.begun here found).subscribed

end SseStream

end DeliveryService
