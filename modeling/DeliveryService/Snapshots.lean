import DeliveryService.SqlAlone
import DeliveryService.TrackingBus

namespace DeliveryService

open SqlAlchemyOrderRepository

/-- An order whose `created_at` has any `tzinfo`; `isoformat` reads of it what `order` has. -/
structure ZonedOrder where
  order : DeliveryOrder
  createdAt : PyDatetime
  stands : createdAt.stamp = .aware order.createdAt

/-- `==` of the dataclass, with an order that was decoded. -/
def ZonedOrder.Equals (zoned : ZonedOrder) (decoded : DeliveryOrder) : Prop :=
  decoded = { zoned.order with createdAt := decoded.createdAt } ∧ zoned.createdAt.Equals (.aware decoded.createdAt)

/-- An event whose `recorded_at` is naive or has any `tzinfo`. -/
structure ZonedEvent where
  event : TrackingEvent
  recordedAt : Option PyDatetime
  stands : recordedAt.map PyDatetime.stamp = event.recordedAt

def ZonedEvent.Equals (zoned : ZonedEvent) (decoded : TrackingEvent) : Prop :=
  decoded = { zoned.event with recordedAt := decoded.recordedAt } ∧
    match zoned.recordedAt, decoded.recordedAt with
    | none, none => True
    | some time, some time' => time.Equals time'
    | _, _ => False

/-- The payload once it was stored as JSON and loaded again. -/
def TrackingEvent.stored (event : TrackingEvent) : PyJson.Json :=
  .dict (event.payload.map fun field => (field.1, field.2.loaded))

theorem ZonedOrder.equals_order_iff (zoned : ZonedOrder) : zoned.Equals zoned.order ↔ zoned.createdAt.FoldFree := by
  rw [Equals, ← zoned.stands, PyDatetime.equals_stamp_iff]
  exact and_iff_right rfl

theorem ZonedEvent.equals_event_iff (zoned : ZonedEvent) :
    zoned.Equals zoned.event ↔ ∀ time ∈ zoned.recordedAt, time.FoldFree := by
  rw [Equals, and_iff_right rfl, ← zoned.stands]
  cases zoned.recordedAt with
  | none => simp
  | some time => simp [PyDatetime.equals_stamp_iff]

/-- What was encoded is decoded with every field, the local fields and the offset of its time included. The
result equals the original exactly where the offset of that time is the same at either fold. So it does for a
naive time and for every fixed offset. -/
theorem snapshots_decode_iff (py : Interpreter) :
    (∀ zoned : ZonedOrder, domainFromSnapshot (responseSnapshot zoned.order) = .ok zoned.order ∧
      (zoned.Equals zoned.order ↔ zoned.createdAt.FoldFree)) ∧
    (∀ zoned : ZonedEvent, TrackingEvent.fromPayload py zoned.event.stored = .ok zoned.event ∧
      (zoned.Equals zoned.event ↔ ∀ time ∈ zoned.recordedAt, time.FoldFree)) ∧
    ∀ d : PyDatetime, d.tzinfo = none ∨ (∃ offset, d.tzinfo = some (.timezone offset)) → d.FoldFree := by
  refine ⟨fun zoned => ⟨?_, zoned.equals_order_iff⟩, fun zoned => ⟨?_, zoned.equals_event_iff⟩,
    fun _ => PyDatetime.foldFree_of_fixed⟩
  · exact domainFromSnapshot_responseSnapshot zoned.order
  · exact fromPayload_payload py zoned.event

/-- 7 November 2021 in New York: at two the clocks go back to one. -/
def newYorkOffset (time : LocalTime) (fold : Bool) : Int :=
  if time.hour < 1 ∨ (time.hour = 1 ∧ fold = false) then -14400000000 else -18000000000

theorem newYorkOffset_bounds (time : LocalTime) (fold : Bool) :
    -microsecondsPerDay < newYorkOffset time fold ∧ newYorkOffset time fold < microsecondsPerDay := by
  unfold newYorkOffset
  split_ifs <;> decide

def newYork : TzInfo := ⟨fun time fold => ⟨newYorkOffset time fold, newYorkOffset_bounds time fold⟩⟩

theorem halfPastOne_valid : Datetime.Valid 2021 11 7 1 30 0 0 0 := by decide

/-- The first half past one of that night. -/
def halfPastOne : PyDatetime := { time := ⟨2021, 11, 7, 1, 30, 0, 0, halfPastOne_valid⟩, tzinfo := some newYork }

theorem halfPastOne_summer_valid : Datetime.Valid 2021 11 7 1 30 0 0 (-14400000000) := by decide

def nightOrder : DeliveryOrder where
  id := 1
  tenantId := defaultTenantId
  customerId := 7
  pickupAddress := "Main Street 1"
  destinationAddress := "Side Street 2"
  weightGrams := 500
  status := .created
  courierId := none
  version := 1
  createdAt := ⟨2021, 11, 7, 1, 30, 0, 0, -14400000000, halfPastOne_summer_valid⟩

theorem halfPastOne_stamp : halfPastOne.stamp = .aware nightOrder.createdAt := rfl

/-- Half past one comes twice that night, so what is decoded does not equal the original. -/
theorem repeated_hour_decodes_unequal : ¬ ∀ zoned : ZonedOrder, ∃ decoded,
    domainFromSnapshot (responseSnapshot zoned.order) = .ok decoded ∧ zoned.Equals decoded := by
  intro all
  obtain ⟨decoded, read, equal⟩ := all ⟨nightOrder, halfPastOne, halfPastOne_stamp⟩
  rw [domainFromSnapshot_responseSnapshot] at read
  obtain rfl := Except.ok.inj read
  have free := (ZonedOrder.equals_order_iff _).mp equal newYork rfl
  exact absurd (congrArg Subtype.val free) (by decide)

end DeliveryService
