import DeliveryService.Datetime

namespace DeliveryService

/-- The local fields of a `datetime`; without a `tzinfo` they are all that it has. -/
structure LocalTime where
  year : Nat
  month : Nat
  day : Nat
  hour : Nat
  minute : Nat
  second : Nat
  microsecond : Nat
  valid : Datetime.Valid year month day hour minute second microsecond 0
deriving DecidableEq

/-- A distance from UTC in microseconds, as `utcoffset` may answer. -/
def UtcOffset : Type := { offset : Int // -microsecondsPerDay < offset ∧ offset < microsecondsPerDay }
deriving DecidableEq

namespace LocalTime

def withOffset (time : LocalTime) (offset : UtcOffset) : Datetime where
  year := time.year
  month := time.month
  day := time.day
  hour := time.hour
  minute := time.minute
  second := time.second
  microsecond := time.microsecond
  offset := offset.1
  valid := ⟨time.valid.1, time.valid.2.1, offset.2⟩

open Datetime in
/-- `isoformat()` of a naive `datetime`. -/
def isoformat (time : LocalTime) : String :=
  String.ofList (padded 4 time.year ++ '-' :: (padded 2 time.month ++ '-' :: (padded 2 time.day ++
    'T' :: (padded 2 time.hour ++ ':' :: (padded 2 time.minute ++ ':' :: (padded 2 time.second ++
    fraction time.microsecond))))))

open Datetime in
/-- `datetime.fromisoformat` on the text that `isoformat` writes without an offset. -/
def fromisoformat (text : String) : Option LocalTime := do
  let ((year, month, day), text) ← readDate text.toList
  let text ← expect 'T' text
  let ((hour, minute, second, microsecond), text) ← readTime text
  if h : text = [] ∧ Valid year month day hour minute second microsecond 0 then
    some ⟨year, month, day, hour, minute, second, microsecond, h.2⟩
  else none

end LocalTime

/-- A `datetime` as its text has it: naive, or with its offset. -/
inductive Timestamp
  | naive (time : LocalTime)
  | aware (time : Datetime)
deriving DecidableEq

namespace Timestamp

def isoformat : Timestamp → String
  | .naive time => time.isoformat
  | .aware time => time.isoformat

/-- `datetime.fromisoformat` on the texts that `isoformat` writes. -/
def fromisoformat (text : String) : Option Timestamp :=
  ((Datetime.fromisoformat text).map aware).or ((LocalTime.fromisoformat text).map naive)

end Timestamp

/-- A `tzinfo`: the offset of a local time, by the fold of that time. -/
structure TzInfo where
  utcoffset : LocalTime → Bool → UtcOffset

/-- `datetime.timezone(offset)` -/
def TzInfo.timezone (offset : UtcOffset) : TzInfo := ⟨fun _ _ => offset⟩

structure PyDatetime where
  time : LocalTime
  fold : Bool := false
  tzinfo : Option TzInfo := none

namespace PyDatetime

/-- What `isoformat` reads: the local fields and the offset. -/
def stamp (d : PyDatetime) : Timestamp :=
  match d.tzinfo with
  | none => .naive d.time
  | some tz => .aware (d.time.withOffset (tz.utcoffset d.time d.fold))

def isoformat (d : PyDatetime) : String := d.stamp.isoformat

/-- The offset is the same at either fold; in an hour that a zone repeats or skips it is not. -/
def FoldFree (d : PyDatetime) : Prop := ∀ tz ∈ d.tzinfo, tz.utcoffset d.time true = tz.utcoffset d.time false

/-- `==` with a `datetime` that is naive or has a fixed offset, as `fromisoformat` builds them: the instants are the
same, and no local time that a zone repeats or skips equals a time of another zone. -/
def Equals (d : PyDatetime) (other : Timestamp) : Prop :=
  match d.stamp, other with
  | .naive time, .naive time' => time = time'
  | .aware time, .aware time' => time.instant = time'.instant ∧ d.FoldFree
  | _, _ => False

end PyDatetime

open Datetime in
theorem LocalTime.read_isoformat (time : LocalTime) : ∃ text, readDate time.isoformat.toList =
    some ((time.year, time.month, time.day), 'T' :: text) ∧
      readTime text = some ((time.hour, time.minute, time.second, time.microsecond), []) := by
  obtain ⟨⟨_, years, _, months, _, days⟩, clock, _⟩ := time.valid
  have ended : ∀ tail, [] ≠ '.' :: tail := fun tail => (List.cons_ne_nil '.' tail).symm
  have read := readTime_padded clock ended
  rw [List.append_nil] at read
  rw [isoformat, String.toList_ofList]
  exact ⟨_, readDate_padded years months days _, read⟩

theorem LocalTime.fromisoformat_isoformat (time : LocalTime) : fromisoformat time.isoformat = some time := by
  obtain ⟨text, date, clock⟩ := time.read_isoformat
  simp only [fromisoformat, date, Option.bind_eq_bind, Option.bind_some, Datetime.expect_cons, clock, true_and,
    dif_pos time.valid]

/-- A text without an offset is no aware `datetime`. -/
theorem Datetime.fromisoformat_naive (time : LocalTime) : fromisoformat time.isoformat = none := by
  obtain ⟨text, date, clock⟩ := time.read_isoformat
  simp only [fromisoformat, date, Option.bind_eq_bind, Option.bind_some, expect_cons, clock, readOffset, Option.bind_none]

theorem Timestamp.fromisoformat_isoformat (stamp : Timestamp) : fromisoformat stamp.isoformat = some stamp := by
  cases stamp with
  | naive time =>
    simp only [fromisoformat, isoformat, Datetime.fromisoformat_naive, LocalTime.fromisoformat_isoformat,
      Option.map_none, Option.map_some, Option.none_or]
  | aware time =>
    simp only [fromisoformat, isoformat, Datetime.fromisoformat_isoformat, Option.map_some, Option.some_or]

theorem PyDatetime.foldFree_of_fixed {d : PyDatetime}
    (fixed : d.tzinfo = none ∨ ∃ offset, d.tzinfo = some (.timezone offset)) : d.FoldFree := by
  intro tz known
  rcases fixed with naive | ⟨offset, aware⟩
  · simp [naive] at known
  · obtain rfl : TzInfo.timezone offset = tz := by simpa [aware] using known
    rfl

/-- What is read back equals the `datetime` that was written exactly when its offset is the same at either fold. -/
theorem PyDatetime.equals_stamp_iff (d : PyDatetime) : d.Equals d.stamp ↔ d.FoldFree := by
  obtain ⟨time, fold, tzinfo⟩ := d
  cases tzinfo with
  | none => simp [Equals, stamp, FoldFree]
  | some tz => simp [Equals, stamp]

end DeliveryService
