import Mathlib.Data.Nat.Digits.Lemmas
import DeliveryService.PyText

namespace DeliveryService

def isLeap (year : Nat) : Bool := year % 4 = 0 && (year % 100 ≠ 0 || year % 400 = 0)

def daysInMonth (year month : Nat) : Nat :=
  if month = 2 then (if isLeap year then 29 else 28)
  else if month ∈ [4, 6, 9, 11] then 30 else 31

/-- Days in the proleptic Gregorian calendar before the given date, counted from 0001-01-01. -/
def daysBefore (year month day : Nat) : Nat :=
  let y := year - 1
  y * 365 + y / 4 - y / 100 + y / 400 + ((List.range (month - 1)).map fun m => daysInMonth year (m + 1)).sum +
    (day - 1)

def microsecondsPerDay : Int := 86400000000

/-- The ranges `datetime` checks; the offset is strictly inside one day. -/
def Datetime.Valid (year month day hour minute second microsecond : Nat) (offset : Int) : Prop :=
  (1 ≤ year ∧ year ≤ 9999 ∧ 1 ≤ month ∧ month ≤ 12 ∧ 1 ≤ day ∧ day ≤ daysInMonth year month) ∧
    (hour < 24 ∧ minute < 60 ∧ second < 60 ∧ microsecond < 1000000) ∧
    -microsecondsPerDay < offset ∧ offset < microsecondsPerDay

instance (year month day hour minute second microsecond : Nat) (offset : Int) :
    Decidable (Datetime.Valid year month day hour minute second microsecond offset) := by
  unfold Datetime.Valid
  infer_instance

/-- A timezone-aware `datetime`: its local fields and its offset from UTC in microseconds. -/
structure Datetime where
  year : Nat
  month : Nat
  day : Nat
  hour : Nat
  minute : Nat
  second : Nat
  microsecond : Nat
  offset : Int
  valid : Datetime.Valid year month day hour minute second microsecond offset
deriving DecidableEq

namespace Datetime

/-- The instant in microseconds; two aware datetimes compare by it. -/
def instant (d : Datetime) : Int :=
  (((daysBefore d.year d.month d.day * 24 + d.hour) * 60 + d.minute) * 60 + d.second : Nat) * 1000000 +
    d.microsecond - d.offset

/-- `n` in decimal, padded with zeros to width `w`. -/
def padded (w n : Nat) : List Char := (Nat.digitsAppend 10 w n).reverse.map Nat.digitChar

def fraction (microsecond : Nat) : List Char :=
  if microsecond = 0 then [] else '.' :: padded 6 microsecond

/-- A duration below one day as `HH:MM`, with seconds and microseconds where it has any. -/
def formatDuration (size : Nat) : List Char :=
  padded 2 (size / 3600000000) ++ ':' :: (padded 2 (size / 60000000 % 60) ++
    (if size % 60000000 = 0 then [] else
      ':' :: (padded 2 (size / 1000000 % 60) ++ fraction (size % 1000000))))

def formatOffset (offset : Int) : List Char :=
  (if offset < 0 then '-' else '+') :: formatDuration offset.natAbs

/-- `datetime.isoformat()` -/
def isoformat (d : Datetime) : String :=
  String.ofList (padded 4 d.year ++ '-' :: (padded 2 d.month ++ '-' :: (padded 2 d.day ++
    'T' :: (padded 2 d.hour ++ ':' :: (padded 2 d.minute ++ ':' :: (padded 2 d.second ++
    (fraction d.microsecond ++ formatOffset d.offset)))))))

def digitValue (c : Char) : Option Nat :=
  if 48 ≤ c.toNat ∧ c.toNat ≤ 57 then some (c.toNat - 48) else none

def readNat (w : Nat) (text : List Char) : Option (Nat × List Char) :=
  if w ≤ text.length then do
    let digits ← (text.take w).mapM digitValue
    pure (Nat.ofDigits 10 digits.reverse, text.drop w)
  else none

def expect (c : Char) : List Char → Option (List Char)
  | [] => none
  | x :: rest => if x = c then some rest else none

def readFraction (text : List Char) : Option (Nat × List Char) :=
  match text with
  | '.' :: rest => readNat 6 rest
  | _ => some (0, text)

def readSeconds (text : List Char) : Option (Nat × List Char) :=
  match text with
  | ':' :: rest => readNat 2 rest
  | _ => some (0, text)

def readDuration (text : List Char) : Option Nat := do
  let (hours, text) ← readNat 2 text
  let text ← expect ':' text
  let (minutes, text) ← readNat 2 text
  let (seconds, text) ← readSeconds text
  let (microseconds, text) ← readFraction text
  if text = [] then some (((hours * 60 + minutes) * 60 + seconds) * 1000000 + microseconds) else none

def readOffset (text : List Char) : Option Int :=
  match text with
  | '+' :: rest => (readDuration rest).map fun size : Nat => (size : Int)
  | '-' :: rest => (readDuration rest).map fun size : Nat => -(size : Int)
  | _ => none

def readDate (text : List Char) : Option ((Nat × Nat × Nat) × List Char) := do
  let (year, text) ← readNat 4 text
  let text ← expect '-' text
  let (month, text) ← readNat 2 text
  let text ← expect '-' text
  let (day, text) ← readNat 2 text
  pure ((year, month, day), text)

def readTime (text : List Char) : Option ((Nat × Nat × Nat × Nat) × List Char) := do
  let (hour, text) ← readNat 2 text
  let text ← expect ':' text
  let (minute, text) ← readNat 2 text
  let text ← expect ':' text
  let (second, text) ← readNat 2 text
  let (microsecond, text) ← readFraction text
  pure ((hour, minute, second, microsecond), text)

/-- `datetime.fromisoformat` on the extended format with an offset, which is the one `isoformat`
writes; `none` is its `ValueError`. -/
def fromisoformat (text : String) : Option Datetime := do
  let ((year, month, day), text) ← readDate text.toList
  let text ← expect 'T' text
  let ((hour, minute, second, microsecond), text) ← readTime text
  let offset ← readOffset text
  if h : Valid year month day hour minute second microsecond offset then
    some ⟨year, month, day, hour, minute, second, microsecond, offset, h⟩
  else none

theorem digitValue_digitChar : ∀ d < 10, digitValue (Nat.digitChar d) = some d := by decide

theorem mapM_digitValue {digits : List Nat} (h : ∀ d ∈ digits, d < 10) :
    (digits.map Nat.digitChar).mapM digitValue = some digits := by
  induction digits with
  | nil => rfl
  | cons d rest ih =>
    simp [List.mapM_cons, digitValue_digitChar d (h d (by simp)), ih (fun x hx => h x (by simp [hx]))]

theorem padded_length {w n : Nat} (h : n < 10 ^ w) : (padded w n).length = w := by
  simp [padded, Nat.length_digitsAppend (by decide) w h]

theorem readNat_padded {w n : Nat} (h : n < 10 ^ w) (rest : List Char) :
    readNat w (padded w n ++ rest) = some (n, rest) := by
  have size := padded_length h
  have value := (Nat.setInvOn_digitsAppend_ofDigits (b := 10) (by decide) w).2 h
  have digits : (padded w n).mapM digitValue = some (Nat.digitsAppend 10 w n).reverse :=
    mapM_digitValue (fun d hd => Nat.lt_of_mem_digitsAppend (by decide) w d (List.mem_reverse.mp hd))
  have fits : w ≤ (padded w n ++ rest).length := by simp [size]
  simp only [readNat, if_pos fits, List.take_left' size, List.drop_left' size, digits]
  simp [value]

@[simp]
theorem expect_cons (c : Char) (rest : List Char) : expect c (c :: rest) = some rest := by
  simp [expect]

theorem readFraction_fraction {microsecond : Nat} (h : microsecond < 1000000) {rest : List Char}
    (hr : ∀ tail, rest ≠ '.' :: tail) :
    readFraction (fraction microsecond ++ rest) = some (microsecond, rest) := by
  unfold fraction
  split
  next zero =>
    subst zero
    unfold readFraction
    split
    next tail he => exact absurd he (hr tail)
    next => rfl
  next => exact readNat_padded (w := 6) h rest

theorem readDuration_formatDuration {size : Nat} (h : size < 86400000000) :
    readDuration (formatDuration size) = some size := by
  have hours : size / 3600000000 < 10 ^ 2 := by omega
  have minutes : size / 60000000 % 60 < 10 ^ 2 := by omega
  have seconds : size / 1000000 % 60 < 10 ^ 2 := by omega
  have micros : size % 1000000 < 1000000 := Nat.mod_lt _ (by decide)
  have whole : ((size / 3600000000 * 60 + size / 60000000 % 60) * 60 + size / 1000000 % 60) * 1000000 +
      size % 1000000 = size := by omega
  unfold readDuration formatDuration
  simp only [readNat_padded hours, expect_cons, Option.bind_eq_bind, Option.bind_some,
    readNat_padded minutes]
  by_cases full : size % 60000000 = 0
  · have none_left : size / 1000000 % 60 = 0 ∧ size % 1000000 = 0 := by omega
    rw [none_left.1, none_left.2] at whole
    simpa [full, readSeconds, readFraction] using whole
  · have ended : readFraction (fraction (size % 1000000)) = some (size % 1000000, []) := by
      simpa using readFraction_fraction micros (fun tail => (List.cons_ne_nil '.' tail).symm)
    simp [full, readSeconds, readNat_padded seconds, ended, whole]

theorem readOffset_formatOffset {offset : Int}
    (low : -microsecondsPerDay < offset) (high : offset < microsecondsPerDay) :
    readOffset (formatOffset offset) = some offset := by
  simp only [microsecondsPerDay] at low high
  have size : readDuration (formatDuration offset.natAbs) = some offset.natAbs :=
    readDuration_formatDuration (by omega)
  by_cases neg : offset < 0
  · have sign : -(offset.natAbs : Int) = offset := by omega
    rw [formatOffset, if_pos neg]
    simp only [readOffset, size, Option.map_some, sign]
  · have sign : (offset.natAbs : Int) = offset := by omega
    rw [formatOffset, if_neg neg]
    simp only [readOffset, size, Option.map_some, sign]

theorem readDate_padded {year month day : Nat} (years : year ≤ 9999) (months : month ≤ 12)
    (days : day ≤ daysInMonth year month) (rest : List Char) :
    readDate (padded 4 year ++ '-' :: (padded 2 month ++ '-' :: (padded 2 day ++ rest))) =
      some ((year, month, day), rest) := by
  have short : day < 10 ^ 2 := by
    have : daysInMonth year month ≤ 31 := by
      unfold daysInMonth
      split_ifs <;> omega
    omega
  simp [readDate, readNat_padded (w := 4) (n := year) (by omega), readNat_padded (w := 2) (n := month) (by omega),
    readNat_padded short]

theorem readTime_padded {hour minute second microsecond : Nat}
    (time : hour < 24 ∧ minute < 60 ∧ second < 60 ∧ microsecond < 1000000) {rest : List Char}
    (noDot : ∀ tail, rest ≠ '.' :: tail) :
    readTime (padded 2 hour ++ ':' :: (padded 2 minute ++ ':' :: (padded 2 second ++
      (fraction microsecond ++ rest)))) = some ((hour, minute, second, microsecond), rest) := by
  simp [readTime, readNat_padded (w := 2) (n := hour) (by omega), readNat_padded (w := 2) (n := minute) (by omega),
    readNat_padded (w := 2) (n := second) (by omega), readFraction_fraction time.2.2.2 noDot]

theorem fromisoformat_isoformat (d : Datetime) : fromisoformat d.isoformat = some d := by
  obtain ⟨⟨_, years, _, months, _, days⟩, time, low, high⟩ := d.valid
  have noDot : ∀ tail, formatOffset d.offset ≠ '.' :: tail := by
    intro tail he
    have head := (List.cons.inj he).1
    split at head <;> simp at head
  simp only [fromisoformat, isoformat, String.toList_ofList, readDate_padded years months days, Option.bind_eq_bind,
    Option.bind_some, expect_cons, readTime_padded time noDot, readOffset_formatOffset low high, dif_pos d.valid]

end Datetime

end DeliveryService
