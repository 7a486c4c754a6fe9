import Reconcile.Time.Calendar

/-!
# Time stamps

A time stamp is what a wall clock showed, to the microsecond, and how far that
clock was ahead of UTC. A time stamp without an offset is read as UTC. Two time
stamps are equal if they stand for the same instant.
-/

namespace Reconcile.Time

/-- The number of microseconds in a second. -/
def secondLength : Nat := 1000000

/-- The number of microseconds in a day. -/
def dayLength : Nat := 86400 * secondLength

/-- The microseconds from the start of year 1 to the end of the greatest year. -/
def wallLimit : Nat := dayLimit * dayLength

/-- A time of day. -/
structure TimeOfDay where
  hour : Nat
  minute : Nat
  second : Nat
  microsecond : Nat
deriving DecidableEq, Inhabited

/-- The microseconds since midnight. -/
def TimeOfDay.microseconds (t : TimeOfDay) : Nat :=
  ((t.hour * 60 + t.minute) * 60 + t.second) * secondLength + t.microsecond

/-- How far a clock is ahead of UTC, in microseconds: less than a day, either way. -/
structure Offset where
  microseconds : Int
  neg_lt : -(dayLength : Int) < microseconds
  lt : microseconds < dayLength
deriving DecidableEq

/-- The offset of UTC itself. -/
def Offset.utc : Offset := ⟨0, by decide, by decide⟩

/-- What a wall clock showed, as microseconds since the start of year 1, and the
offset of that clock, if known. -/
structure Timestamp where
  wall : Nat
  wall_lt : wall < wallLimit
  offset : Option Offset

namespace Timestamp

/-- The instant that a time stamp stands for, in microseconds of UTC since the
start of year 1. -/
def instant (t : Timestamp) : Int := t.wall - (t.offset.map Offset.microseconds).getD 0

instance : BEq Timestamp := ⟨fun s t => s.instant = t.instant⟩

theorem beq_iff {s t : Timestamp} : (s == t) = true ↔ s.instant = t.instant := decide_eq_true_iff

/-- A part of a date or time that is out of its range. -/
inductive RangeFault
  | year (written : Int)
  | month
  | day
  | hour
  | minute
  | second
  | microsecond
deriving DecidableEq

/-- The wording of a range fault. -/
def RangeFault.message : RangeFault → String
  | .year y => s!"year {y} is out of range"
  | .month => "month must be in 1..12"
  | .day => "day is out of range for month"
  | .hour => "hour must be in 0..23"
  | .minute => "minute must be in 0..59"
  | .second => "second must be in 0..59"
  | .microsecond => "microsecond must be in 0..999999"

theorem wall_bound {d : Date} (hd : d.Valid) {t : TimeOfDay} (hh : t.hour ≤ 23)
    (hm : t.minute ≤ 59) (hs : t.second ≤ 59) (hu : t.microsecond ≤ 999999) :
    d.dayNumber * dayLength + t.microseconds < wallLimit := by
  have hday := hd.dayNumber_lt
  have htime : t.microseconds < dayLength := by
    simp only [TimeOfDay.microseconds, dayLength, secondLength]; omega
  have : (d.dayNumber + 1) * dayLength ≤ wallLimit := Nat.mul_le_mul_right _ hday
  rw [Nat.add_mul, Nat.one_mul] at this
  omega

/-- The time stamp of a date and a time of day. Of several faults, the one in
the longest span is reported. -/
def ofFields (d : Date) (t : TimeOfDay) (offset : Option Offset) : Except RangeFault Timestamp :=
  if hy : 1 ≤ d.year ∧ d.year ≤ maxYear then
    if hm : 1 ≤ d.month ∧ d.month ≤ 12 then
      if hd : 1 ≤ d.day ∧ d.day ≤ monthLength (isLeap d.year) d.month then
        if hh : t.hour ≤ 23 then
          if hn : t.minute ≤ 59 then
            if hs : t.second ≤ 59 then
              if hu : t.microsecond ≤ 999999 then
                .ok ⟨d.dayNumber * dayLength + t.microseconds,
                  wall_bound ⟨hy.1, hy.2, hm.1, hm.2, hd.1, hd.2⟩ hh hn hs hu, offset⟩
              else .error .microsecond
            else .error .second
          else .error .minute
        else .error .hour
      else .error .day
    else .error .month
  else .error (.year d.year)

/-- The time stamp of whole numbers, which are out of range if they are negative. -/
def ofNumbers (year month day hour minute second microsecond : Int) :
    Except RangeFault Timestamp :=
  if year < 0 then .error (.year year)
  else
    let part (n : Int) : Nat := if n < 0 then secondLength else n.toNat
    ofFields ⟨year.toNat, month.toNat, day.toNat⟩
      ⟨part hour, part minute, part second, part microsecond⟩ none

/-! ## Text in UTC -/

/-- The last `width` decimal digits of `n`. -/
def padded : (width : Nat) → (n : Nat) → List Char
  | 0, _ => []
  | width + 1, n => padded width (n / 10) ++ [Nat.digitChar (n % 10)]

/-- The text of a date. -/
def dateText (d : Date) : List Char :=
  padded 4 d.year ++ '-' :: padded 2 d.month ++ '-' :: padded 2 d.day

/-- The text of a time of day given in microseconds; the fraction of a second is
left out if it is zero. -/
def timeText (microseconds : Nat) : List Char :=
  let seconds := microseconds / secondLength
  let fraction := microseconds % secondLength
  padded 2 (seconds / 3600) ++ ':' :: padded 2 (seconds / 60 % 60) ++
    ':' :: padded 2 (seconds % 60) ++ (if fraction = 0 then [] else '.' :: padded 6 fraction)

/-- The text of an instant of UTC within the calendar. -/
def utcText (instant : Nat) : List Char :=
  dateText (Date.ofDayNumber (instant / dayLength)) ++ 'T' :: timeText (instant % dayLength) ++
    "+00:00".toList

/-- The text of a time stamp in UTC, unless its instant is outside the calendar. -/
def text? (t : Timestamp) : Option String :=
  if 0 ≤ t.instant ∧ t.instant < wallLimit then some (String.ofList (utcText t.instant.toNat))
  else none

end Timestamp

end Reconcile.Time
