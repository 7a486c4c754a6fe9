import Reconcile.Document.Numeral
import Reconcile.Text.Blank
import Reconcile.Text.Quoted
import Reconcile.Text.Utf8
import Reconcile.Time.Timestamp

/-!
# Reading time stamps

The reader takes the spellings of ISO 8601: a calendar date or a week date, basic
or extended, and after any one character a time of day with as many parts as
wanted, a fraction of a second and an offset. It works on the bytes of the text,
here written as characters below U+0100. The one character may also be a half of a
surrogate pair, for which a `T` is put; elsewhere no half is taken.

It is lenient in three ways. Hyphens and colons need only be consistent within
the date and within the time. A fraction has as many digits as wanted, of which
six count. And between the time and its offset, one character may stand that
is passed over.
-/

namespace Reconcile.Time.Timestamp

/-- Why a text is no time stamp. -/
inductive ReadError
  /-- The text is spelt in no accepted way. -/
  | spelling (text : Text)
  /-- The offset, in microseconds, is a day or more. -/
  | offset (microseconds : Int)
  | range (fault : RangeFault)
deriving DecidableEq

/-- A number of microseconds as days, seconds and microseconds, of which only
the days may be negative; parts that are zero are left out. -/
def durationText (microseconds : Int) : String :=
  let seconds := microseconds / secondLength
  let parts := [("days", seconds / 86400), ("seconds", seconds % 86400),
    ("microseconds", microseconds % secondLength)]
  let shown := (parts.filter (·.2 ≠ 0)).map fun part => part.1 ++ "=" ++ toString part.2
  "datetime.timedelta(" ++ (if shown.isEmpty then "0" else ", ".intercalate shown) ++ ")"

/-- The wording of a reading error. -/
def ReadError.message : ReadError → String
  | .spelling text => s!"Invalid isoformat string: {text.quote}"
  | .offset microseconds =>
    "offset must be a timedelta strictly between -timedelta(hours=24) and timedelta(hours=24), " ++
      s!"not {durationText microseconds}."
  | .range fault => fault.message

/-- The bytes of some characters, each as a character. -/
def byteChars (s : List Char) : List Char := (Utf8.encode s).map fun b => Char.ofNat b.toNat

/-- The number in the first `count` characters, all digits, and what follows. -/
def fixedDigits? (count : Nat) (s : List Char) : Option (Nat × List Char) :=
  let ds := s.take count
  if ds.length = count ∧ ds.all Char.isDigit then some (ofDigits ds, s.drop count) else none

/-! ## Dates -/

/-- How many bytes the date takes. A week date in the basic form is told from the
time after it by the parity of the row of digits they make. -/
def dateLength? (s : List Char) : Option Nat :=
  let size := s.length
  if size < 7 then none
  else if size = 7 then some 7
  else if s[4]? = some '-' then
    if s[5]? = some 'W' then
      if s[8]? = some '-' then
        if size = 9 then none
        else if s[10]?.any Char.isDigit then some 8
        else some 10
      else some 8
    else some 10
  else if s[4]? = some 'W' then
    let digitsEnd := 7 + ((s.drop 7).takeWhile Char.isDigit).length
    some (if digitsEnd < 9 then digitsEnd else if digitsEnd % 2 = 0 then 7 else 8)
  else some 8

/-- What follows a hyphen, where one is wanted. -/
def afterHyphen? (wanted : Bool) (s : List Char) : Option (List Char) :=
  if wanted then
    match s with
    | '-' :: rest => some rest
    | _ => none
  else some s

/-- The date that `s` is, whether or not the calendar has it. -/
def readDate? (s : List Char) : Option Date := do
  let (year, rest) ← fixedDigits? 4 s
  let hyphens := rest.head? = some '-'
  let rest ← afterHyphen? hyphens rest
  match rest with
  | 'W' :: rest =>
    let (week, rest) ← fixedDigits? 2 rest
    if rest.isEmpty then
      return ← Date.ofWeekDate? year week 1
    let (day, rest) ← fixedDigits? 1 (← afterHyphen? hyphens rest)
    guard rest.isEmpty
    return ← Date.ofWeekDate? year week day
  | rest =>
    let (month, rest) ← fixedDigits? 2 rest
    let (day, rest) ← fixedDigits? 2 (← afterHyphen? hyphens rest)
    guard rest.isEmpty
    return ⟨year, month, day⟩

/-! ## Times -/

/-- How a row of hours, minutes and seconds ends: with the time itself, possibly
followed by something else, or with the digits of a fraction. -/
inductive RowEnd
  | complete (excess : Bool)
  | fraction (digits : List Char)

/-- Whether something else than the end of a text, or the null character that
stands for it, is left. -/
def isExcess (rest : List Char) : Bool :=
  match rest with
  | [] => false
  | c :: _ => c ≠ '\x00'

/-- At most `count` numbers of two digits, with colons between them or without;
`colons` is open before the first. -/
def readRow? : (count : Nat) → (colons : Option Bool) → List Char → Option (List Nat × RowEnd)
  | 0, _, s => some ([], .fraction s)
  | count + 1, colons, s => do
    let (n, rest) ← fixedDigits? 2 s
    match rest with
    | [] => return ([n], .complete false)
    | [c] => return ([n], .complete (isExcess [c]))
    | c :: rest =>
      let colons := colons.getD (c = ':')
      if colons && c = ':' then
        let (row, ending) ← readRow? count colons rest
        return (n :: row, ending)
      else if c = '.' || c = ',' then return ([n], .fraction rest)
      else if colons then none
      else
        let (row, ending) ← readRow? count colons (c :: rest)
        return (n :: row, ending)

/-- The time of day that `s` is, and whether something follows it. -/
def readTime? (s : List Char) : Option (TimeOfDay × Bool) := do
  let (row, ending) ← readRow? 3 none s
  let (microsecond, excess) ←
    match ending with
    | .complete excess => some (0, excess)
    | .fraction digits => do
      let count := min 6 digits.length
      let (n, rest) ← fixedDigits? count digits
      some (n * Nat.pow 10 (6 - count), isExcess (rest.dropWhile Char.isDigit))
  return (⟨row.getD 0 0, row.getD 1 0, row.getD 2 0, microsecond⟩, excess)

/-- An offset as written: its whole seconds and the microseconds beside them. -/
structure WrittenOffset where
  seconds : Int
  microseconds : Int

/-- The offset after its mark. -/
def readOffset? (mark : Char) (s : List Char) : Option WrittenOffset :=
  if mark = 'Z' then if isExcess s then none else some ⟨0, 0⟩
  else do
    let (t, excess) ← readTime? s
    if excess then none
    let sign : Int := if mark = '-' then -1 else 1
    return ⟨sign * ((t.hour * 60 + t.minute) * 60 + t.second : Nat), sign * t.microsecond⟩

/-- Whether an offset begins here. -/
def isOffsetMark (c : Char) : Bool := c = '+' || c = '-' || c = 'Z'

/-- A time of day and the offset after it, if there is one. -/
def readClock? (s : List Char) : Option (TimeOfDay × Option WrittenOffset) := do
  let (t, excess) ← readTime? (s.takeWhile (!isOffsetMark ·))
  match s.dropWhile (!isOffsetMark ·) with
  | [] => if excess then none else return (t, none)
  | mark :: rest => return (t, some (← readOffset? mark rest))

/-! ## Time stamps -/

/-- The number of bytes of the character that begins with byte `c`. -/
def charSize (c : Char) : Nat :=
  if c.toNat < 0x80 then 1 else if c.toNat < 0xE0 then 2 else if c.toNat < 0xF0 then 3 else 4

/-- The fields of the time stamp that `s` is. -/
def readFields? (s : List Char) : Option (Date × TimeOfDay × Option WrittenOffset) := do
  let length ← dateLength? s
  let date ← readDate? (s.take length)
  match s.drop length with
  | [] => return (date, ⟨0, 0, 0, 0⟩, none)
  | c :: rest =>
    let (t, offset) ← readClock? ((c :: rest).drop (charSize c))
    return (date, t, offset)

/-- An offset within a day; without whole seconds it counts as none at all. -/
def WrittenOffset.offset (w : WrittenOffset) : Except ReadError Offset :=
  if w.seconds = 0 then .ok .utc
  else
    let microseconds := w.seconds * secondLength + w.microseconds
    if h : -(dayLength : Int) < microseconds ∧ microseconds < dayLength then
      .ok ⟨microseconds, h.1, h.2⟩
    else .error (.offset microseconds)

/-- The code points without blanks at their ends, and with a final `Z` spelt out. -/
def normalForm (ps : List Point) : List Point :=
  let ps := Text.trimPoints ps
  if ps.getLast? = some (.char 'Z') then ps.dropLast ++ "+00:00".toList.map .char else ps

/-- The places where the character between a date and a time may stand. -/
def separatorPlaces : List Nat := [7, 8, 10]

/-- The code points with a `T` for the first half that stands at one of those places. -/
def withSeparator (ps : List Point) : List Point :=
  match separatorPlaces.find? fun i => ps[i]?.any fun p => p.char?.isNone with
  | some i => ps.set i (.char 'T')
  | none => ps

/-- The characters that are read as a time stamp, unless a half is among them. -/
def readable? (ps : List Point) : Option (List Char) := (withSeparator ps).mapM Point.char?

/-- Reads a time stamp; without an offset it is one of UTC. -/
def read (written : Text) : Except ReadError Timestamp := do
  let ps := normalForm written.points
  match (readable? ps).bind fun s => readFields? (byteChars s) with
  | none => throw (.spelling (.ofPoints ps))
  | some (date, time, offset) =>
    let offset ← match offset with
      | none => pure .utc
      | some w => w.offset
    (ofFields date time (some offset)).mapError .range

end Reconcile.Time.Timestamp
