import Reconcile.Document.Nesting
import Reconcile.Document.Numeral
import Reconcile.Document.Value
import Reconcile.Time.Calendar

/-!
# Scalars and keys of TOML

Texts, numbers, dates and times, and the keys of a document. Each reader takes
what it can from the front of its input and returns what follows.
-/

namespace Reconcile.Toml

/-- Why reading stops: the document breaks a rule, or holds a whole number that is
too long or a value that is nested too deep. -/
inductive Stop
  | malformed
  | longInteger (digits : Nat)
  | tooDeep
deriving DecidableEq

/-- Stops because a rule is broken. -/
def refuse {α : Type} : Except Stop α := .error .malformed

/-- The value found, or a refusal. -/
def orRefuse {α : Type} : Option α → Except Stop α
  | some a => .ok a
  | none => refuse

/-- The room left within one more list or table. -/
def roomWithin (room : Nat) (nest : Nest) : Except Stop Nat :=
  if room < nest.tomlSize then .error .tooDeep else .ok (room - nest.tomlSize)

/-- Whether `c` is a blank within a line. -/
def isBlank (c : Char) : Bool := c = ' ' || c = '\t'

/-- What follows the blanks at the front. -/
def skipBlanks (s : List Char) : List Char := s.dropWhile isBlank

/-- What follows the blanks and ends of lines at the front. -/
def skipSpace (s : List Char) : List Char := s.dropWhile fun c => isBlank c || c = '\n'

/-- Whether `c` is a control character, the tab excepted. -/
def isControl (c : Char) : Bool := (c.toNat < 0x20 && c ≠ '\t') || c.toNat = 0x7F

/-- Whether `c` is a control character, the tab and the end of line excepted. -/
def isControlInLines (c : Char) : Bool := isControl c && c ≠ '\n'

/-- What follows a comment at the front, if there is one. -/
def skipComment (s : List Char) : Except Stop (List Char) :=
  match s with
  | '#' :: rest =>
    if (rest.takeWhile (· ≠ '\n')).any isControl then refuse
    else .ok (rest.dropWhile (· ≠ '\n'))
  | _ => .ok s

/-! ## Texts -/

/-- The mark of a literal text. -/
def literalMark : Char := Text.apostrophe

/-- The character that a letter stands for after a backslash. -/
def escapedChar? (c : Char) : Option Char :=
  if c = 'b' then some '\x08'
  else if c = 't' then some '\t'
  else if c = 'n' then some '\n'
  else if c = 'f' then some '\x0C'
  else if c = 'r' then some '\r'
  else if c = '"' ∨ c = '\\' then some c
  else none

/-- The character whose code point is in the first `count` characters. -/
def scalar? (count : Nat) (s : List Char) : Option (Char × List Char) := do
  let ds := s.take count
  guard (ds.length = count)
  let n ← ofHexDigits? ds
  guard (n < 0xD800 ∨ (0xDFFF < n ∧ n < 0x110000))
  return (Char.ofNat n, s.drop count)

/-- What a backslash in a text stands for, which is at most one character.
Between the lines of a text, a backslash at the end of a line takes the space
after it away. -/
def escape? (multiline : Bool) (s : List Char) : Option (List Char × List Char) :=
  match s with
  | [] => none
  | c :: rest =>
    if multiline && c = '\n' then some ([], skipSpace rest)
    else if multiline && isBlank c then
      match skipBlanks rest with
      | [] => some ([], [])
      | '\n' :: rest => some ([], skipSpace rest)
      | _ => none
    else if c = 'u' then (scalar? 4 rest).map fun (c, rest) => ([c], rest)
    else if c = 'U' then (scalar? 8 rest).map fun (c, rest) => ([c], rest)
    else (escapedChar? c).map fun c => ([c], rest)

/-- The rest of a basic text after its opening mark. -/
def basicTail (multiline : Bool) : (fuel : Nat) → List Char → Option (List Char × List Char)
  | 0, _ => none
  | fuel + 1, s =>
    match s with
    | [] => none
    | '"' :: rest =>
      if !multiline then some ([], rest)
      else match rest with
        | '"' :: '"' :: rest => some ([], rest)
        | _ => (basicTail multiline fuel rest).map fun (t, rest) => ('"' :: t, rest)
    | '\\' :: rest => do
      let (c, rest) ← escape? multiline rest
      let (t, rest) ← basicTail multiline fuel rest
      return (c ++ t, rest)
    | c :: rest =>
      if (if multiline then isControlInLines c else isControl c) then none
      else (basicTail multiline fuel rest).map fun (t, rest) => (c :: t, rest)

/-- The rest of a literal text after its opening mark. -/
def literalTail (s : List Char) : Option (List Char × List Char) :=
  let t := s.takeWhile (· ≠ literalMark)
  match s.dropWhile (· ≠ literalMark) with
  | [] => none
  | _ :: rest => if t.any isControl then none else some (t, rest)

/-- The rest of a literal text of several lines after its opening marks. -/
def literalLinesTail : List Char → Option (List Char × List Char)
  | [] => none
  | c :: rest =>
    if c = literalMark ∧ rest.take 2 = [literalMark, literalMark] then some ([], rest.drop 2)
    else if isControlInLines c then none
    else (literalLinesTail rest).map fun (t, rest) => (c :: t, rest)

/-- At most two marks right after the closing ones belong to the text. -/
def withExtraMarks (mark : Char) : List Char × List Char → List Char × List Char
  | (t, rest) =>
    let extra := ((rest.take 2).takeWhile (· = mark)).length
    (t ++ List.replicate extra mark, rest.drop extra)

/-- What follows one end of line at the front, if there is one. -/
def skipLineEnd (s : List Char) : List Char :=
  match s with
  | '\n' :: rest => rest
  | _ => s

/-- A text at the front, in one line or several. -/
def text? (s : List Char) : Option (List Char × List Char) :=
  match s with
  | '"' :: '"' :: '"' :: rest =>
    (basicTail true (rest.length + 1) (skipLineEnd rest)).map (withExtraMarks '"')
  | '"' :: rest => basicTail false (rest.length + 1) rest
  | c :: rest =>
    if c ≠ literalMark then none
    else if rest.take 2 = [literalMark, literalMark] then
      (literalLinesTail (skipLineEnd (rest.drop 2))).map (withExtraMarks literalMark)
    else literalTail rest
  | [] => none

/-! ## Keys -/

/-- Whether `c` may stand in a key without quotes. -/
def isBareKeyChar (c : Char) : Bool := c.isAlphanum || c = '-' || c = '_'

/-- Whether a key can begin with `c`. -/
def isKeyStart (c : Char) : Bool := isBareKeyChar c || c = '"' || c = literalMark

/-- One part of a key. -/
def keyPart? (s : List Char) : Option (String × List Char) :=
  match s with
  | [] => none
  | c :: rest =>
    if isBareKeyChar c then
      some (String.ofList (s.takeWhile isBareKeyChar), s.dropWhile isBareKeyChar)
    else if c = '"' then
      (basicTail false (rest.length + 1) rest).map fun (t, rest) => (String.ofList t, rest)
    else if c = literalMark then (literalTail rest).map fun (t, rest) => (String.ofList t, rest)
    else none

/-- The parts of a key with points between them. -/
def keyParts? : (fuel : Nat) → List Char → Option (List String × List Char)
  | 0, _ => none
  | fuel + 1, s => do
    let (part, rest) ← keyPart? s
    match skipBlanks rest with
    | '.' :: rest =>
      let (parts, rest) ← keyParts? fuel (skipBlanks rest)
      return (part :: parts, rest)
    | rest => return ([part], rest)

/-- A key, and what follows it and the blanks after it. -/
def key (s : List Char) : Except Stop (List String × List Char) :=
  orRefuse (keyParts? (s.length + 1) s)

/-! ## Dates and times -/

/-- The number in the first `count` characters, all digits. -/
def fixedNumber? (count : Nat) (s : List Char) : Option (Nat × List Char) :=
  let ds := s.take count
  if ds.length = count ∧ ds.all Char.isDigit then some (ofDigits ds, s.drop count) else none

/-- What follows the character `c`. -/
def after? (c : Char) (s : List Char) : Option (List Char) :=
  match s with
  | d :: rest => if d = c then some rest else none
  | [] => none

/-- What follows a time of day. -/
def afterTime? (s : List Char) : Option (List Char) := do
  let (hour, rest) ← fixedNumber? 2 s
  let (minute, rest) ← fixedNumber? 2 (← after? ':' rest)
  let (second, rest) ← fixedNumber? 2 (← after? ':' rest)
  guard (hour ≤ 23 ∧ minute ≤ 59 ∧ second ≤ 59)
  match rest with
  | '.' :: c :: fraction =>
    return if c.isDigit then fraction.dropWhile Char.isDigit else rest
  | _ => return rest

/-- What follows an offset, if there is one. -/
def afterOffset (s : List Char) : List Char :=
  match s with
  | [] => []
  | c :: rest =>
    if c = 'Z' ∨ c = 'z' then rest
    else if c = '+' ∨ c = '-' then
      let offset? : Option (List Char) := do
        let (hour, rest) ← fixedNumber? 2 rest
        let (minute, rest) ← fixedNumber? 2 (← after? ':' rest)
        guard (hour ≤ 23 ∧ minute ≤ 59)
        return rest
      offset?.getD s
    else s

/-- A date written with hyphens, and what follows it. -/
def date? (s : List Char) : Option (Time.Date × List Char) := do
  let (year, rest) ← fixedNumber? 4 s
  let (month, rest) ← fixedNumber? 2 (← after? '-' rest)
  let (day, rest) ← fixedNumber? 2 (← after? '-' rest)
  guard (1 ≤ month ∧ month ≤ 12 ∧ 1 ≤ day ∧ day ≤ 31)
  return (⟨year, month, day⟩, rest)

/-- A date or time at the front: its kind and what follows. A date that is spelt
correctly must be one of the calendar. -/
def moment? (s : List Char) : Option (Except Stop (MomentKind × List Char)) :=
  match date? s with
  | some (d, rest) =>
    if d.year = 0 ∨ Time.monthLength (Time.isLeap d.year) d.month < d.day then some refuse
    else
      let clock := match rest with
        | c :: clock => if c = 'T' ∨ c = 't' ∨ c = ' ' then afterTime? clock else none
        | [] => none
      match clock with
      | some rest => some (.ok (.dateTime, afterOffset rest))
      | none => some (.ok (.date, rest))
  | none => (afterTime? s).map fun rest => .ok (.time, rest)

/-! ## Numbers -/

/-- A whole number in base sixteen, eight or two. -/
def withBase? (s : List Char) : Option (Int × List Char) :=
  match s with
  | '0' :: b :: rest =>
    let base := if b = 'x' then 16 else if b = 'o' then 8 else if b = 'b' then 2 else 0
    let (ds, rest) := digitRun (isDigitIn base) rest
    if ds.isEmpty then none
    else some (ds.foldl (fun n c => base * n + (hexValue? c).getD 0) (0 : Nat), rest)
  | _ => none

/-- The digits of a fraction, none if there is no fraction. -/
def fractionPart (s : List Char) : List Char × List Char :=
  match s with
  | '.' :: rest =>
    let (ds, after) := digitRun Char.isDigit rest
    if ds.isEmpty then ([], s) else (ds, after)
  | _ => ([], s)

/-- The sign at the front, if there is one: whether it is a minus. -/
def signPart (s : List Char) : Bool × List Char :=
  match s with
  | '-' :: rest => (true, rest)
  | '+' :: rest => (false, rest)
  | _ => (false, s)

/-- The exponent, if there is one. -/
def exponentPart (s : List Char) : Option Int × List Char :=
  match s with
  | [] => (none, s)
  | c :: rest =>
    if c = 'e' ∨ c = 'E' then
      let (negative, rest) := signPart rest
      let (ds, after) := digitRun Char.isDigit rest
      if ds.isEmpty then (none, s)
      else
        let size : Int := ofDigits ds
        (some (if negative then -size else size), after)
    else (none, s)

/-- A number in decimal. -/
def decimal? (s : List Char) : Option (Except Stop (Value × List Char)) :=
  let (negative, unsigned) := signPart s
  let (whole, rest) :=
    match unsigned with
    | '0' :: rest => (['0'], rest)
    | _ => digitRun Char.isDigit unsigned
  if whole.isEmpty then none
  else
    let (fraction, rest) := fractionPart rest
    let (exponent, rest) := exponentPart rest
    if fraction.isEmpty && exponent.isNone then
      if maxIntegerDigits < whole.length then some (.error (.longInteger whole.length))
      else
        let n : Int := ofDigits whole
        some (.ok (.int (if negative then -n else n), rest))
    else
      let x := Binary64.ofDecimal negative (ofDigits (whole ++ fraction))
        (exponent.getD 0 - fraction.length)
      some (.ok (.float x, rest))

/-- Infinity or the number that is none, with or without a sign. -/
def special? (s : List Char) : Option (Value × List Char) :=
  let (negative, unsigned) := signPart s
  if unsigned.take 3 = "inf".toList then some (.float (.infinite negative), unsigned.drop 3)
  else if unsigned.take 3 = "nan".toList then some (.float .nan, unsigned.drop 3)
  else none

/-- A date, time or number at the front. -/
def unquoted (s : List Char) : Except Stop (Value × List Char) :=
  match moment? s with
  | some found => do
    let (kind, rest) ← found
    return (.moment kind (String.ofList (s.take (s.length - rest.length))), rest)
  | none =>
    match withBase? s with
    | some (n, rest) => .ok (.int n, rest)
    | none =>
      match decimal? s with
      | some found => found
      | none => orRefuse (special? s)

end Reconcile.Toml
