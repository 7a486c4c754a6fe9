import Reconcile.Document.Nesting
import Reconcile.Document.Numeral
import Reconcile.Document.Value
import Reconcile.Text.Lines

/-!
# Reading JSON

The reader takes one value with blanks around it. Beside the standard it accepts
`NaN`, `Infinity` and `-Infinity`. Where a table repeats a key, the last value
counts, at the place of the first. A text that is no JSON is refused with what
was expected and the place where it was missing; a whole number beyond the limit
of digits and a value nested too deep are refused as such, at once.
-/

namespace Reconcile.Json

/-- What is wrong with a text that is no JSON. -/
inductive Complaint
  | value
  | comma
  | colon
  | propertyName
  | unterminatedText
  | controlCharacter
  | escape
  | unicodeEscape
  | extraData
  | byteOrderMark
deriving DecidableEq

/-- The wording of a complaint. -/
def Complaint.message : Complaint → String
  | .value => "Expecting value"
  | .comma => "Expecting ',' delimiter"
  | .colon => "Expecting ':' delimiter"
  | .propertyName => "Expecting property name enclosed in double quotes"
  | .unterminatedText => "Unterminated string starting at"
  | .controlCharacter => "Invalid control character at"
  | .escape => "Invalid \\escape"
  | .unicodeEscape => "Invalid \\uXXXX escape"
  | .extraData => "Extra data"
  | .byteOrderMark => "Unexpected UTF-8 BOM (decode using utf-8-sig)"

/-- A complaint about the character at an offset, counted from zero. -/
structure Fault where
  complaint : Complaint
  offset : Nat
  place : Text.Place
deriving DecidableEq

/-- The wording of a fault. -/
def Fault.message (f : Fault) : String :=
  s!"{f.complaint.message}: line {f.place.line} column {f.place.column} (char {f.offset})"

/-- Why a text cannot be read. -/
inductive ReadError
  | malformed (fault : Fault)
  | longInteger (digits : Nat)
  /-- Lists and tables stand in one another beyond the limit. -/
  | tooDeep (nest : Nest)
deriving DecidableEq

/-- The wording of a reading error. -/
def ReadError.message : ReadError → String
  | .malformed fault => fault.message
  | .longInteger digits => longIntegerMessage digits
  | .tooDeep nest => nest.tooDeepInJson

/-- Why reading stops: a complaint, with the number of characters from the one
complained about to the end, a whole number that is too long, or a value that is
nested too deep. -/
inductive Stop
  | complaint (c : Complaint) (remaining : Nat)
  | longInteger (digits : Nat)
  | tooDeep (nest : Nest)
deriving DecidableEq

/-- Stops with a complaint about the first of `rest`. -/
def complain {α : Type} (c : Complaint) (rest : List Char) : Except Stop α :=
  .error (.complaint c rest.length)

/-- Whether `c` is a blank of JSON. -/
def isBlank (c : Char) : Bool := c = ' ' || c = '\t' || c = '\n' || c = '\r'

/-- What follows the blanks at the front. -/
def skipBlanks (s : List Char) : List Char := s.dropWhile isBlank

/-- What follows `word` at the front of `s`, if it stands there. -/
def after? : (word s : List Char) → Option (List Char)
  | [], s => some s
  | _ :: _, [] => none
  | w :: word, c :: s => if w = c then after? word s else none

/-! ## Texts -/

/-- The character that a letter stands for after a backslash. -/
def escapedChar? (c : Char) : Option Char :=
  if c = '"' ∨ c = '\\' ∨ c = '/' then some c
  else if c = 'b' then some '\x08'
  else if c = 'f' then some '\x0C'
  else if c = 'n' then some '\n'
  else if c = 'r' then some '\r'
  else if c = 't' then some '\t'
  else none

/-- The code unit that four hexadecimal digits stand for. -/
def codeUnit? (h₁ h₂ h₃ h₄ : Char) : Option Nat := ofHexDigits? [h₁, h₂, h₃, h₄]

/-- Why the reading of a text between quotes stops: the input ends before the
closing quote, or something in the text is wrong. -/
inductive TextStop
  | unterminated
  | complaint (c : Complaint) (remaining : Nat)
deriving DecidableEq

/-- Puts a code point in front of those that were read. -/
def withUnit (unit : Nat) (read : Except TextStop (List Nat × List Char)) :
    Except TextStop (List Nat × List Char) :=
  read.map fun (units, rest) => (unit :: units, rest)

/-- The code points of a text after its opening quote, and what follows its
closing one. A numeric escape cannot end the input. -/
def unitsTail : List Char → Except TextStop (List Nat × List Char)
  | [] => .error .unterminated
  | '"' :: rest => .ok ([], rest)
  | '\\' :: 'u' :: h₁ :: h₂ :: h₃ :: h₄ :: next :: rest =>
    match codeUnit? h₁ h₂ h₃ h₄ with
    | none => .error (.complaint .unicodeEscape (rest.length + 6))
    | some unit => withUnit unit (unitsTail (next :: rest))
  | '\\' :: 'u' :: rest => .error (.complaint .unicodeEscape (rest.length + 1))
  | '\\' :: e :: rest =>
    match escapedChar? e with
    | none => .error (.complaint .escape (rest.length + 2))
    | some d => withUnit d.toNat (unitsTail rest)
  | ['\\'] => .error .unterminated
  | c :: rest =>
    if c.toNat < 0x20 then .error (.complaint .controlCharacter (rest.length + 1))
    else withUnit c.toNat (unitsTail rest)

/-- The rest of a text after its opening quote; the halves of a surrogate pair stand for
one character. That the closing quote is missing is said of the opening one. -/
def textTail (rest : List Char) : Except Stop (Text × List Char) :=
  match unitsTail rest with
  | .ok (units, after) => .ok (.ofPoints (units.map .ofCode), after)
  | .error .unterminated => .error (.complaint .unterminatedText (rest.length + 1))
  | .error (.complaint c remaining) => .error (.complaint c remaining)

/-! ## Numbers -/

/-- The digits at the front, and what follows them. -/
def digitSpan (s : List Char) : List Char × List Char := s.span Char.isDigit

/-- The digits of a whole part: a zero, or digits that start with no zero. -/
def wholePart (s : List Char) : List Char × List Char :=
  match s with
  | '0' :: rest => (['0'], rest)
  | _ => digitSpan s

/-- The digits of a fraction, none if there is no fraction. -/
def fractionPart (s : List Char) : List Char × List Char :=
  match s with
  | '.' :: rest => if (digitSpan rest).1.isEmpty then ([], s) else digitSpan rest
  | _ => ([], s)

/-- The exponent, if there is one. -/
def exponentPart (s : List Char) : Option Int × List Char :=
  match s with
  | [] => (none, s)
  | c :: rest =>
    if c = 'e' ∨ c = 'E' then
      let (negative, digits) :=
        match rest with
        | '-' :: digits => (true, digits)
        | '+' :: digits => (false, digits)
        | digits => (false, digits)
      let (ds, after) := digitSpan digits
      if ds.isEmpty then (none, s)
      else
        let size : Int := ofDigits ds
        (some (if negative then -size else size), after)
    else (none, s)

/-- A number: a whole number if it has neither fraction nor exponent. -/
def number (s : List Char) : Except Stop (Value × List Char) :=
  let (negative, unsigned) :=
    match s with
    | '-' :: rest => (true, rest)
    | _ => (false, s)
  let (whole, rest) := wholePart unsigned
  if whole.isEmpty then complain .value s else
  let (fraction, rest) := fractionPart rest
  let (exponent, rest) := exponentPart rest
  if fraction.isEmpty && exponent.isNone then
    if maxIntegerDigits < whole.length then .error (.longInteger whole.length)
    else
      let n : Int := ofDigits whole
      .ok (.int (if negative then -n else n), rest)
  else
    let x := Binary64.ofDecimal negative (ofDigits (whole ++ fraction))
      (exponent.getD 0 - fraction.length)
    .ok (.float x, rest)

/-- The words that stand for values. -/
def words : List (List Char × Value) :=
  [("null".toList, .null), ("true".toList, .bool true), ("false".toList, .bool false),
   ("NaN".toList, .float .nan), ("Infinity".toList, .float (.infinite false)),
   ("-Infinity".toList, .float (.infinite true))]

/-- A word or a number. -/
def plain (s : List Char) : Except Stop (Value × List Char) :=
  match words.findSome? fun w => (after? w.1 s).map fun rest => (w.2, rest) with
  | some found => .ok found
  | none => number s

/-! ## Values -/

mutual

/-- A value that starts at the first character. Each value, item and field takes
a character or more, so that twice their number is `fuel` enough; `room` is how
many lists and tables may stand in one another from here on. -/
def value : (fuel room : Nat) → List Char → Except Stop (Value × List Char)
  | 0, _, s => complain .value s
  | fuel + 1, room, s =>
    match s with
    | [] => complain .value []
    | c :: rest =>
      if c = '"' then do
        let (text, rest) ← textTail rest
        return (.text text, rest)
      else if c = '[' then
        match room with
        | 0 => .error (.tooDeep .list)
        | room + 1 =>
          match skipBlanks rest with
          | ']' :: rest => .ok (.list [], rest)
          | rest => do
            let (items, rest) ← items fuel room rest
            return (.list items, rest)
      else if c = '\x7b' then
        match room with
        | 0 => .error (.tooDeep .table)
        | room + 1 =>
          match skipBlanks rest with
          | '\x7d' :: rest => .ok (.table [], rest)
          | rest => do
            let (fields, rest) ← fields fuel room rest
            return (.table (Keyed.ofPairs fields), rest)
      else plain s

/-- The items of a list, up to its closing bracket. -/
def items : (fuel room : Nat) → List Char → Except Stop (List Value × List Char)
  | 0, _, s => complain .value s
  | fuel + 1, room, s => do
    let (v, rest) ← value fuel room s
    match skipBlanks rest with
    | ']' :: rest => return ([v], rest)
    | ',' :: rest =>
      let (vs, rest) ← items fuel room (skipBlanks rest)
      return (v :: vs, rest)
    | rest => complain .comma rest

/-- The fields of a table, up to its closing brace. -/
def fields : (fuel room : Nat) → List Char → Except Stop (Fields × List Char)
  | 0, _, s => complain .value s
  | fuel + 1, room, s =>
    match s with
    | '"' :: rest => do
      let (name, rest) ← textTail rest
      match skipBlanks rest with
      | ':' :: rest =>
        let (v, rest) ← value fuel room (skipBlanks rest)
        match skipBlanks rest with
        | '\x7d' :: rest => return ([(name, v)], rest)
        | ',' :: rest =>
          let (vs, rest) ← fields fuel room (skipBlanks rest)
          return ((name, v) :: vs, rest)
        | rest => complain .comma rest
      | rest => complain .colon rest
    | _ => complain .propertyName s

end

/-- The value of a whole text, blanks around it allowed, with at most `depth` lists and
tables in one another. -/
def document (depth : Nat) (s : List Char) : Except Stop Value := do
  if s.head? = some '\uFEFF' then
    throw (.complaint .byteOrderMark s.length)
  let (v, rest) ← value (2 * s.length + 2) depth (skipBlanks s)
  match skipBlanks rest with
  | [] => return v
  | rest => throw (.complaint .extraData rest.length)

/-- The error for reading that stops in the text `s`. -/
def Stop.error (s : List Char) : Stop → ReadError
  | .complaint c remaining =>
    let before := s.take (s.length - remaining)
    .malformed ⟨c, before.length, .after before⟩
  | .longInteger digits => .longInteger digits
  | .tooDeep nest => .tooDeep nest

/-- Reads a JSON text with at most `depth` lists and tables in one another. -/
def read (depth : Nat) (s : List Char) : Except ReadError Value :=
  (document depth s).mapError (Stop.error s)

end Reconcile.Json
