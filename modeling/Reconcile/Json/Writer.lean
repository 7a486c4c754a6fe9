import Reconcile.Document.Numeral
import Reconcile.Document.Value

/-!
# Writing JSON

The layout has one item or field a line, two more blanks of indentation for each
level, and no line for an empty list or table. Texts are written in ASCII.
-/

namespace Reconcile.Json

/-- The escape of a UTF-16 code unit. -/
def unitEscape (unit : Nat) : List Char := '\\' :: 'u' :: Text.hexDigits 4 unit

/-- One character of a written text. Characters beyond U+FFFF are written as the halves
of a surrogate pair. -/
def writtenChar (c : Char) : List Char :=
  if c = '"' ∨ c = '\\' then ['\\', c]
  else if c = '\n' then ['\\', 'n']
  else if c = '\r' then ['\\', 'r']
  else if c = '\t' then ['\\', 't']
  else if c = '\x0C' then ['\\', 'f']
  else if c = '\x08' then ['\\', 'b']
  else if ' ' ≤ c ∧ c ≤ '~' then [c]
  else if c.toNat < 0x10000 then unitEscape c.toNat
  else
    let n := c.toNat - 0x10000
    unitEscape (0xD800 + n / 0x400) ++ unitEscape (0xDC00 + n % 0x400)

/-- One code point of a written text. -/
def writtenPoint : Point → List Char
  | .char c => writtenChar c
  | .half h => unitEscape h.code

/-- A text between double quotes. -/
def writtenText (t : Text) : List Char := '"' :: t.points.flatMap writtenPoint ++ ['"']

/-- A whole number in decimal. -/
def writtenInt (n : Int) : List Char :=
  (if n < 0 then ['-'] else []) ++ Nat.toDigits 10 n.natAbs

/-- A floating-point number. -/
def writtenFloat : Binary64 → List Char
  | .nan => "NaN".toList
  | .infinite negative => if negative then "-Infinity".toList else "Infinity".toList
  | x => x.text

/-- The end of a line, and the indentation of the next one. -/
def lineBreak (depth : Nat) : List Char := '\n' :: List.replicate (2 * depth) ' '

mutual

/-- A value whose lines but the first are indented for `depth`. -/
def written (depth : Nat) : Value → List Char
  | .null => "null".toList
  | .bool b => if b then "true".toList else "false".toList
  | .int n => writtenInt n
  | .float x => writtenFloat x
  | .text t => writtenText t
  | .moment _ s => writtenText s
  | .list [] => "[]".toList
  | .list (v :: vs) =>
    '[' :: lineBreak (depth + 1) ++ written (depth + 1) v ++ writtenItems (depth + 1) vs ++
      lineBreak depth ++ [']']
  | .table [] => "\x7b\x7d".toList
  | .table ((k, v) :: fields) =>
    '\x7b' :: lineBreak (depth + 1) ++ writtenText k ++ ": ".toList ++
      written (depth + 1) v ++ writtenFields (depth + 1) fields ++ lineBreak depth ++ ['\x7d']

/-- The items of a list after the first. -/
def writtenItems (depth : Nat) : List Value → List Char
  | [] => []
  | v :: vs => ',' :: lineBreak depth ++ written depth v ++ writtenItems depth vs

/-- The fields of a table after the first. -/
def writtenFields (depth : Nat) : Fields → List Char
  | [] => []
  | (k, v) :: fields =>
    ',' :: lineBreak depth ++ writtenText k ++ ": ".toList ++ written depth v ++
      writtenFields depth fields

end

mutual

/-- Whether every whole number in a value is short enough to be written. -/
def isWritable : Value → Bool
  | .int n => (Nat.toDigits 10 n.natAbs).length ≤ maxIntegerDigits
  | .list items => areWritable items
  | .table fields => areWritableFields fields
  | _ => true

/-- `isWritable` for the items of a list. -/
def areWritable : List Value → Bool
  | [] => true
  | v :: vs => isWritable v && areWritable vs

/-- `isWritable` for the fields of a table. -/
def areWritableFields : Fields → Bool
  | [] => true
  | (_, v) :: fields => isWritable v && areWritableFields fields

end

/-- The JSON text of a value, if it can be written. -/
def write? (v : Value) : Option (List Char) := if isWritable v then some (written 0 v) else none

end Reconcile.Json
