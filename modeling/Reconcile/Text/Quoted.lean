import Reconcile.Text
import Reconcile.Text.PrintTable
import Reconcile.Text.Ranges

/-!
# Quoted texts

How a text is shown inside a message: between quotation marks, with the
characters that have no printed form written as escapes.
-/

namespace Reconcile.Text

/-- The apostrophe. -/
def apostrophe : Char := Char.ofNat 0x27

/-- The hexadecimal digit of value `n`, in small letters. -/
def hexDigit (n : Nat) : Char := "0123456789abcdef".toList.getD n '0'

/-- The last `width` hexadecimal digits of `n`. -/
def hexDigits : (width : Nat) → (n : Nat) → List Char
  | 0, _ => []
  | width + 1, n => hexDigits width (n / 16) ++ [hexDigit (n % 16)]

/-- Whether `c` stands for itself in a quoted text. -/
def isPrintable (c : Char) : Bool := !inRanges unprintedRanges c

/-- The mark around a quoted text: an apostrophe, unless the text holds one and
no double mark. -/
def quoteMark (ps : List Point) : Char :=
  if ps.contains (.char apostrophe) && !ps.contains (.char '"') then '"' else apostrophe

/-- One character of a text quoted with `mark`. -/
def quotedChar (mark c : Char) : List Char :=
  if c = mark ∨ c = '\\' then ['\\', c]
  else if c = '\n' then ['\\', 'n']
  else if c = '\r' then ['\\', 'r']
  else if c = '\t' then ['\\', 't']
  else if isPrintable c then [c]
  else if c.toNat < 0x100 then '\\' :: 'x' :: hexDigits 2 c.toNat
  else if c.toNat < 0x10000 then '\\' :: 'u' :: hexDigits 4 c.toNat
  else '\\' :: 'U' :: hexDigits 8 c.toNat

/-- One code point of a text quoted with `mark`. -/
def quotedPoint (mark : Char) : Point → List Char
  | .char c => quotedChar mark c
  | .half h => '\\' :: 'u' :: hexDigits 4 h.code

/-- The code points between quotation marks. -/
def quoted (ps : List Point) : List Char :=
  let mark := quoteMark ps
  mark :: ps.flatMap (quotedPoint mark) ++ [mark]

/-- The text between quotation marks. -/
def quote (t : Text) : String := String.ofList (quoted t.points)

end Reconcile.Text
