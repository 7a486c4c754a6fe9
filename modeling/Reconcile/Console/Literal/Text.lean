import Reconcile.Text.Name
import Reconcile.Text.Quoted

/-!
# Texts in literals

A text stands between marks, and a letter or two before it may tell how it is meant:
raw texts have no escapes, and texts of bytes have fewer of them and hold ASCII only.
The end of a text is found first, whatever its escapes say; then they are checked.
-/

namespace Reconcile.Console.Literal

/-! ## Where a text ends -/

/-- What a text holds, up to its closing mark, and what follows that. A long text has
three marks on each side and may go over many lines. What follows a backslash is no
mark. -/
def body? (mark : Char) (isLong : Bool) : List Char → Option (List Char × List Char)
  | [] => none
  | '\\' :: c :: rest => (body? mark isLong rest).map fun (body, rest) => ('\\' :: c :: body, rest)
  | c :: rest =>
    if c = mark && (!isLong || rest.take 2 = [mark, mark]) then
      some ([], if isLong then rest.drop 2 else rest)
    else if c = '\n' && !isLong then none
    else (body? mark isLong rest).map fun (body, rest) => (c :: body, rest)

/-! ## Escapes -/

/-- The greatest code point. -/
def maxCodePoint : Nat := 0x10FFFF

/-- Whether `count` hexadecimal digits are at the front, and are no more than the
greatest code point. -/
def hasCodePoint (count : Nat) (s : List Char) : Bool :=
  (s.take count).length = count && (ofHexDigits? (s.take count)).any (· ≤ maxCodePoint)

/-- Whether the name of a character is at the front, between braces. -/
def hasCharName : List Char → Bool
  | '\x7b' :: rest => rest.contains '\x7d' && Text.isCharName (rest.takeWhile (· ≠ '\x7d'))
  | _ => false

/-- Whether `c` and what follows it may stand after a backslash. -/
def isEscape (isBytes : Bool) (c : Char) (rest : List Char) : Bool :=
  if c = 'x' then hasCodePoint 2 rest
  else if isBytes then true
  else if c = 'u' then hasCodePoint 4 rest
  else if c = 'U' then hasCodePoint 8 rest
  else if c = 'N' then hasCharName rest
  else true

/-- Whether every escape in a text is one. -/
def hasEscapes (isBytes : Bool) : List Char → Bool
  | '\\' :: c :: rest => isEscape isBytes c rest && hasEscapes isBytes rest
  | _ :: rest => hasEscapes isBytes rest
  | [] => true

/-! ## Texts -/

/-- The letters that may stand before a text: whether they make it raw, and
whether they make it one of bytes. -/
def textLetters : List (String × Bool × Bool) :=
  [("", false, false), ("u", false, false), ("r", true, false), ("b", false, true),
   ("br", true, true), ("rb", true, true)]

/-- A text at the front: whether it is one of bytes, and what follows it. -/
def text? (s : List Char) : Option (Bool × List Char) := do
  let letters := s.takeWhile Char.isAlpha
  let (isRaw, isBytes) ← textLetters.lookup (String.ofList (letters.map Char.toLower))
  match s.drop letters.length with
  | mark :: rest =>
    guard (mark = '"' || mark = Text.apostrophe)
    let isLong := rest.take 2 = [mark, mark]
    let (body, rest) ← body? mark isLong (if isLong then rest.drop 2 else rest)
    guard (isRaw || hasEscapes isBytes body)
    guard (!isBytes || body.all (·.toNat < 0x80))
    return (isBytes, rest)
  | [] => none

end Reconcile.Console.Literal
