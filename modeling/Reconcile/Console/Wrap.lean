import Reconcile.Console.Styled
import Reconcile.Text.Blank

/-!
# Wrapping texts on a console

A line that is too wide is broken before words, a word being what stands between
blanks together with the blanks after it. What becomes of a word that is too wide
by itself depends on where the text stands: it is folded into rows, or its line is
cut off and ends with an ellipsis.
-/

namespace Reconcile.Console

/-! ## Tabs -/

/-- The distance between two tab stops. -/
def tabDistance : Nat := 8

/-- The parts of a line, each with the tab at its end, put together with blanks for
the tabs, where `column` columns are before them. A tab leads to the next stop; the
columns up to it are those of its part with one blank in its place. -/
def fillTabs (column : Nat) : List Styled → Styled
  | [] => { chars := [] }
  | part :: rest =>
    if part.chars.getLast? = some '\t' then
      let part := part.withChars (part.chars.dropLast ++ [' '])
      let column := column + width part.chars
      let missing := (tabDistance - column % tabDistance) % tabDistance
      (part.extended missing).append (fillTabs (column + missing) rest)
    else part.append (fillTabs (column + width part.chars) rest)

/-- Rows with a tab after each but the last. -/
def tabbed : List (List Char) → List (List Char)
  | [] => []
  | [row] => [row]
  | row :: rows => (row ++ ['\t']) :: tabbed rows

/-- A line with blanks for its tabs. -/
def withoutTabs (line : Styled) : Styled :=
  match line.chars.splitOn '\t' with
  | [_] => line
  | rows => fillTabs 0 (line.partsFrom 0 0 (tabbed rows))

/-! ## Words -/

/-- Whether `b` begins no word after `a`. -/
def inWord (a b : Char) : Bool := !(Text.isBlank a && !Text.isBlank b)

/-- The words of a line, each with the blanks after it, the first one also with
those before it. A line of blanks has none. -/
def words (line : List Char) : List (List Char) :=
  match line.splitBy inWord with
  | [] => []
  | first :: rest =>
    if first.all Text.isBlank then
      match rest with
      | [] => []
      | second :: rest => (first ++ second) :: rest
    else first :: rest

/-- A text without the blanks at its end. -/
def trimEnd (s : List Char) : List Char := (s.reverse.dropWhile Text.isBlank).reverse

/-! ## Lines -/

/-- What becomes of a word that is too wide. -/
inductive Overflow
  /-- It is folded into rows. -/
  | fold
  /-- Its line is cut off and ends with an ellipsis. -/
  | ellipsis
deriving DecidableEq

/-- Lines in the making: those that are finished, the last one first, the one that
is open, and the columns it takes so far. -/
structure Layout where
  finished : List (List Char) := []
  current : List Char := []
  used : Nat := 0

namespace Layout

/-- Begins a line with some characters, unless nothing stands before them. -/
def begin (l : Layout) (row : List Char) : Layout where
  finished := if l.current.isEmpty then l.finished else l.current :: l.finished
  current := row
  used := width row

/-- Adds a word. -/
def add (columns : Nat) (overflow : Overflow) (l : Layout) (word : List Char) : Layout :=
  let size := width (trimEnd word)
  if l.used + size ≤ columns then
    { l with current := l.current ++ word, used := l.used + width word }
  else if columns < size && overflow = .fold then (chopped columns word).foldl begin l
  else l.begin word

/-- The lines. -/
def lines (l : Layout) : List (List Char) := (l.current :: l.finished).reverse

end Layout

/-- A line broken before words so that they fit in a number of columns. -/
def broken (columns : Nat) (overflow : Overflow) (line : List Char) : List (List Char) :=
  match words line with
  | [] => [line]
  | ws => (ws.foldl (Layout.add columns overflow) {}).lines

/-- A line without the blanks at its end, as far as it has more characters than
there are columns. -/
def trimExcess (columns : Nat) (line : Styled) : Styled :=
  let size := line.chars.length
  line.withChars (line.chars.take (max (trimEnd line.chars).length (min size columns)))

/-- A line cut off where it is too wide. -/
def fitted (columns : Nat) (overflow : Overflow) (line : Styled) : Styled :=
  if width line.chars ≤ columns then line
  else line.withChars (match overflow with
    | .fold => cut columns line.chars
    | .ellipsis => cut (columns - 1) line.chars ++ ['…'])

/-- The lines that a text takes in a number of columns. One may still be too wide
where a word of it is. -/
def wrapped (columns : Nat) (overflow : Overflow) (t : Styled) : List Styled :=
  t.lines.flatMap fun line =>
    let line := withoutTabs line
    (line.divided 0 (broken columns overflow line.chars)).map (trimExcess columns)

end Reconcile.Console
