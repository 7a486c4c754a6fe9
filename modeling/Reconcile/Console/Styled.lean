import Reconcile.Console.Style
import Reconcile.Console.Width

/-!
# Styled texts

A text for the console whose stretches may have styles of their own. A text is
divided between its characters; a stretch follows its characters into the parts,
and a part that holds none of them is without it. Where stretches begin and end a
text falls into runs, and characters bear on their neighbours only within a run.
Main statements: the runs of a text hold its characters, and so do its parts.
-/

namespace Reconcile.Console

/-- A stretch of a text, from `start` up to `stop`, with the definition of its style. -/
structure Stretch where
  start : Nat
  stop : Nat
  style : List Char

namespace Stretch

/-- What of a stretch lies between two places, counted from the first. -/
def within? (first last : Nat) (s : Stretch) : Option Stretch :=
  let start := max s.start first
  let stop := min s.stop last
  if start < stop then some { s with start := start - first, stop := stop - first } else none

/-- The stretch with `n` characters more before it. -/
def moved (n : Nat) (s : Stretch) : Stretch := { s with start := s.start + n, stop := s.stop + n }

/-- Passes a stretch that can be shown. A definition that is no style sets none. -/
def check (s : Stretch) : Except Style.Refusal Unit :=
  match Style.read s.style with
  | .error .unreadableNumber => .error .unreadableNumber
  | _ => .ok ()

end Stretch

/-- A text whose stretches may have styles of their own. -/
structure Styled where
  chars : List Char
  stretches : List Stretch := []

namespace Styled

/-- A text without styles. -/
def ofString (s : String) : Styled := { chars := s.toList }

/-- Two texts, one after the other. -/
def append (t u : Styled) : Styled where
  chars := t.chars ++ u.chars
  stretches := t.stretches ++ u.stretches.map (Stretch.moved t.chars.length)

/-- The part with `size` characters from `first` on. -/
def part (t : Styled) (first size : Nat) : Styled where
  chars := (t.chars.drop first).take size
  stretches := t.stretches.filterMap (Stretch.within? first (first + size))

/-- The parts of a text, from `first` on, that are as long as the rows and stand
`gap` characters apart. -/
def partsFrom (t : Styled) (gap first : Nat) : List (List Char) → List Styled
  | [] => []
  | row :: rows => t.part first row.length :: t.partsFrom gap (first + row.length + gap) rows

/-- A text divided into rows of its characters, `gap` characters apart. A single row
leaves the text as it is. -/
def divided (t : Styled) (gap : Nat) : List (List Char) → List Styled
  | [_] => [t]
  | rows => t.partsFrom gap 0 rows

/-- The lines of a text. -/
def lines (t : Styled) : List Styled := t.divided 1 (t.chars.splitOn '\n')

/-- A text with other characters. Where they are fewer, no stretch goes beyond them,
and those that begin there are gone. -/
def withChars (t : Styled) (chars : List Char) : Styled where
  chars := chars
  stretches :=
    if chars.length < t.chars.length then
      (t.stretches.filter (·.start < chars.length)).map fun s =>
        { s with stop := min s.stop chars.length }
    else t.stretches

/-- A text with `n` blanks more, which belong to the stretches at its end. -/
def extended (t : Styled) (n : Nat) : Styled where
  chars := t.chars ++ List.replicate n ' '
  stretches := t.stretches.map fun s =>
    if t.chars.length ≤ s.stop then { s with stop := s.stop + n } else s

/-- Passes a text whose stretches can all be shown. -/
def check (t : Styled) : Except Style.Refusal Unit := t.stretches.forM Stretch.check

/-! ## Runs -/

/-- The runs of characters of which the first is at `place`; a run ends at each of the
`edges`. -/
def runsFrom (edges : List Nat) (place : Nat) : List Char → List (List Char)
  | [] => []
  | c :: rest =>
    match runsFrom edges (place + 1) rest with
    | [] => [[c]]
    | run :: runs =>
      if edges.contains (place + 1) then [c] :: run :: runs else (c :: run) :: runs

/-- The runs of a text. -/
def runs (t : Styled) : List (List Char) :=
  runsFrom (t.stretches.flatMap fun s => [s.start, s.stop]) 0 t.chars

theorem flatten_runsFrom (edges : List Nat) (place : Nat) (s : List Char) :
    (runsFrom edges place s).flatten = s := by
  induction s generalizing place with
  | nil => rfl
  | cons c rest ih =>
    have h := ih (place + 1)
    simp only [runsFrom]
    split
    · next hr => simp_all
    · split <;> simp_all

/-- The runs of a text hold its characters. -/
theorem flatten_runs (t : Styled) : t.runs.flatten = t.chars := flatten_runsFrom _ _ _

theorem flatMap_partsFrom (t : Styled) (first : Nat) (rows : List (List Char)) :
    (t.partsFrom 0 first rows).flatMap Styled.chars =
      (t.chars.drop first).take (rows.flatten.length) := by
  induction rows generalizing first with
  | nil => simp [partsFrom]
  | cons row rows ih =>
    simp only [partsFrom, List.flatMap_cons, ih, part, List.flatten_cons, List.length_append,
      Nat.add_zero, List.take_add, List.drop_drop]

/-- The parts of a text hold its characters. -/
theorem flatMap_divided {t : Styled} {rows : List (List Char)} (h : rows.flatten = t.chars) :
    (t.divided 0 rows).flatMap Styled.chars = t.chars := by
  unfold divided
  split
  · simp
  · rw [flatMap_partsFrom, h]
    simp

/-! ## Runs in a number of columns -/

/-- Some runs cut off after a number of columns. -/
def cutRuns (columns : Nat) : List (List Char) → List (List Char)
  | [] => []
  | run :: runs =>
    if width run < columns then run :: cutRuns (columns - width run) runs
    else if width run = columns then [run]
    else [cut columns run]

/-- The number of columns that runs take. -/
def widthOfRuns (runs : List (List Char)) : Nat := runs.foldl (fun n run => n + width run) 0

/-- Some runs that take no more than a number of columns. -/
def croppedRuns (columns : Nat) (runs : List (List Char)) : List (List Char) :=
  if columns < widthOfRuns runs then cutRuns columns runs else runs

/-- Some runs that take a number of columns, cut off or filled up with blanks. -/
def fittedRuns (columns : Nat) (runs : List (List Char)) : List (List Char) :=
  if widthOfRuns runs < columns then
    runs ++ [List.replicate (columns - widthOfRuns runs) ' ']
  else croppedRuns columns runs

end Styled

end Reconcile.Console
