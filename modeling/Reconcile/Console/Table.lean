import Reconcile.Binary64
import Reconcile.Console
import Reconcile.Console.Wrap
import Reconcile.Text.Lines

/-!
# Tables on a console

A table has a heavy frame around its header and light rules around its rows. Each
column is as wide as the widest line of its cells, as long as the console has room
for that; otherwise the widest columns give way. Within its column a cell is
wrapped.
-/

namespace Reconcile.Console

namespace Table

/-- The greatest of some numbers, zero for none. -/
def greatest (ns : List Nat) : Nat := ns.foldl max 0

/-- The total of some numbers. -/
def total (ns : List Nat) : Nat := ns.foldl (· + ·) 0

/-! ## Widths -/

/-- The columns of the console that a cell wants: those of its widest line. -/
def wanted (cell : Styled) : Nat := greatest ((Text.splitLines cell.chars).map width)

/-- The header of a column as a cell. -/
def headerCell (column : Column) : Styled := .ofString column.header

/-- The columns of the console that each column of a table wants, a blank on each
side included. None wants more than `room`. -/
def wantedWidths (room : Nat) (columns : List Column) (rows : List (List Styled)) : List Nat :=
  columns.mapIdx fun i column =>
    let cells := headerCell column :: rows.map fun row => row.getD i { chars := [] }
    min room (2 + greatest (cells.map wanted))

/-- Some numbers, of which those that are `widest` give way by `excess` together,
as evenly as whole numbers allow, each by no more than `limit`. `count` of them are
still to come. -/
def narrowed (widest limit : Nat) : (excess count : Nat) → List Nat → List Nat
  | _, _, [] => []
  | excess, count, w :: ws =>
    if w = widest then
      let share := min limit (Binary64.roundHalfEven excess count)
      (w - share) :: narrowed widest limit (excess - share) (count - 1) ws
    else w :: narrowed widest limit excess count ws

/-- The widths of columns that have `room` together. The widest give way first, down
to the next widest; each step either settles the widths or makes more of them the
widest, so that their number is `fuel` enough. -/
def within (room : Nat) : (fuel : Nat) → List Nat → List Nat
  | 0, ws => ws
  | fuel + 1, ws =>
    let excess := total ws - room
    if excess = 0 then ws
    else
      let widest := greatest ws
      let next := greatest (ws.filter (· ≠ widest))
      within room fuel (narrowed widest (min excess (widest - next)) excess (ws.count widest) ws)

/-- The widths of the columns, on a console of `available` columns, without the blanks at
their sides. Between and around them stand edges of one column each. -/
def widths (available : Nat) (columns : List Column) (rows : List (List Styled)) : List Nat :=
  let room := available - (columns.length + 1)
  (within room columns.length (wantedWidths room columns rows)).map (· - 2)

/-! ## Lines -/

/-- A row of `n` blanks. -/
def blanks (n : Nat) : List Char := List.replicate n ' '

/-- A line in its place in a column. -/
def placed (justify : Justify) (columns : Nat) (line : Styled) : Styled :=
  match justify with
  | .left =>
    let line := fitted columns .ellipsis line
    line.withChars (line.chars ++ blanks (columns - width line.chars))
  | .right =>
    let line := fitted columns .ellipsis (line.withChars (trimEnd line.chars))
    { chars := blanks (columns - width line.chars) : Styled }.append line

/-- A column whose lines take `columns` of the console, with a blank on each side. -/
structure Lane where
  justify : Justify
  columns : Nat

/-- The columns that a lane takes with its blanks. -/
def Lane.size (lane : Lane) : Nat := lane.columns + 2

/-- The lines of a cell. -/
def Lane.wrap (lane : Lane) (cell : Styled) : List Styled :=
  (wrapped lane.columns .ellipsis cell).map (placed lane.justify lane.columns)

/-- The runs of a line between the edges of its lane. -/
def Lane.runs (lane : Lane) (line : Styled) : List (List Char) :=
  Styled.fittedRuns lane.size
    ([' '] :: Styled.fittedRuns lane.columns line.runs ++ [[' ']])

/-- A string of runs. -/
def ofRuns (runs : List (List Char)) : String := String.ofList runs.flatten

/-- A rule across the table. -/
def rule (left line cross right : Char) (lanes : List Lane) : String :=
  let lines := lanes.map fun lane => List.replicate lane.size line
  ofRuns ([left] :: lines.intersperse [cross] ++ [[right]])

/-- One line of a row, `edge` between and around its cells. -/
def rowLine (available : Nat) (edge : Char) (cells : List (List (List Char))) : String :=
  ofRuns (Styled.croppedRuns available
    ([edge] :: (cells.intersperse [[edge]]).flatten ++ [[edge]]))

/-- The lines of a row: as many as its tallest cell has. All styles in them must be
ones that can be shown. -/
def rowLines (available : Nat) (edge : Char) (lanes : List Lane) (row : List Styled) :
    Except Style.Refusal (List String) := do
  let cells := (lanes.zip row).map fun (lane, cell) => (lane, lane.wrap cell)
  cells.forM fun (_, lines) => lines.forM Styled.check
  return (List.range (greatest (cells.map (·.2.length)))).map fun i =>
    rowLine available edge (cells.map fun (lane, lines) =>
      Styled.fittedRuns lane.size (((lines[i]?).map lane.runs).getD []))

/-- The lines of a table on a console of `available` columns. -/
def lines (available : Nat) (columns : List Column) (rows : List (List Styled)) :
    Except Style.Refusal (List String) := do
  let lanes := (columns.zip (widths available columns rows)).map fun (column, n) =>
    ⟨column.justify, n⟩
  let header ← rowLines available '┃' lanes (columns.map headerCell)
  let body ← rows.mapM (rowLines available '│' lanes)
  return rule '┏' '━' '┳' '┓' lanes :: header ++ rule '┡' '━' '╇' '┩' lanes ::
    body.flatten ++ [rule '└' '─' '┴' '┘' lanes]

end Table

/-- The lines of a text that stands by itself on a console of `available` columns. All
styles in them must be ones that can be shown. -/
def textLines (available : Nat) (t : Styled) : Except Style.Refusal (List String) := do
  let lines := (wrapped available .fold t).map (fitted available .fold)
  lines.forM Styled.check
  return lines.map fun line => Table.ofRuns (Styled.croppedRuns available line.runs)

end Reconcile.Console
