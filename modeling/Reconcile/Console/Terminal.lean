import Reconcile.Console.Highlight
import Reconcile.Console.Markup
import Reconcile.Console.Table

/-!
# A terminal

The console that the program is run on. It knows no picture by its name, and takes no
text with a half of a surrogate pair.
-/

namespace Reconcile.Console

/-- The string that a text is, if it can be written. -/
def writable (t : Text) : Except MarkupFault String :=
  match t.points.mapM Point.char? with
  | some s => .ok (String.ofList s)
  | none => .error .unwritable

/-- The lines of a text with markup, where there are `available` columns. -/
def markupLines (available : Nat) (text : String) : Except MarkupFault (List String) := do
  let shown ← Markup.render text
  (textLines available (highlighted shown)).mapError .ofRefusal

/-- The lines of a table of texts with markup, where there are `available` columns. The
tags of all cells are read before the first of them sets a style. -/
def tableLines (available : Nat) (columns : List Column) (rows : List (List String)) :
    Except MarkupFault (List String) := do
  let cells ← rows.mapM (·.mapM Markup.render)
  (Table.lines available columns cells).mapError .ofRefusal

/-- A terminal with a number of columns. A picture selector may give a second column to
the character before it. -/
def terminal (available : Nat) : Console where
  columns := available
  columnsOf := width
  isNarrow c := charWidth c ≤ 1 && c ≠ pictureSelector
  isPictureName _ := false
  print t := do markupLines available (← writable t)
  printTable columns rows := do tableLines available columns (← rows.mapM (·.mapM writable))

end Reconcile.Console
