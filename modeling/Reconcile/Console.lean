import Reconcile.Text

/-!
# The console

What the program asks of a console: to print a text with markup, and a table whose cells
are texts with markup. The program has none of its own.
-/

namespace Reconcile

namespace Console

/-- Why a text with markup cannot be shown. -/
inductive MarkupFault
  /-- A closing tag names a style that no open tag has. -/
  | notOpen (style : String)
  | nothingToClose
  /-- What an action is called with is no literal. -/
  | badCall (call : String)
  /-- A colour in a tag has a number that cannot be read. -/
  | unreadableNumber
  /-- A half of a surrogate pair cannot be written. -/
  | unwritable
deriving DecidableEq

/-- Whether the fault lies within the definition of a style. -/
def MarkupFault.isStyleFault : MarkupFault → Bool
  | .unreadableNumber => true
  | _ => false

/-- The wording of a fault. -/
def MarkupFault.message : MarkupFault → String
  | .notOpen style => s!"closing tag for '{style}' doesn't match any open tag"
  | .nothingToClose => "closing tag '[/]' has nothing to close"
  | .badCall call => s!"error parsing '{call}'"
  | .unreadableNumber => "a number of a color cannot be read"
  | .unwritable => "a half of a surrogate pair cannot be written"

/-- Where the text of a column stands. -/
inductive Justify
  | left
  | right
deriving DecidableEq

/-- A column of a table: its header and the place of its text. -/
structure Column where
  header : String
  justify : Justify := .left

end Console

/-- A console. -/
structure Console where
  /-- How many columns it has. -/
  columns : Nat
  /-- How many columns a text takes. -/
  columnsOf : List Char → Nat
  /-- Whether a character takes at most one column, whatever stands around it. -/
  isNarrow : Char → Bool
  /-- Whether a name between colons is shown as a picture. -/
  isPictureName : List Char → Bool
  /-- The lines of a text with markup. -/
  print : Text → Except Console.MarkupFault (List String)
  /-- The lines of a table of texts with markup. -/
  printTable : List Console.Column → List (List Text) →
    Except Console.MarkupFault (List String)

end Reconcile
