import Reconcile.Text
import Reconcile.Text.Ranges

/-!
# Blank characters

The characters that are cut off both ends of a time stamp's text: all of
Unicode's white space and the four information separators U+001C to U+001F.
-/

namespace Reconcile

namespace Text

/-- The blank characters, as closed ranges. -/
def blankRanges : List (Nat × Nat) :=
  [(0x09, 0x0D), (0x1C, 0x20), (0x85, 0x85), (0xA0, 0xA0), (0x1680, 0x1680), (0x2000, 0x200A),
   (0x2028, 0x2029), (0x202F, 0x202F), (0x205F, 0x205F), (0x3000, 0x3000)]

/-- Whether `c` is blank. -/
def isBlank (c : Char) : Bool := inRanges blankRanges c

/-- A list without the items at its two ends that are like blanks. -/
def trimWith {α : Type} (isBlank : α → Bool) (s : List α) : List α :=
  ((s.dropWhile isBlank).reverse.dropWhile isBlank).reverse

/-- The characters without the blanks at their two ends. -/
def trim (s : List Char) : List Char := trimWith isBlank s

theorem isBlank_of_isWhitespace {c : Char} (h : c.isWhitespace = true) : isBlank c = true := by
  simp only [Char.isWhitespace, Bool.or_eq_true, decide_eq_true_eq] at h
  rcases h with ((rfl | rfl) | rfl) | rfl <;> rfl

end Text

/-- Whether a code point is blank. -/
def Point.isBlank : Point → Bool
  | .char c => Text.isBlank c
  | .half _ => false

/-- The code points without the blanks at their two ends. -/
def Text.trimPoints (ps : List Point) : List Point := trimWith Point.isBlank ps

end Reconcile
