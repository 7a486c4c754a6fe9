/-! # Ends of lines -/

namespace Reconcile.Text

/-- Writes every end of line as a line feed: a carriage return, alone or with
the line feed after it, becomes one. -/
def unifyLines : List Char → List Char
  | [] => []
  | '\r' :: '\n' :: rest => '\n' :: unifyLines rest
  | c :: rest => (if c = '\r' then '\n' else c) :: unifyLines rest

/-- Whether a line ends at `c`, by the widest reading: beside line feed and carriage
return also at form feeds, at information separators but the last, and at the
characters that Unicode has for it. -/
def isLineBoundary (c : Char) : Bool :=
  c.toNat ∈ [0x0A, 0x0B, 0x0C, 0x0D, 0x1C, 0x1D, 0x1E, 0x85, 0x2028, 0x2029]

/-- The lines of a text by that reading. -/
def splitLines (s : List Char) : List (List Char) := s.splitOnP isLineBoundary

/-- A place in a text: lines and columns count from one. -/
structure Place where
  line : Nat
  column : Nat
deriving DecidableEq

/-- The place of the character after `before`. -/
def Place.after (before : List Char) : Place where
  line := before.count '\n' + 1
  column := (before.reverse.takeWhile (· ≠ '\n')).length + 1

end Reconcile.Text
