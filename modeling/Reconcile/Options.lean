import Reconcile.Direction

/-! # Options of a comparison -/

namespace Reconcile

/-- The patterns excluded where nothing else is said. -/
def defaultPatterns : List Text :=
  ["node_modules", ".git", ".DS_Store", "Thumbs.db", "__pycache__", "*.pyc", ".env", "target"]

/-- What a comparison looks at, what it leaves out, and where changes flow. -/
structure Options where
  compareTimestamp : Bool := true
  compareSize : Bool := true
  /-- Kept for later use; no comparison looks at it. -/
  compareChecksum : Bool := false
  excludePatterns : List Text := defaultPatterns
  direction : Direction := .bidirectional
deriving DecidableEq, Inhabited

end Reconcile
