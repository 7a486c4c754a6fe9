import Reconcile.Comparison

/-!
# Change journals

A journal tells which paths changed on each side since the last checkpoint. What
changed on both sides is a conflict.
-/

namespace Reconcile

/-- The paths that changed on each side since the last checkpoint. -/
structure Journal where
  localChanged : List Text
  remoteChanged : List Text
deriving Inhabited

namespace Journal

/-- Whether a path changed on both sides. -/
def bothChanged (j : Journal) (path : Text) : Bool :=
  j.localChanged.contains path && j.remoteChanged.contains path

/-- The journal with the two sides exchanged. -/
def swap (j : Journal) : Journal := ⟨j.remoteChanged, j.localChanged⟩

/-- A comparison in the light of the journal: a conflict if both sides have the
path and changed it. -/
def mark (j : Journal) (c : Comparison) : Comparison :=
  if c.onBothSides && j.bothChanged c.path then { c with status := .conflict } else c

/-- The comparisons in the light of the journal. -/
def apply (j : Journal) (cs : List Comparison) : List Comparison := cs.map j.mark

end Journal

end Reconcile
