import Reconcile.Comparison

/-! # Choosing comparisons by direction and for execution -/

namespace Reconcile

/-- Whether a status means that data flows the way of a direction. Between
identical sides nothing flows; both ways together take every other status. -/
def Status.flows : Direction → Status → Bool
  | .localToRemote, s => s = .localNewer || s = .localOnly
  | .remoteToLocal, s => s = .remoteNewer || s = .remoteOnly
  | .bidirectional, s => s ≠ .identical

/-- Whether a status has to be looked at by the user. -/
def Status.needsReview (s : Status) : Bool := s = .conflict || s = .sizeMismatch

/-- The comparisons by which data flows the way of a direction. -/
def flowing (d : Direction) (cs : List Comparison) : List Comparison :=
  cs.filter (·.status.flows d)

/-- Whether a path is selected for execution: a comparison with it needs no
review. -/
def isSelected (cs : List Comparison) (path : Text) : Bool :=
  cs.any fun c => c.path = path && !c.status.needsReview

/-- The paths selected for execution, each once, in the order of their
characters. -/
def selectedPaths (cs : List Comparison) : List Text :=
  (((cs.filter (!·.status.needsReview)).map (·.path)).eraseDups).mergeSort (fun a b => a ≤ b)

end Reconcile
