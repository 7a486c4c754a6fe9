import Reconcile.Plan

/-!
# Tallies: what came of the operations carried out

Every operation that was attempted is recorded once. One that fails leaves an
error and the others go on.
-/

namespace Reconcile

/-- Counts of successes and the errors in the order they came. -/
structure Tally where
  uploaded : Int := 0
  downloaded : Int := 0
  deleted : Int := 0
  skipped : Int := 0
  errors : List Text := []
deriving DecidableEq, Inhabited

namespace Tally

/-- Counts an action that succeeded. What is left to the user counts as skipped. -/
def success (t : Tally) : Action → Tally
  | .upload => { t with uploaded := t.uploaded + 1 }
  | .download => { t with downloaded := t.downloaded + 1 }
  | .deleteLocal | .deleteRemote => { t with deleted := t.deleted + 1 }
  | .skip | .askUser => { t with skipped := t.skipped + 1 }

/-- Notes a failure about a path. -/
def failure (t : Tally) (path message : Text) : Tally :=
  { t with errors := t.errors ++ [path ++ ": " ++ message] }

/-- Records an operation, with the message of its failure if it failed. -/
def record (t : Tally) (op : Operation) : (error : Option Text) → Tally
  | none => t.success op.action
  | some message => t.failure op.path message

/-- Records operations one after the other. -/
def recordAll (t : Tally) (outcomes : List (Operation × Option Text)) : Tally :=
  outcomes.foldl (fun t outcome => t.record outcome.1 outcome.2) t

/-- The number of successes. -/
def succeeded (t : Tally) : Int := t.uploaded + t.downloaded + t.deleted + t.skipped

/-- The number of operations recorded. -/
def total (t : Tally) : Int := t.succeeded + t.errors.length

/-- Whether an operation failed. -/
def hasErrors (t : Tally) : Bool := !t.errors.isEmpty

end Tally

end Reconcile
