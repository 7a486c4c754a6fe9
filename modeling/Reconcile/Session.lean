import Reconcile.Comparison.Refinement
import Reconcile.Inventory.Document
import Reconcile.Json.Reader
import Reconcile.Runtime
import Reconcile.Settings.Merge
import Reconcile.Settings.Override
import Reconcile.Tally

/-!
# Sessions

A session holds two inventories, settings, the comparisons and the operations
last made from them, and a tally over all its reports. A step that fails leaves
the session as it was.
-/

namespace Reconcile

/-- The step towards the direction that a value names. What names none, but can be
looked up, takes both ways. -/
def Refinement.towardsGiven (direction : Value) : Except Malformed Refinement := do
  return .towards ((← direction.toKey).toDirection.toOption.getD .bidirectional)

/-- The operations for the direction that a value names. It is looked at only when
there is a comparison. -/
def planGiven (direction : Value) (cs : List Comparison) : Except Malformed (List Operation) :=
  if cs.isEmpty then .ok [] else (plan · cs) <$> direction.toDirection

/-- One of the two sides. -/
inductive Side
  | here
  | there
deriving DecidableEq, Inhabited

/-- The state of a session. -/
structure Session where
  here : Inventory := .empty
  there : Inventory := .empty
  settings : Settings := .ofOptions {}
  comparisons : List Comparison := []
  operations : List Operation := []
  tally : Tally := {}

namespace Session

/-- A step of a session. -/
inductive Step
  /-- Replaces an inventory by the one in a JSON text. -/
  | load (side : Side) (json : String)
  | put (side : Side) (path : Value) (entry : Value)
  | remove (side : Side) (path : Value)
  | override (overrides : Fields)
  | build
  | journal (j : Journal)
  /-- Without a direction, that of the settings is taken. -/
  | filter (direction : Option Value)
  | select
  | plan (direction : Option Value)
  /-- Records the operations of the last plan, with the errors of their paths. -/
  | report (errors : Fields)

/-- What a step answers. -/
inductive Answer
  | count (entries : Nat)
  | settings (s : Settings)
  | built (comparisons : List Comparison) (logLine : String)
  | comparisons (cs : List Comparison)
  | selected (paths : List Text)
  | planned (ops : List Operation) (summary : Summary)
  | tally (t : Tally)

/-- Why a step fails. -/
inductive StepError
  | json (error : Json.ReadError)
  | inventory (fault : Inventory.Fault)
  | override (error : Settings.OverrideError)
  | malformed (fault : Malformed)

/-- The inventory of a side. -/
def inventory (s : Session) : Side → Inventory
  | .here => s.here
  | .there => s.there

/-- The session with another inventory for a side, and the number of its
entries. -/
def withInventory (s : Session) (side : Side) (i : Inventory) : Session × Answer :=
  match side with
  | .here => ({ s with here := i }, .count i.size)
  | .there => ({ s with there := i }, .count i.size)

/-- The session with its comparisons refined. -/
def refined (s : Session) (r : Refinement) : Session × Answer :=
  let cs := r.apply s.comparisons
  ({ s with comparisons := cs }, .comparisons cs)

/-- The direction given, or else that of the settings. -/
def given (s : Session) (direction : Option Value) : Value :=
  direction.getD (.text s.settings.direction.name)

/-- Carries out a step. -/
def step (s : Session) (runtime : Runtime) : Step → Except StepError (Session × Answer)
  | .load side json => do
    let v ← (Json.read runtime.jsonDepth json.toList).mapError .json
    let i ← (Inventory.ofValue v).mapError .inventory
    return s.withInventory side i
  | .put side path v => do
    let path := (← path.toKey.mapError .malformed).display
    let entry ← (Inventory.entryOfValue path v).mapError .inventory
    return s.withInventory side ((s.inventory side).put path entry)
  | .remove side path => do
    match ← path.toKey.mapError .malformed with
    | .text path => return s.withInventory side ((s.inventory side).erase path)
    | _ => return s.withInventory side (s.inventory side)
  | .override overrides => do
    let settings ← (s.settings.override overrides).mapError .override
    return ({ s with settings }, .settings settings)
  | .build => do
    let m ← (s.settings.merge s.here s.there).mapError .malformed
    return ({ s with comparisons := m.comparisons }, .built m.comparisons m.logLine)
  | .journal j => return s.refined (.journal j)
  | .filter direction => do
    let r ← (Refinement.towardsGiven (s.given direction)).mapError .malformed
    return s.refined r
  | .select => return (s, .selected (selectedPaths s.comparisons))
  | .plan direction => do
    let ops ← (planGiven (s.given direction) s.comparisons).mapError .malformed
    return ({ s with operations := ops }, .planned ops (.ofOperations ops))
  | .report errors =>
    let error (op : Operation) := (Keyed.get? errors op.path).bind Value.shown?
    let t := s.tally.recordAll (s.operations.map fun op => (op, error op))
    return ({ s with tally := t }, .tally t)

end Session

end Reconcile
