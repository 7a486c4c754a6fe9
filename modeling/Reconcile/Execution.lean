import Reconcile.Inventory
import Reconcile.Plan

/-!
# Carrying out a plan

What the operations of a plan do to the inventories of the two sides: a copy puts
the entry of one side on the other, a deletion takes it away, and everything else
leaves both sides as they are.
-/

namespace Reconcile

/-- The inventories of the two sides. -/
structure Sides where
  here : Inventory
  there : Inventory
deriving Inhabited

namespace Sides

/-- The sides exchanged. -/
def swap (s : Sides) : Sides := ⟨s.there, s.here⟩

/-- The inventory `target` with the entry that `source` has for a path. -/
def copied (path : Text) (source target : Inventory) : Inventory :=
  match source.get? path with
  | some e => target.put path e
  | none => target

/-- The sides after an action on a path. -/
def after (s : Sides) (path : Text) : Action → Sides
  | .upload => { s with there := copied path s.here s.there }
  | .download => { s with here := copied path s.there s.here }
  | .deleteLocal => { s with here := s.here.erase path }
  | .deleteRemote => { s with there := s.there.erase path }
  | .skip | .askUser => s

/-- The sides after some operations, one after the other. -/
def afterAll (s : Sides) (ops : List Operation) : Sides :=
  ops.foldl (fun s op => s.after op.path op.action) s

@[simp] theorem swap_swap (s : Sides) : s.swap.swap = s := rfl

theorem after_swap (s : Sides) (path : Text) (a : Action) :
    s.swap.after path a.swap = (s.after path a).swap := by
  cases a <;> rfl

end Sides

end Reconcile
