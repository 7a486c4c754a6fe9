import Reconcile.Comparison.Journal
import Reconcile.Comparison.Selection

/-!
# Refining comparisons

Between a merge and its plan, the comparisons may be refined any number of times
and in any order: a journal marks conflicts among them, and a direction keeps
those by which data flows its way.
-/

namespace Reconcile

/-- One step between a merge and its plan. -/
inductive Refinement
  | journal (j : Journal)
  | towards (d : Direction)
deriving Inhabited

namespace Refinement

/-- What the step makes of some comparisons. -/
def apply : Refinement → List Comparison → List Comparison
  | .journal j, cs => j.apply cs
  | .towards d, cs => flowing d cs

/-- The step with the two sides exchanged. -/
def swap : Refinement → Refinement
  | .journal j => .journal j.swap
  | .towards d => .towards d.swap

end Refinement

/-- What the steps make of some comparisons, one after the other. -/
def refine (steps : List Refinement) (cs : List Comparison) : List Comparison :=
  steps.foldl (fun cs step => step.apply cs) cs

@[simp] theorem refine_nil (cs : List Comparison) : refine [] cs = cs := rfl

@[simp] theorem refine_cons (step : Refinement) (steps : List Refinement) (cs : List Comparison) :
    refine (step :: steps) cs = refine steps (step.apply cs) := rfl

theorem refine_append (steps steps' : List Refinement) (cs : List Comparison) :
    refine (steps ++ steps') cs = refine steps' (refine steps cs) := by
  simp only [refine, List.foldl_append]

end Reconcile
