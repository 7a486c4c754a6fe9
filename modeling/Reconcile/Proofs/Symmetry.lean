import Reconcile.Comparison.Refinement
import Reconcile.Plan
import Reconcile.Proofs.Comparison.Merge
import Reconcile.Proofs.Status

/-!
# The two sides are treated alike

Exchanging the sides from the start exchanges them in every result on the way, and
nothing else: in the status of a path, in the comparisons of a merge, in what a
journal or a direction makes of these, and in the plan. What is selected for
execution stays the same. Main statement: `pipeline_swap`.
-/

namespace Reconcile

variable {c : Comparison}

/-! ## The tables -/

theorem Status.flows_swap (d : Direction) (s : Status) : s.swap.flows d.swap = s.flows d := by
  cases d <;> cases s <;> rfl

theorem Status.needsReview_swap (s : Status) : s.swap.needsReview = s.needsReview := by
  cases s <;> rfl

theorem Action.recommended_swap (s : Status) (d : Direction) :
    recommended s.swap d.swap = (recommended s d).swap := by
  cases s <;> cases d <;> rfl

/-! ## The merge -/

namespace Comparison

theorem swap_eq_iff {c c' : Comparison} : c.swap = c' ↔ c = c'.swap :=
  Function.Involutive.eq_iff swap_swap

theorem ofPath_swap (o : Options) (here there : Inventory) (path : Text) :
    ofPath o there here path = (ofPath o here there path).swap := by
  rw [ofPath, ofPath, swap, Status.ofSides_swap o (here.get? path), Bool.or_comm]

theorem isReported_swap (c : Comparison) : c.swap.isReported = c.isReported := by
  rw [isReported, isReported, swap]
  cases c.status <;> rfl

theorem onBothSides_swap (c : Comparison) : c.swap.onBothSides = c.onBothSides :=
  Bool.and_comm _ _

theorem mem_map_swap {cs : List Comparison} : c ∈ cs.map swap ↔ c.swap ∈ cs :=
  List.mem_map_of_involutive swap_swap

theorem filter_map_swap {p q : Comparison → Bool} (h : ∀ c, p c.swap = q c)
    (cs : List Comparison) : (cs.map swap).filter p = (cs.filter q).map swap := by
  rw [List.filter_map]
  congr 1
  exact List.filter_congr fun c _ => h c

end Comparison

/-- **The merge**: the comparisons are exchanged one by one and keep their order. -/
theorem compare_swap (o : Options) (here there : Inventory) :
    there.compare o here = (here.compare o there).map Comparison.swap := by
  refine (increasing_compare o there here).eq_of_mem_iff
    (Utf8.increasing_map.2 (increasing_compare o here there)) ?_
  intro c
  rw [Comparison.mem_map_swap, mem_compare, mem_compare, Comparison.isReported_swap,
    Comparison.swap_eq_iff, ← Comparison.ofPath_swap, or_comm]
  rfl

/-! ## Journals and directions -/

namespace Journal

theorem bothChanged_swap (j : Journal) (path : Text) :
    j.swap.bothChanged path = j.bothChanged path := Bool.and_comm _ _

theorem mark_swap (j : Journal) (c : Comparison) : j.swap.mark c.swap = (j.mark c).swap := by
  have hpath : c.swap.path = c.path := rfl
  rw [mark, mark, Comparison.onBothSides_swap, hpath, bothChanged_swap]
  split <;> rfl

theorem apply_swap (j : Journal) (cs : List Comparison) :
    j.swap.apply (cs.map Comparison.swap) = (j.apply cs).map Comparison.swap := by
  rw [apply, apply, List.map_map, List.map_map]
  exact List.map_congr_left fun c _ => mark_swap j c

end Journal

theorem flowing_swap (d : Direction) (cs : List Comparison) :
    flowing d.swap (cs.map Comparison.swap) = (flowing d cs).map Comparison.swap :=
  Comparison.filter_map_swap (fun c => Status.flows_swap d c.status) cs

/-- **One step** between a merge and its plan. -/
theorem Refinement.apply_swap (step : Refinement) (cs : List Comparison) :
    step.swap.apply (cs.map Comparison.swap) = (step.apply cs).map Comparison.swap := by
  cases step with
  | journal j => exact j.apply_swap cs
  | towards d => exact flowing_swap d cs

/-- **Any number of steps**, in any order. -/
theorem refine_swap (steps : List Refinement) (cs : List Comparison) :
    refine (steps.map Refinement.swap) (cs.map Comparison.swap) =
      (refine steps cs).map Comparison.swap := by
  induction steps generalizing cs with
  | nil => rfl
  | cons step rest ih =>
    rw [List.map_cons, refine_cons, refine_cons, Refinement.apply_swap, ih]

/-! ## Plans and selections -/

theorem plan_swap (d : Direction) (cs : List Comparison) :
    plan d.swap (cs.map Comparison.swap) = (plan d cs).map Operation.swap := by
  rw [plan, plan, List.map_map, List.map_map]
  refine List.map_congr_left fun c _ => ?_
  exact congrArg (Operation.mk c.swap) (Action.recommended_swap c.status d)

theorem isSelected_swap (cs : List Comparison) (path : Text) :
    isSelected (cs.map Comparison.swap) path = isSelected cs path := by
  rw [isSelected, isSelected, List.any_map]
  congr 1
  funext c
  exact congrArg (fun review => decide (c.path = path) && !review)
    (Status.needsReview_swap c.status)

theorem selectedPaths_swap (cs : List Comparison) :
    selectedPaths (cs.map Comparison.swap) = selectedPaths cs := by
  have hreview : ∀ c : Comparison,
      (!c.swap.status.needsReview) = !c.status.needsReview :=
    fun c => congrArg (!·) (Status.needsReview_swap c.status)
  rw [selectedPaths, selectedPaths, Comparison.filter_map_swap hreview, List.map_map]
  rfl

/-- **The two sides are treated alike** by every stage, and so by all of them
together. -/
theorem pipeline_swap (o : Options) (here there : Inventory) (cs : List Comparison)
    (j : Journal) (steps : List Refinement) (d : Direction) :
    there.compare o here = (here.compare o there).map Comparison.swap ∧
    j.swap.apply (cs.map Comparison.swap) = (j.apply cs).map Comparison.swap ∧
    flowing d.swap (cs.map Comparison.swap) = (flowing d cs).map Comparison.swap ∧
    plan d.swap (cs.map Comparison.swap) = (plan d cs).map Operation.swap ∧
    selectedPaths (cs.map Comparison.swap) = selectedPaths cs ∧
    (∀ path, isSelected (cs.map Comparison.swap) path = isSelected cs path) ∧
    plan d.swap (refine (steps.map Refinement.swap) (there.compare o here)) =
      (plan d (refine steps (here.compare o there))).map Operation.swap := by
  refine ⟨compare_swap o here there, j.apply_swap cs, flowing_swap d cs, plan_swap d cs,
    selectedPaths_swap cs, isSelected_swap cs, ?_⟩
  rw [compare_swap o here there, refine_swap, plan_swap]

end Reconcile
