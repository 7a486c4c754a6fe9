import Reconcile.Proofs.Plan.Contested
import Reconcile.Proofs.Sequence
import Reconcile.Proofs.Tally

/-!
# What is selected and what asks the user

A path is selected as long as one of its comparisons needs no review (`mem_selectedPaths`),
and an operation asks the user exactly if its comparison needs review, in every direction
(`recommended_eq_askUser_iff`). A list may have a path twice, once either way. After a merge
none does, so there what is selected and what asks the user share the paths of the plan
between them (`selectedPaths_append_askedPaths_perm`). Main statement:
`selected_or_asked`.
-/

namespace Reconcile

variable {cs : List Comparison} {d : Direction} {path : Text}

/-- The paths of the operations that ask the user. -/
def askedPaths (ops : List Operation) : List Text :=
  (ops.filter (·.action = .askUser)).map Operation.path

/-! ## Any list of comparisons -/

theorem exists_mem_plan_iff :
    (∃ op ∈ plan d cs, op.path = path) ↔ path ∈ cs.map Comparison.path := by
  rw [← map_path_plan d, List.mem_map]

/-- A path is left out exactly if all that is planned for it asks the user. -/
theorem not_mem_selectedPaths_iff :
    path ∉ selectedPaths cs ↔ ∀ op ∈ plan d cs, op.path = path → op.action = .askUser := by
  rw [mem_selectedPaths]
  constructor
  · intro hnone op hop hpath
    obtain ⟨hc, haction⟩ := mem_plan.1 hop
    rw [haction, Action.recommended_eq_askUser_iff, ← Bool.not_eq_false]
    exact fun hreview => hnone ⟨op.comparison, hc, hreview, hpath⟩
  · rintro hall ⟨c, hc, hreview, hpath⟩
    have hasks := hall ⟨c, .recommended c.status d⟩ (mem_plan.2 ⟨hc, rfl⟩) hpath
    rw [Action.recommended_eq_askUser_iff.1 hasks] at hreview
    cases hreview

theorem askedPaths_plan (d : Direction) (cs : List Comparison) :
    askedPaths (plan d cs) = (cs.filter (·.status.needsReview)).map Comparison.path := by
  rw [askedPaths, plan, List.filter_map, List.map_map]
  refine congrArg _ (List.filter_congr fun c _ => ?_)
  rw [Bool.eq_iff_iff, Function.comp_apply, decide_eq_true_iff]
  exact Action.recommended_eq_askUser_iff

/-! ## Lists with one comparison for a path at most -/

/-- The one operation for a path asks the user unless the path is selected. -/
theorem mem_selectedPaths_iff_of_nodup (h : (cs.map Comparison.path).Nodup) {op : Operation}
    (hop : op ∈ plan d cs) : op.path ∈ selectedPaths cs ↔ op.action ≠ .askUser := by
  rw [← not_iff_not, not_not, not_mem_selectedPaths_iff (d := d)]
  constructor
  · exact fun hall => hall op hop rfl
  · -- with unique paths an operation for the path can only be this one
    intro hasks op' hop' hpath
    rw [← map_path_plan d] at h
    rwa [List.inj_on_of_nodup_map h hop' hop hpath]

theorem selectedPaths_perm (h : (cs.map Comparison.path).Nodup) :
    (selectedPaths cs).Perm ((cs.filter (!·.status.needsReview)).map Comparison.path) := by
  have hkept : ((cs.filter (!·.status.needsReview)).map Comparison.path).Nodup :=
    h.sublist (List.filter_sublist.map _)
  rw [selectedPaths, Sequence.eraseDups_eq_self hkept]
  exact List.mergeSort_perm _ _

/-- **The plan is shared out**: each of its paths is either selected or one that asks the
user. -/
theorem selectedPaths_append_askedPaths_perm (h : (cs.map Comparison.path).Nodup)
    (d : Direction) :
    (selectedPaths cs ++ askedPaths (plan d cs)).Perm ((plan d cs).map Operation.path) := by
  rw [askedPaths_plan, map_path_plan]
  refine ((selectedPaths_perm h).append_right _).trans (List.perm_append_comm.trans ?_)
  rw [← List.map_append]
  exact (List.filter_append_perm (·.status.needsReview) cs).map _

/-- **What is not selected asks the user**, all of it and in every direction. After a merge,
whatever journals and directions come in between, a path is selected exactly if its one
operation does not ask, so what is selected and what asks are together the paths of the plan,
each once. -/
theorem selected_or_asked (d : Direction) :
    (∀ (cs : List Comparison) (path : Text),
      (path ∈ cs.map Comparison.path ↔ ∃ op ∈ plan d cs, op.path = path) ∧
      (path ∉ selectedPaths cs ↔ ∀ op ∈ plan d cs, op.path = path → op.action = .askUser)) ∧
    ∀ (o : Options) (here there : Inventory) (steps : List Refinement),
      let cs := refine steps (here.compare o there)
      let ops := plan d cs
      (∀ op ∈ ops, op.path ∈ selectedPaths cs ↔ op.action ≠ .askUser) ∧
      (∀ d', askedPaths (plan d' cs) = askedPaths ops) ∧
      (ops.map Operation.path).Nodup ∧
      (selectedPaths cs ++ askedPaths ops).Perm (ops.map Operation.path) ∧
      (selectedPaths cs).length + (askedPaths ops).length = (Summary.ofOperations ops).total := by
  refine ⟨fun cs path => ⟨exists_mem_plan_iff.symm, not_mem_selectedPaths_iff⟩, ?_⟩
  intro o here there steps cs ops
  have hnodup : (cs.map Comparison.path).Nodup :=
    ((represents_compare o here there).refine steps).increasing.nodup_map
  have hperm := selectedPaths_append_askedPaths_perm hnodup d
  refine ⟨fun op hop => mem_selectedPaths_iff_of_nodup hnodup hop, fun d' => ?_, ?_, hperm, ?_⟩
  · rw [askedPaths_plan, askedPaths_plan]
  · rwa [map_path_plan]
  · rw [Summary.total_ofOperations, ← List.length_append, hperm.length_eq, List.length_map]

/-- A path with a conflict and another comparison is selected; after a merge, so is a new file,
but not one whose size alone differs. -/
theorem selected_beside_conflict :
    let a : Text := "a"
    let b : Text := "b"
    let c (s : Status) : Comparison := { path := a, status := s, here := none, there := none }
    let file (name : Text) (size : Int) : Entry := { name, path := name, size }
    let here := Inventory.ofPairs [(b, file b 1), (a, file a 2)]
    let there := Inventory.ofPairs [(a, file a 3)]
    let steps := [.towards .bidirectional, .journal ⟨[b], [b]⟩]
    let cs := refine steps (here.compare {} there)
    ⟨c .conflict, .askUser⟩ ∈ plan .remoteToLocal [c .conflict, c .localOnly] ∧
      a ∈ selectedPaths [c .conflict, c .localOnly] ∧
      a ∈ cs.map Comparison.path ∧ a ∉ selectedPaths cs ∧ b ∈ selectedPaths cs := by
  intro a b c file here there steps cs
  obtain ⟨hany, hmerge⟩ := selected_or_asked .remoteToLocal
  have hnew : ⟨c .localOnly, .deleteLocal⟩ ∈ plan .remoteToLocal [c .conflict, c .localOnly] :=
    mem_plan.2 ⟨List.mem_cons_of_mem _ List.mem_cons_self, rfl⟩
  let ca := Comparison.ofPath {} here there a
  let cb := Comparison.ofPath {} here there b
  have hca : ca ∈ here.compare {} there :=
    mem_compare.2 ⟨.inl (by decide), by decide, rfl, rfl⟩
  have hcb : cb ∈ here.compare {} there :=
    mem_compare.2 ⟨.inl (by decide), by decide, rfl, rfl⟩
  have ha : ⟨ca, .askUser⟩ ∈ plan .remoteToLocal cs :=
    mem_plan.2 ⟨List.mem_map.2 ⟨ca, List.mem_filter.2 ⟨hca, rfl⟩, rfl⟩, rfl⟩
  have hb : ⟨cb, .deleteLocal⟩ ∈ plan .remoteToLocal cs :=
    mem_plan.2 ⟨List.mem_map.2 ⟨cb, List.mem_filter.2 ⟨hcb, rfl⟩, rfl⟩, rfl⟩
  obtain ⟨hselected, -⟩ := hmerge {} here there steps
  refine ⟨mem_plan.2 ⟨List.mem_cons_self, rfl⟩, ?_, (hany cs a).1.2 ⟨_, ha, rfl⟩, ?_,
    (hselected _ hb).2 (by decide)⟩
  · by_contra hnot
    cases (hany _ "a").2.1 hnot _ hnew rfl
  · exact fun hmem => (hselected _ ha).1 hmem rfl

end Reconcile
