import Reconcile.Comparison.Selection
import Reconcile.Plan

/-!
# What a plan holds

A plan has one operation for each comparison. This module turns the table of
recommended actions around, from an action to the statuses and directions that
call for it, and says which actions a direction never recommends.
-/

namespace Reconcile

variable {d : Direction} {cs : List Comparison} {op : Operation} {s : Status}

theorem mem_plan :
    op ∈ plan d cs ↔
      op.comparison ∈ cs ∧ op.action = .recommended op.comparison.status d := by
  simp only [plan, List.mem_map]
  constructor
  · rintro ⟨c, hc, rfl⟩
    exact ⟨hc, rfl⟩
  · rintro ⟨hc, haction⟩
    exact ⟨op.comparison, hc, by rw [← haction]⟩

/-- A plan has the paths of the comparisons, in their order. -/
theorem map_path_plan (d : Direction) (cs : List Comparison) :
    (plan d cs).map Operation.path = cs.map Comparison.path := List.map_map

namespace Summary

/-- The operations that are actionable are those that change a side. -/
theorem actionable_ofOperations (ops : List Operation) :
    (ofOperations ops).actionable = ops.countP (·.action.changesFiles) := by
  induction ops with
  | nil => rfl
  | cons op rest ih =>
    rw [List.countP_cons, ← ih]
    simp only [ofOperations, actionable, List.countP_cons]
    cases op.action <;> simp [Action.changesFiles] <;> omega

/-- Nothing is actionable exactly when no operation changes a side. -/
theorem actionable_eq_zero_iff {ops : List Operation} :
    (ofOperations ops).actionable = 0 ↔ ∀ op ∈ ops, op.action.changesFiles = false := by
  rw [actionable_ofOperations, List.countP_eq_zero]
  simp only [Bool.not_eq_true]

end Summary

namespace Action

theorem recommended_eq_upload_iff :
    recommended s d = .upload ↔ (s = .localNewer ∨ s = .localOnly) ∧ d ≠ .remoteToLocal := by
  cases s <;> cases d <;> decide

theorem recommended_eq_download_iff :
    recommended s d = .download ↔ (s = .remoteNewer ∨ s = .remoteOnly) ∧ d ≠ .localToRemote := by
  cases s <;> cases d <;> decide

theorem recommended_eq_deleteLocal_iff :
    recommended s d = .deleteLocal ↔ s = .localOnly ∧ d = .remoteToLocal := by
  cases s <;> cases d <;> decide

theorem recommended_eq_deleteRemote_iff :
    recommended s d = .deleteRemote ↔ s = .remoteOnly ∧ d = .localToRemote := by
  cases s <;> cases d <;> decide

/-- What is left to the user is what needs review, in every direction. -/
theorem recommended_eq_askUser_iff : recommended s d = .askUser ↔ s.needsReview = true := by
  cases s <;> cases d <;> decide

/-! ## What a direction leaves alone -/

/-- A one-way direction never touches its source. -/
theorem recommended_localToRemote_ne (s : Status) :
    recommended s .localToRemote ≠ .download ∧ recommended s .localToRemote ≠ .deleteLocal := by
  cases s <;> decide

theorem recommended_remoteToLocal_ne (s : Status) :
    recommended s .remoteToLocal ≠ .upload ∧ recommended s .remoteToLocal ≠ .deleteRemote := by
  cases s <;> decide

theorem recommended_bidirectional_ne (s : Status) :
    recommended s .bidirectional ≠ .deleteLocal ∧
      recommended s .bidirectional ≠ .deleteRemote := by
  cases s <;> decide

end Action

end Reconcile
