import Reconcile.Comparison.Selection
import Reconcile.Proofs.Plan
import Reconcile.Proofs.Tally

/-!
# Plans for one direction

What flows the way of a direction is told twice: by the status of a comparison, before the
plan, and by the action of an operation, after it. The two tell the same (`flows_recommended`),
so it does not matter whether comparisons are left out before they are planned or operations
after (`plan_flowing`). One way, all that is left moves data (`changesFiles_of_flows`), and
no status flows both ways (`flows_one_way_at_most`). Main statement: `plan_flowing_exact`.
-/

namespace Reconcile

variable {d : Direction} {a : Action} {s : Status}

/-! ## The two tables -/

namespace Action

/-- Whether data flows the way of a direction by an action. By `skip` nothing flows; both ways
together take every other action. -/
def flows : Direction → Action → Bool
  | .localToRemote, a => a = .upload
  | .remoteToLocal, a => a = .download
  | .bidirectional, a => a ≠ .skip

/-- **The tables agree**: what is recommended flows exactly if the status does. -/
theorem flows_recommended (d : Direction) (s : Status) : (recommended s d).flows d = s.flows d := by
  cases d <;> cases s <;> rfl

theorem eq_upload_or_eq_download_of_flows (hd : d ≠ .bidirectional) (h : a.flows d = true) :
    a = .upload ∨ a = .download := by
  cases d with
  | localToRemote => exact .inl (of_decide_eq_true h)
  | remoteToLocal => exact .inr (of_decide_eq_true h)
  | bidirectional => exact absurd rfl hd

theorem changesFiles_of_flows (hd : d ≠ .bidirectional) (h : a.flows d = true) :
    a.changesFiles = true := by
  rcases eq_upload_or_eq_download_of_flows hd h with rfl | rfl
  · rfl
  · rfl

end Action

theorem Status.flows_one_way_at_most (s : Status) :
    (s.flows .localToRemote && s.flows .remoteToLocal) = false := by
  cases s <;> rfl

theorem Status.flows_swap_eq_false (hd : d ≠ .bidirectional) (h : s.flows d = true) :
    s.flows d.swap = false := by
  have hone := s.flows_one_way_at_most
  cases d with
  | localToRemote => rwa [h, Bool.true_and] at hone
  | remoteToLocal => rwa [h, Bool.and_true] at hone
  | bidirectional => exact absurd rfl hd

/-! ## Before the plan and after it -/

theorem plan_flowing (d : Direction) (cs : List Comparison) :
    plan d (flowing d cs) = (plan d cs).filter (·.action.flows d) := by
  rw [plan, plan, flowing, List.filter_map]
  exact congrArg _ (List.filter_congr fun c _ => (Action.flows_recommended d c.status).symm)

theorem flowing_flowing (d : Direction) (cs : List Comparison) :
    flowing d (flowing d cs) = flowing d cs := by
  rw [flowing, flowing, List.filter_filter]
  simp only [Bool.and_self]

theorem flowing_flowing_swap (hd : d ≠ .bidirectional) (cs : List Comparison) :
    flowing d.swap (flowing d cs) = [] := by
  refine List.filter_eq_nil_iff.2 fun c hc => ?_
  rw [Status.flows_swap_eq_false hd (List.mem_filter.1 hc).2]
  exact Bool.false_ne_true

theorem flows_of_mem_plan_flowing {cs : List Comparison} {op : Operation}
    (h : op ∈ plan d (flowing d cs)) : op.action.flows d = true := by
  rw [plan_flowing] at h
  exact (List.mem_filter.1 h).2

/-- **Leaving out before planning is leaving out of the plan**: the plan of the comparisons
by which data flows the way of a direction is, in its order, the part of the whole plan that
does. One way, it neither deletes nor skips nor asks, all of it is actionable, and nothing of
it flows the other way. What has been left out once is left out for good. -/
theorem plan_flowing_exact (d : Direction) (cs : List Comparison) :
    let ops := plan d (flowing d cs)
    ops = (plan d cs).filter (·.action.flows d) ∧
    (d ≠ .bidirectional →
      (∀ op ∈ ops, op.action ≠ .deleteLocal ∧ op.action ≠ .deleteRemote ∧ op.action ≠ .skip ∧
        op.action ≠ .askUser) ∧
      (Summary.ofOperations ops).total = (Summary.ofOperations ops).actionable ∧
      flowing d.swap (flowing d cs) = []) ∧
    flowing d (flowing d cs) = flowing d cs := by
  intro ops
  refine ⟨plan_flowing d cs, fun hd => ⟨?_, ?_, flowing_flowing_swap hd cs⟩, flowing_flowing d cs⟩
  · intro op hop
    have hflows := flows_of_mem_plan_flowing hop
    rcases Action.eq_upload_or_eq_download_of_flows hd hflows with h | h
    · simp [h]
    · simp [h]
  · rw [Summary.total_ofOperations, Summary.actionable_ofOperations, eq_comm,
      List.countP_eq_length]
    exact fun op hop => Action.changesFiles_of_flows hd (flows_of_mem_plan_flowing hop)

/-- Every status once and one of them twice, for the same path. -/
theorem plan_flowing_of_every_status :
    let c (s : Status) : Comparison := { path := "a", status := s, here := none, there := none }
    let cs := .localOnly :: Status.all |>.map c
    let ops := plan .localToRemote (flowing .localToRemote cs)
    Direction.localToRemote ≠ .bidirectional ∧
      ops = [⟨c .localOnly, .upload⟩, ⟨c .localNewer, .upload⟩, ⟨c .localOnly, .upload⟩] ∧
      (Summary.ofOperations ops).actionable = 3 ∧
      flowing .remoteToLocal (flowing .localToRemote cs) = [] := by
  intro c cs ops
  obtain ⟨hops, hone, -⟩ := plan_flowing_exact .localToRemote cs
  obtain ⟨-, htotal, hnone⟩ := hone (by decide)
  exact ⟨by decide, hops, htotal.symm, hnone⟩

end Reconcile
