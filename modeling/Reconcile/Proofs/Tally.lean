import Reconcile.Tally

/-!
# What a tally accounts for

A tally and the summary of a plan count the same operations in two ways: the one as they
come about, by a counter for each action (`Action.counter`), the other all at once, by
action. Each record raises one counter by one or adds one error (`count_record`,
`errors_record`), so after any number of them the tally accounts for every operation
once, in whatever order they came. Main statement: `recordAll_accounts`.
-/

namespace Reconcile

/-- The counters of a tally. -/
inductive Counter
  | uploaded
  | downloaded
  | deleted
  | skipped
deriving DecidableEq

/-- The counter of an action that succeeded. -/
def Action.counter : Action → Counter
  | .upload => .uploaded
  | .download => .downloaded
  | .deleteLocal | .deleteRemote => .deleted
  | .skip | .askUser => .skipped

/-- What a counter of a tally shows. -/
def Tally.count (t : Tally) : Counter → Int
  | .uploaded => t.uploaded
  | .downloaded => t.downloaded
  | .deleted => t.deleted
  | .skipped => t.skipped

/-- How many operations of a summary a counter would show if all of them succeeded. -/
def Summary.count (s : Summary) : Counter → Nat
  | .uploaded => s.upload
  | .downloaded => s.download
  | .deleted => s.deleteLocal + s.deleteRemote
  | .skipped => s.skip + s.askUser

/-- An operation and the message of its failure, if it failed. -/
abbrev Outcome := Operation × Option Text

namespace Outcome

/-- Whether the operation succeeded and is one that the counter counts. -/
def counts (k : Counter) (outcome : Outcome) : Bool :=
  outcome.2.isNone && outcome.1.action.counter = k

/-- The line of an operation that failed. -/
def errorLine? (outcome : Outcome) : Option Text :=
  outcome.2.map fun message => outcome.1.path ++ ": " ++ message

end Outcome

variable {outcomes outcomes' : List Outcome}

namespace Tally

/-! ## One record -/

theorem count_success (t : Tally) (a : Action) (k : Counter) :
    (t.success a).count k = t.count k + if a.counter = k then 1 else 0 := by
  cases a <;> cases k <;> simp [success, count, Action.counter]

theorem count_record (t : Tally) (outcome : Outcome) (k : Counter) :
    (t.record outcome.1 outcome.2).count k = t.count k + if outcome.counts k then 1 else 0 := by
  obtain ⟨op, error⟩ := outcome
  cases error with
  | none => simpa [record, Outcome.counts] using count_success t op.action k
  | some message => cases k <;> simp [record, failure, count, Outcome.counts]

theorem errors_success (t : Tally) (a : Action) : (t.success a).errors = t.errors := by
  cases a <;> rfl

theorem errors_record (t : Tally) (outcome : Outcome) :
    (t.record outcome.1 outcome.2).errors = t.errors ++ outcome.errorLine?.toList := by
  obtain ⟨op, error⟩ := outcome
  cases error with
  | none => simpa [record, Outcome.errorLine?] using errors_success t op.action
  | some message => rfl

theorem total_success (t : Tally) (a : Action) : (t.success a).total = t.total + 1 := by
  cases a <;> simp only [success, total, succeeded] <;> omega

/-- **One record** raises the total by one, whatever came of the operation. -/
theorem total_record (t : Tally) (outcome : Outcome) :
    (t.record outcome.1 outcome.2).total = t.total + 1 := by
  obtain ⟨op, error⟩ := outcome
  cases error with
  | none => exact total_success t op.action
  | some message =>
    simp only [record, failure, total, succeeded, List.length_append, List.length_singleton]
    omega

/-! ## Any number of records -/

theorem recordAll_cons (t : Tally) (outcome : Outcome) (outcomes : List Outcome) :
    t.recordAll (outcome :: outcomes) = (t.record outcome.1 outcome.2).recordAll outcomes := rfl

theorem count_recordAll (t : Tally) (outcomes : List Outcome) (k : Counter) :
    (t.recordAll outcomes).count k = t.count k + outcomes.countP (·.counts k) := by
  -- over the outcomes, for every tally, since the first of them changes it for the rest
  induction outcomes generalizing t with
  | nil => simp [recordAll]
  | cons outcome rest ih =>
    rw [recordAll_cons, ih, count_record, List.countP_cons]
    split <;> push_cast <;> omega

theorem errors_recordAll (t : Tally) (outcomes : List Outcome) :
    (t.recordAll outcomes).errors = t.errors ++ outcomes.filterMap Outcome.errorLine? := by
  induction outcomes generalizing t with
  | nil => simp [recordAll]
  | cons outcome rest ih =>
    rw [recordAll_cons, ih, errors_record, List.append_assoc]
    cases h : outcome.errorLine? with
    | none => rw [List.filterMap_cons_none h]; rfl
    | some line => rw [List.filterMap_cons_some h]; rfl

theorem total_recordAll (t : Tally) (outcomes : List Outcome) :
    (t.recordAll outcomes).total = t.total + outcomes.length := by
  induction outcomes generalizing t with
  | nil => simp [recordAll]
  | cons outcome rest ih =>
    rw [recordAll_cons, ih, total_record, List.length_cons]
    push_cast
    omega

/-- The counters and the total are the same in any order, and so are the errors but for
theirs. -/
theorem recordAll_perm (t : Tally) (h : outcomes.Perm outcomes') :
    (∀ k, (t.recordAll outcomes').count k = (t.recordAll outcomes).count k) ∧
      (t.recordAll outcomes').total = (t.recordAll outcomes).total ∧
      (t.recordAll outcomes').errors.Perm (t.recordAll outcomes).errors := by
  refine ⟨fun k => ?_, ?_, ?_⟩
  · rw [count_recordAll, count_recordAll, h.countP_eq]
  · rw [total_recordAll, total_recordAll, h.length_eq]
  · rw [errors_recordAll, errors_recordAll]
    exact (h.filterMap _).symm.append_left _

end Tally

/-! ## The summary of the operations -/

namespace Summary

theorem count_cons (op : Operation) (ops : List Operation) (k : Counter) :
    (ofOperations (op :: ops)).count k =
      (ofOperations ops).count k + if op.action.counter = k then 1 else 0 := by
  simp only [ofOperations, List.countP_cons]
  cases op.action <;> cases k <;> simp [count, Action.counter] <;> omega

theorem total_cons (op : Operation) (ops : List Operation) :
    (ofOperations (op :: ops)).total = (ofOperations ops).total + 1 := by
  simp only [ofOperations, total, List.countP_cons]
  cases op.action <;> simp <;> omega

theorem count_ofOperations (ops : List Operation) (k : Counter) :
    (ofOperations ops).count k = ops.countP (·.action.counter = k) := by
  induction ops with
  | nil => cases k <;> rfl
  | cons op rest ih => simp only [count_cons, ih, List.countP_cons, decide_eq_true_eq]

theorem total_ofOperations (ops : List Operation) : (ofOperations ops).total = ops.length := by
  induction ops with
  | nil => rfl
  | cons op rest ih => rw [total_cons, ih, List.length_cons]

/-- Where nothing fails, the counters of a run are those of the summary. -/
theorem count_eq_of_no_failure (h : ∀ outcome ∈ outcomes, outcome.2 = none) (k : Counter) :
    (ofOperations (outcomes.map Prod.fst)).count k = outcomes.countP (·.counts k) := by
  rw [count_ofOperations, List.countP_map]
  refine List.countP_congr fun outcome houtcome => ?_
  simp [Outcome.counts, h outcome houtcome]

end Summary

/-- **Every operation is accounted for once**: of those recorded, each that succeeded raises
the counter of its action, each that failed adds its line to the errors, after those that
were there, and each raises the total. The order is of no account, save for that of the
errors. Where nothing fails, the counters rise by what the summary of the operations
says. -/
theorem recordAll_accounts (t : Tally) (outcomes : List Outcome) :
    let after := t.recordAll outcomes
    let summary := Summary.ofOperations (outcomes.map Prod.fst)
    (∀ k, after.count k = t.count k + outcomes.countP (·.counts k)) ∧
    after.errors = t.errors ++ outcomes.filterMap Outcome.errorLine? ∧
    after.total = t.total + outcomes.length ∧
    (∀ outcomes', outcomes.Perm outcomes' →
      (∀ k, (t.recordAll outcomes').count k = after.count k) ∧
      (t.recordAll outcomes').total = after.total ∧
      (t.recordAll outcomes').errors.Perm after.errors) ∧
    ((∀ outcome ∈ outcomes, outcome.2 = none) →
      ∀ k, after.count k = t.count k + summary.count k) ∧
    summary.total = outcomes.length := by
  intro after summary
  refine ⟨t.count_recordAll outcomes, t.errors_recordAll outcomes, t.total_recordAll outcomes,
    fun outcomes' => t.recordAll_perm, ?_, ?_⟩
  · intro h k
    rw [Summary.count_eq_of_no_failure h]
    exact t.count_recordAll outcomes k
  · exact (Summary.total_ofOperations _).trans (List.length_map _)

/-- A failure whose message is empty is still a failure, and a removal on either side counts
as one. -/
theorem accounts_with_empty_message :
    let op (path : String) (a : Action) : Operation :=
      ⟨{ path, status := .localOnly, here := none, there := none }, a⟩
    let removed : List Outcome := [(op "a" .deleteLocal, none), (op "b" .deleteRemote, none)]
    let failed : Outcome := (op "c" .upload, some "")
    let t : Tally := { deleted := 4, errors := ["d: gone"] }
    (failed :: removed).Perm (removed ++ [failed]) ∧
      (t.recordAll (failed :: removed)).errors = (["d: gone", "c: "] : List Text) ∧
      (t.recordAll (removed ++ [failed])).count .deleted =
        (t.recordAll (failed :: removed)).count .deleted ∧
      (∀ outcome ∈ removed, outcome.2 = none) ∧
      (t.recordAll removed).count .deleted = 6 := by
  intro op removed failed t
  have hperm : (failed :: removed).Perm (removed ++ [failed]) :=
    (List.perm_append_singleton failed removed).symm
  have hnone : ∀ outcome ∈ removed, outcome.2 = none := by decide
  obtain ⟨-, herrors, -, horder, -⟩ := recordAll_accounts t (failed :: removed)
  obtain ⟨-, -, -, -, hsummary, -⟩ := recordAll_accounts t removed
  exact ⟨hperm, herrors, (horder _ hperm).1 .deleted, hnone, hsummary hnone .deleted⟩

end Reconcile
