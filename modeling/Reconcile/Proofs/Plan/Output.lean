import Reconcile.Command
import Reconcile.Proofs.Comparison.Merge
import Reconcile.Proofs.Inventory.File
import Reconcile.Proofs.Plan

/-!
# When a plan has a JSON text

The text of a plan is that of its document (`Command.planJson_eq_ok_iff`). It holds the
entries of both sides of every operation, and no other times and whole numbers. So there
is one exactly when all these entries can be written. Main statement:
`Command.exists_planJson_iff`.
-/

namespace Reconcile

open Json (isWritable)

/-- Something has a value, and the value has a text. -/
def CanWrite (written : Except WriteError Value) : Prop :=
  ∃ v, written = .ok v ∧ isWritable v = true

theorem canWrite_ok_iff {v : Value} : CanWrite (.ok v) ↔ isWritable v = true := by
  simp [CanWrite]

theorem not_canWrite_error {fault : WriteError} : ¬CanWrite (.error fault) := by
  simp [CanWrite]

namespace Entry

theorem canWrite_toValue_iff {e : Entry} : CanWrite e.toValue ↔ e.IsWritable := by
  rw [isWritable_iff, ← exists_toValue_iff]
  constructor
  · rintro ⟨v, hv, hwritable⟩
    exact ⟨⟨v, hv⟩, (isWritable_toValue hv).1 hwritable⟩
  · rintro ⟨⟨v, hv⟩, hshort⟩
    exact ⟨v, hv, (isWritable_toValue hv).2 hshort⟩

theorem canWrite_toValue?_iff {e? : Option Entry} :
    CanWrite (toValue? e?) ↔ ∀ e ∈ e?, e.IsWritable := by
  cases e? with
  | none => simp [toValue?, canWrite_ok_iff, isWritable]
  | some e => simp [toValue?, canWrite_toValue_iff]

end Entry

/-! ## Comparisons and operations -/

/-- The entries of a comparison, of both sides. -/
def Comparison.entries (c : Comparison) : List Entry := c.here.toList ++ c.there.toList

theorem Comparison.canWrite_toValue_iff {c : Comparison} :
    CanWrite c.toValue ↔ ∀ e ∈ c.entries, e.IsWritable := by
  have hsides : CanWrite c.toValue ↔
      CanWrite (Entry.toValue? c.here) ∧ CanWrite (Entry.toValue? c.there) := by
    rw [toValue]
    cases Entry.toValue? c.here with
    | error fault => simp [bind, Except.bind, not_canWrite_error]
    | ok here =>
      cases Entry.toValue? c.there with
      | error fault => simp [bind, Except.bind, not_canWrite_error]
      | ok there =>
        simp [bind, Except.bind, pure, Except.pure, canWrite_ok_iff, isWritable,
          Json.areWritableFields]
  rw [hsides, Entry.canWrite_toValue?_iff, Entry.canWrite_toValue?_iff, entries]
  simp only [List.mem_append, Option.mem_toList, Option.mem_def, or_imp, forall_and]

theorem Operation.canWrite_toValue_iff {op : Operation} :
    CanWrite op.toValue ↔ ∀ e ∈ op.comparison.entries, e.IsWritable := by
  rw [← Comparison.canWrite_toValue_iff, toValue]
  cases op.comparison.toValue with
  | error fault => simp [bind, Except.bind, not_canWrite_error]
  | ok v =>
    simp [bind, Except.bind, pure, Except.pure, canWrite_ok_iff, isWritable,
      Json.areWritableFields]

/-! ## Plans -/

theorem Options.isWritable_toValue (o : Options) : isWritable o.toValue = true := by
  have hpatterns : Json.areWritable (o.excludePatterns.map .text) = true := by
    simp [Json.areWritable_iff, isWritable]
  simp [toValue, isWritable, Json.areWritableFields, hpatterns]

namespace Command

variable {o : Options} {ops : List Operation}

/-- The fields of the document of a plan, where `items` are the tables of its operations. -/
def planFields (o : Options) (items : List Value) : Fields :=
  [("options", o.toValue), ("operations", .list items)]

theorem planJson_eq_ok_iff {text : String} :
    planJson o ops = .ok text ↔ ∃ items, List.Forall₂ (fun op v => op.toValue = .ok v) ops items ∧
      isWritable (.table (planFields o items)) = true ∧
      text = String.ofList (Json.written 0 (.table (planFields o items))) := by
  simp only [planJson, Sequence.bind_eq_ok_iff, Sequence.mapError_eq_ok_iff,
    Sequence.mapM_eq_ok_iff, Json.write?, planFields]
  refine exists_congr fun items => and_congr_right fun _ => ?_
  generalize Value.table [("options", o.toValue), ("operations", .list items)] = v
  by_cases h : isWritable v = true
  · simp [h, pure, Except.pure, eq_comm (a := text)]
  · simp [h, throw, throwThe, MonadExceptOf.throw]

theorem isWritable_planFields {items : List Value} :
    isWritable (.table (planFields o items)) = true ↔ ∀ v ∈ items, isWritable v = true := by
  rw [← Json.areWritable_iff]
  simp [planFields, isWritable, Json.areWritableFields, Options.isWritable_toValue]

/-- **A plan has a JSON text exactly when each entry in it can be written.** -/
theorem exists_planJson_iff :
    (∃ text, planJson o ops = .ok text) ↔
      ∀ op ∈ ops, ∀ e ∈ op.comparison.entries, e.IsWritable := by
  simp only [← Operation.canWrite_toValue_iff, planJson_eq_ok_iff, isWritable_planFields]
  constructor
  · rintro ⟨_, items, hitems, hwritable, -⟩ op hop
    obtain ⟨v, hv, hvalue⟩ := Sequence.exists_of_mem_left hitems hop
    exact ⟨v, hvalue, hwritable v hv⟩
  · intro h
    obtain ⟨items, hitems⟩ := Sequence.exists_forall₂_iff.2 h
    refine ⟨_, items, hitems.imp fun _ _ h => h.1, ?_, rfl⟩
    intro v hv
    obtain ⟨op, -, -, hwritable⟩ := Sequence.exists_of_mem_right hitems hv
    exact hwritable

/-- The entries of a plan are those of the inventories. -/
theorem exists_get?_of_mem_operations {o : Options} {onlyDirection : Bool}
    {here there : Inventory} {op : Operation} (h : op ∈ operations o onlyDirection here there)
    {e : Entry} (he : e ∈ op.comparison.entries) :
    ∃ path, here.get? path = some e ∨ there.get? path = some e := by
  have hop : op.comparison ∈ here.compare o there := by
    have hmem := (mem_plan.1 h).1
    cases onlyDirection with
    | false => exact hmem
    | true => exact (List.mem_filter.1 hmem).1
  have hc := (mem_compare.1 hop).2.2.2
  refine ⟨op.comparison.path, ?_⟩
  rw [Comparison.entries, List.mem_append, hc] at he
  exact he.imp Option.mem_toList.1 Option.mem_toList.1

end Command

end Reconcile
