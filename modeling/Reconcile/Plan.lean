import Reconcile.Comparison

/-! # Plans: what to do about each path, and the totals -/

namespace Reconcile

/-- A comparison and the action chosen for it. -/
structure Operation where
  comparison : Comparison
  action : Action
deriving BEq

namespace Operation

/-- The path of an operation. -/
def path (op : Operation) : Text := op.comparison.path

/-- The operation with the two sides exchanged. -/
def swap (op : Operation) : Operation := ⟨op.comparison.swap, op.action.swap⟩

/-- Reads an operation from a value. -/
def ofValue : Value → Except Malformed Operation
  | .table fields => do
    let comparison ← Comparison.ofValue (← Fields.required fields "comparison")
    let action ← (← Fields.required fields "action").toAction
    return { comparison, action }
  | v => .error (.notTable v.kind)

/-- An operation as a table. -/
def toValue (op : Operation) : Except WriteError Value := do
  return .table [("comparison", ← op.comparison.toValue), ("action", .text op.action.name)]

end Operation

/-- The recommended operations for the comparisons, in their order. -/
def plan (d : Direction) (cs : List Comparison) : List Operation :=
  cs.map fun c => ⟨c, .recommended c.status d⟩

/-- How many operations have each action. -/
structure Summary where
  upload : Nat := 0
  download : Nat := 0
  deleteLocal : Nat := 0
  deleteRemote : Nat := 0
  skip : Nat := 0
  askUser : Nat := 0
deriving DecidableEq, Inhabited

namespace Summary

/-- The summary of some operations. -/
def ofOperations (ops : List Operation) : Summary :=
  let count (a : Action) := ops.countP (·.action = a)
  { upload := count .upload
    download := count .download
    deleteLocal := count .deleteLocal
    deleteRemote := count .deleteRemote
    skip := count .skip
    askUser := count .askUser }

/-- The number of operations. -/
def total (s : Summary) : Nat :=
  s.upload + s.download + s.deleteLocal + s.deleteRemote + s.skip + s.askUser

/-- The number of operations that change a side. -/
def actionable (s : Summary) : Nat := s.upload + s.download + s.deleteLocal + s.deleteRemote

end Summary

end Reconcile
