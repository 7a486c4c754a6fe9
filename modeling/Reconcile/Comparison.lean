import Reconcile.Entry

/-! # Comparisons: the two sides of a path set side by side -/

namespace Reconcile

/-- A path with its entries on the two sides and how they compare. -/
structure Comparison where
  path : Text
  status : Status
  here : Option Entry
  there : Option Entry
  isDir : Bool := false
deriving BEq

namespace Comparison

/-- Whether both sides have the path. -/
def onBothSides (c : Comparison) : Bool := c.here.isSome && c.there.isSome

/-- The comparison with the two sides exchanged. -/
def swap (c : Comparison) : Comparison :=
  { c with status := c.status.swap, here := c.there, there := c.here }

@[simp] theorem swap_swap (c : Comparison) : c.swap.swap = c := by simp [swap]

/-- Reads the entry of a side, which may be absent. -/
def entryOfValue : Value → Except Malformed (Option Entry)
  | .null => .ok none
  | v => some <$> Entry.ofValue v

/-- Reads a comparison from the fields of a table. A path that is no text is
taken as messages show it. -/
def ofFields (fields : Fields) : Except Malformed Comparison := do
  let path := (← fields.required "relative_path").display
  let status ← (← fields.required "status").toStatus
  let here ← entryOfValue (fields.getD "local_info" .null)
  let there ← entryOfValue (fields.getD "remote_info" .null)
  let isDir ← (fields.getD "is_dir" (.bool false)).toBool "is_dir"
  return { path, status, here, there, isDir }

/-- Reads a comparison from a value. -/
def ofValue : Value → Except Malformed Comparison
  | .table fields => ofFields fields
  | v => .error (.withoutFields v.kind)

/-- A comparison as a table. -/
def toValue (c : Comparison) : Except WriteError Value := do
  let here ← Entry.toValue? c.here
  let there ← Entry.toValue? c.there
  return .table
    [("relative_path", .text c.path), ("status", .text c.status.name), ("local_info", here),
     ("remote_info", there), ("is_dir", .bool c.isDir)]

end Comparison

end Reconcile
