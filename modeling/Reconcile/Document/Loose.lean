import Reconcile.Document.Record

/-!
# Values of any kind

Where a value of any kind is taken, it may have to stand for a truth value, for a
collection, or for something to look up. Main statement: a truth value counts as
itself.
-/

namespace Reconcile

namespace Binary64

/-- Whether a number is zero, of either sign. -/
def isZero : Binary64 → Bool
  | .finite _ mantissa _ => mantissa = 0
  | _ => false

end Binary64

namespace Value

/-- Whether a value counts as true: null, zero and everything empty do not. -/
def counts : Value → Bool
  | .null => false
  | .bool b => b
  | .int n => n ≠ 0
  | .float x => !x.isZero
  | .text t => t ≠ ""
  | .list items => !items.isEmpty
  | .table fields => !fields.isEmpty
  | .moment _ _ => true

/-- The members of a collection: the items of a list, the keys of a table, the
code points of a text. -/
def members : Value → Except Malformed (List Value)
  | .list items => .ok items
  | .table fields => .ok (fields.map (.text ·.1))
  | .text t => .ok (t.points.map fun p => .text (.ofPoints [p]))
  | v => .error (.notCollection v.kind)

/-- The value as something to look up. -/
def toKey : Value → Except Malformed Value
  | .list _ => .error (.notKey .list)
  | .table _ => .error (.notKey .table)
  | v => .ok v

/-- Whether a value is null. -/
def isNull : Value → Bool
  | .null => true
  | _ => false

/-- The text of a value as messages show it, unless it is null. -/
def shown? : Value → Option Text
  | .null => none
  | v => some v.display

@[simp] theorem counts_bool (b : Bool) : (Value.bool b).counts = b := rfl

@[simp] theorem members_list (items : List Value) : (Value.list items).members = .ok items := rfl

end Value

end Reconcile
