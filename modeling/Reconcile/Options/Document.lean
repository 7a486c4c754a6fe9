import Reconcile.Document.Record
import Reconcile.Options

/-! # Options as document tables -/

namespace Reconcile.Options

/-- The names of the options, in document order. -/
def fieldNames : List Text :=
  ["compare_timestamp", "compare_size", "compare_checksum", "exclude_patterns", "direction"]

/-- The texts of a list of patterns. -/
def patternsOfItems (items : List Value) : Except Malformed (List Text) :=
  items.mapM (Value.toText "exclude_patterns entry")

/-- Reads options from the fields of a table. An option that is not set keeps its
default; other fields are passed over. -/
def ofFields (fields : Fields) : Except Malformed Options := do
  let default : Options := {}
  let patterns := fields.getD "exclude_patterns" (.list (default.excludePatterns.map .text))
  let .list items := patterns | throw .patternsNotListed
  let flag (name : String) (default : Bool) : Except Malformed Bool :=
    (fields.getD name (.bool default)).toBool name
  let compareTimestamp ← flag "compare_timestamp" default.compareTimestamp
  let compareSize ← flag "compare_size" default.compareSize
  let compareChecksum ← flag "compare_checksum" default.compareChecksum
  let excludePatterns ← patternsOfItems items
  let direction ← (fields.getD "direction" (.text default.direction.name)).toDirection
  return { compareTimestamp, compareSize, compareChecksum, excludePatterns, direction }

/-- Reads options from a value. -/
def ofValue : Value → Except Malformed Options
  | .table fields => ofFields fields
  | v => .error (.withoutFields v.kind)

/-- Options as a table. -/
def toValue (o : Options) : Value :=
  .table
    [("compare_timestamp", .bool o.compareTimestamp), ("compare_size", .bool o.compareSize),
     ("compare_checksum", .bool o.compareChecksum),
     ("exclude_patterns", .list (o.excludePatterns.map .text)),
     ("direction", .text o.direction.name)]

end Reconcile.Options
