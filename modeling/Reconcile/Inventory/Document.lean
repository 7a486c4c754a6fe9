import Reconcile.Inventory

/-!
# Inventories as document tables

An inventory is a table from relative paths to entries. The first fault in
document order is the one reported, with the path it is under.
-/

namespace Reconcile

namespace Inventory

/-- Why a value is no inventory. -/
inductive Fault
  | notTable
  | entryNotTable (path : Text)
  | entry (path : Text) (fault : Malformed)
  | negativeSize (path : Text)

/-- The wording of a fault within an entry. -/
def entryMessage : Malformed → String
  | .missingField field => s!"missing field {Text.quote field}"
  | fault => fault.message

/-- The wording of a fault. -/
def Fault.message : Fault → Text
  | .notTable => "Inventory must be a JSON object keyed by relative path"
  | .entryNotTable path => path ++ ": entry must be an object"
  | .entry path fault => path ++ s!": {entryMessage fault}"
  | .negativeSize path => path ++ ": size must not be negative"

/-- Reads the entry of a path. -/
def entryOfValue (path : Text) : Value → Except Fault Entry
  | .table fields => do
    let e ← (Entry.ofFields fields).mapError (.entry path)
    if e.size < 0 then throw (.negativeSize path)
    return e
  | _ => .error (.entryNotTable path)

/-- Reads an inventory from the fields of a table. -/
def ofFields (fields : Fields) : Except Fault Inventory := do
  let pairs ← fields.mapM fun (path, v) => do return (path, ← entryOfValue path v)
  return ofPairs pairs

/-- Reads an inventory from a value. -/
def ofValue : Value → Except Fault Inventory
  | .table fields => ofFields fields
  | _ => .error .notTable

/-- The pairs of an inventory in the order of the code points of their paths. -/
def sortedEntries (i : Inventory) : List (Text × Entry) :=
  i.entries.mergeSort fun a b => a.1 ≤ b.1

/-- An inventory as a table, in the order of the code points of its paths. -/
def toValue (i : Inventory) : Except WriteError Value := do
  return .table (← i.sortedEntries.mapM fun (path, e) => do return (path, ← e.toValue))

end Inventory

end Reconcile
