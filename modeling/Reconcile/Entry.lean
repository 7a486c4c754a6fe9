import Reconcile.Document.Record

/-! # Entries: what an inventory knows about a file or directory -/

namespace Reconcile

/-- A file or directory as one side sees it. -/
structure Entry where
  name : Text
  path : Text
  size : Int
  modified : Option Time.Timestamp := none
  isDir : Bool := false
  checksum : Option Text := none
deriving BEq

namespace Entry

/-- Reads an entry from the fields of a table. -/
def ofFields (fields : Fields) : Except Malformed Entry := do
  let name ← (← fields.required "name").toText "name"
  let path ← (← fields.required "path").toText "path"
  let size ← (← fields.required "size").toInt "size"
  let modified ← (fields.getD "modified" .null).toTimestamp? "modified"
  let isDir ← (fields.getD "is_dir" (.bool false)).toBool "is_dir"
  let checksum ← (fields.getD "checksum" .null).toText? "checksum"
  return { name, path, size, modified, isDir, checksum }

/-- Reads an entry from a value. -/
def ofValue : Value → Except Malformed Entry
  | .table fields => ofFields fields
  | v => .error (.notTable v.kind)

/-- The value of a modification time. -/
def modifiedValue : Option Time.Timestamp → Except WriteError Value
  | none => .ok .null
  | some t =>
    match t.text? with
    | some s => .ok (.text s)
    | none => .error .dateOutOfRange

/-- An entry as a table. -/
def toValue (e : Entry) : Except WriteError Value := do
  let modified ← modifiedValue e.modified
  return .table
    [("name", .text e.name), ("path", .text e.path), ("size", .int e.size),
     ("modified", modified), ("is_dir", .bool e.isDir), ("checksum", .ofText? e.checksum)]

/-- An entry or its absence as a value. -/
def toValue? : Option Entry → Except WriteError Value
  | none => .ok .null
  | some e => e.toValue

end Entry

end Reconcile
