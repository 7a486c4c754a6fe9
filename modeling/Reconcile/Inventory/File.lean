import Reconcile.Inventory.Document
import Reconcile.Json.Reader
import Reconcile.Json.Writer
import Reconcile.Runtime
import Reconcile.Storage

/-! # Inventory files -/

namespace Reconcile.Inventory

/-- Why an inventory file cannot be loaded. -/
inductive LoadError
  | unreadable (path : String) (failure : ReadFailure)
  | notJson (path : String) (fault : Json.Fault)
  | malformed (fault : Fault)
  /-- The reader itself is stopped, by a whole number that is too long or by
  values nested too deep. -/
  | stopped (error : Json.ReadError)
  | homeless

namespace LoadError

/-- The wording of a loading error. -/
def message : LoadError → Text
  | .unreadable path failure => s!"Cannot read inventory {path}: {failure.message path}"
  | .notJson path fault => s!"Invalid JSON in {path}: {fault.message}"
  | .malformed fault => fault.message
  | .stopped error => error.message
  | .homeless => homelessMessage

/-- Whether the error is reported as one of the inventory. -/
def isReported : LoadError → Bool
  | .stopped _ | .homeless => false
  | _ => true

end LoadError

/-- The loading error of a JSON reading error. -/
def LoadError.ofJson (path : String) : Json.ReadError → LoadError
  | .malformed fault => .notJson path fault
  | error => .stopped error

/-- Loads the inventory in a file, where `path` is for messages. -/
def load (runtime : Runtime) (path : String) (state : FileState) :
    Except LoadError Inventory := do
  let text ← state.readText.mapError (.unreadable path)
  let v ← (Json.read runtime.jsonDepth text).mapError (.ofJson path)
  (ofValue v).mapError .malformed

/-- The text of the file of an inventory. -/
def dump (i : Inventory) : Except WriteError String := do
  match Json.write? (← i.toValue) with
  | some text => return String.ofList (text ++ ['\n'])
  | none => throw .longInteger

end Reconcile.Inventory
