import Reconcile.Action
import Reconcile.Document.Value
import Reconcile.Time.Iso

/-!
# Records in documents

A record is read from a table field by field; the first fault found is the one
reported.
-/

namespace Reconcile

/-- The closed vocabularies of documents. -/
inductive Vocabulary
  | status
  | direction
  | action
deriving DecidableEq

/-- The name of a vocabulary in messages. -/
def Vocabulary.name : Vocabulary → String
  | .status => "SyncStatus"
  | .direction => "SyncDirection"
  | .action => "SyncAction"

/-- Why a value is no record of the kind wanted. -/
inductive Malformed
  | missingField (field : String)
  | unexpectedKind (field : String) (found : Kind)
  /-- The exclude patterns are not a list. -/
  | patternsNotListed
  /-- The value is no table, so that no field can be taken from it. -/
  | notTable (found : Kind)
  /-- The value is no table, so that no field can be looked for in it. -/
  | withoutFields (found : Kind)
  | unknownName (vocabulary : Vocabulary) (given : Value)
  /-- The value is no collection, so that its members cannot be gone through. -/
  | notCollection (found : Kind)
  /-- The value cannot be looked up, because it is a list or a table. -/
  | notKey (found : Kind)
  /-- The value is no text, so that it has no letters to take in lower case. -/
  | withoutLetters (found : Kind)
  | timestamp (error : Time.Timestamp.ReadError)
deriving Inhabited

/-- The wording of a fault. -/
def Malformed.message : Malformed → String
  | .missingField field => Text.quote field
  | .unexpectedKind field found => s!"{field} has unexpected type {found.name}"
  | .patternsNotListed => "exclude_patterns must be a list of strings"
  | .notTable .list => "list indices must be integers or slices, not str"
  | .notTable .text => "string indices must be integers, not 'str'"
  | .notTable found => s!"'{found.name}' object is not subscriptable"
  | .withoutFields found => s!"'{found.name}' object has no attribute 'get'"
  | .unknownName vocabulary given => s!"{given.literal} is not a valid {vocabulary.name}"
  | .notCollection found => s!"'{found.name}' object is not iterable"
  | .notKey found => s!"unhashable type: '{found.name}'"
  | .withoutLetters found => s!"'{found.name}' object has no attribute 'lower'"
  | .timestamp error => error.message

namespace Fields

/-- The value of a field that must be there. -/
def required (fields : Fields) (name : String) : Except Malformed Value :=
  match Keyed.get? fields name with
  | some v => .ok v
  | none => .error (.missingField name)

/-- The value of a field, or `default` if the field is not there. -/
def getD (fields : Fields) (name : String) (default : Value) : Value :=
  (Keyed.get? fields name).getD default

end Fields

namespace Value

/-- The text that the field `name` must hold. -/
def toText (name : String) : Value → Except Malformed Text
  | .text t => .ok t
  | v => .error (.unexpectedKind name v.kind)

/-- The whole number that the field `name` must hold. -/
def toInt (name : String) : Value → Except Malformed Int
  | .int n => .ok n
  | v => .error (.unexpectedKind name v.kind)

/-- The truth value that the field `name` must hold. -/
def toBool (name : String) : Value → Except Malformed Bool
  | .bool b => .ok b
  | v => .error (.unexpectedKind name v.kind)

/-- The text that the field `name` may hold. -/
def toText? (name : String) : Value → Except Malformed (Option Text)
  | .null => .ok none
  | .text t => .ok (some t)
  | v => .error (.unexpectedKind name v.kind)

/-- The time stamp that the field `name` may hold. -/
def toTimestamp? (name : String) : Value → Except Malformed (Option Time.Timestamp)
  | .null => .ok none
  | .text t => (Time.Timestamp.read t).map some |>.mapError .timestamp
  | v => .error (.unexpectedKind name v.kind)

/-- The word of a vocabulary that a value names. -/
def toWord {α : Type} (vocabulary : Vocabulary) (ofName? : Text → Option α) (v : Value) :
    Except Malformed α :=
  let found := match v with
    | .text t => ofName? t
    | _ => none
  match found with
  | some word => .ok word
  | none => .error (.unknownName vocabulary v)

/-- The status that a value names. -/
def toStatus : Value → Except Malformed Status := toWord .status Status.ofName?

/-- The direction that a value names. -/
def toDirection : Value → Except Malformed Direction := toWord .direction Direction.ofName?

/-- The action that a value names. -/
def toAction : Value → Except Malformed Action := toWord .action Action.ofName?

end Value

/-- Why a record cannot be written to a document. -/
inductive WriteError
  /-- A time stamp is outside the calendar when expressed in UTC. -/
  | dateOutOfRange
  /-- A whole number is too long. -/
  | longInteger
deriving DecidableEq

/-- The wording of a writing error. -/
def WriteError.message : WriteError → String
  | .dateOutOfRange => "date value out of range"
  | .longInteger => unwritableIntegerMessage

end Reconcile
