import Reconcile.Options.Document
import Reconcile.Runtime
import Reconcile.Storage
import Reconcile.Toml.Reader

/-!
# Option files

Options stand in the table `compare` of a TOML file. The table is validated
before it is read: it may hold nothing but options, each of its own type.
-/

namespace Reconcile.Options

/-- The name of the table that holds the options. -/
def tableName : String := "compare"

/-- What is wrong with a table of options. -/
inductive TableFault
  | unknownOptions (names : List Text)
  | notBoolean (name : String)
  | patternsNotTexts
  | direction
deriving DecidableEq

/-- The wording of a fault. -/
def TableFault.message : TableFault → Text
  | .unknownOptions names => "unknown option(s): " ++ Text.intercalate ", " names
  | .notBoolean name => s!"{name} must be a boolean"
  | .patternsNotTexts => "exclude_patterns must be a list of strings"
  | .direction =>
    "direction must be one of " ++ ", ".intercalate (Direction.all.map Direction.name)

/-- The options that are true or false, in the order in which they are checked. -/
def booleanNames : List String := ["compare_timestamp", "compare_size", "compare_checksum"]

/-- Whether a value is true or false. -/
def isBoolean : Value → Bool
  | .bool _ => true
  | _ => false

/-- Whether a value is a text. -/
def isText : Value → Bool
  | .text _ => true
  | _ => false

/-- Whether a value is a list of texts. -/
def isTextList : Value → Bool
  | .list items => items.all isText
  | _ => false

/-- Whether a value names a direction. -/
def isDirection : Value → Bool
  | .text t => (Direction.ofName? t).isSome
  | _ => false

/-- The names in a table that are no options, in the order of their code points. -/
def unknownNames (fields : Fields) : List Text :=
  ((Keyed.keys fields).filter (· ∉ fieldNames)).mergeSort fun a b => a ≤ b

/-- Whether a field is absent or passes a test. -/
def passes (fields : Fields) (test : Value → Bool) (name : String) : Bool :=
  (Keyed.get? fields name).all test

/-- Checks a table of options. -/
def validate (fields : Fields) : Except TableFault Unit :=
  let unknown := unknownNames fields
  if !unknown.isEmpty then .error (.unknownOptions unknown)
  else match booleanNames.find? (!passes fields isBoolean ·) with
    | some name => .error (.notBoolean name)
    | none =>
      if !passes fields isTextList "exclude_patterns" then .error .patternsNotTexts
      else if !passes fields isDirection "direction" then .error .direction
      else .ok ()

/-- Why an option file cannot be loaded. -/
inductive LoadError
  | unreadable (path : String) (failure : ReadFailure)
  | notToml (path reason : String)
  | notTable (path : String)
  | table (path : String) (fault : TableFault)
  /-- A whole number is too long, which stops the reader itself. -/
  | longInteger (digits : Nat)
  /-- Values are nested too deep, which stops the reader itself. -/
  | tooDeep
  | homeless
  /-- The path of the file that holds for every run is too long to look for it. -/
  | tooLong (path : String)
  /-- A table that was found valid cannot be read. -/
  | malformed (fault : Malformed)

namespace LoadError

/-- The wording of a loading error. -/
def message : LoadError → Text
  | .unreadable path failure => s!"Cannot read config {path}: {failure.message path}"
  | .notToml path reason => s!"Invalid TOML in {path}: {reason}"
  | .notTable path => s!"{path}: [{tableName}] must be a table"
  | .table path fault => s!"{path}: " ++ fault.message
  | .longInteger digits => longIntegerMessage digits
  | .tooDeep => Nest.tooDeepMessage
  | .homeless => homelessMessage
  | .tooLong path => ReadFailure.tooLong.message path
  | .malformed fault => fault.message

/-- Whether the error is reported as one of the configuration. -/
def isReported : LoadError → Bool
  | .longInteger _ | .tooDeep | .homeless | .tooLong _ | .malformed _ => false
  | _ => true

/-- The loading error of a TOML reading error, where `reason` is what the reader says of
a document that breaks a rule. -/
def ofToml (path reason : String) : Toml.Stop → LoadError
  | .malformed => .notToml path reason
  | .longInteger digits => .longInteger digits
  | .tooDeep => .tooDeep

end LoadError

/-- Loads the options in a file, where `path` is for messages. A file without the
table gives the defaults. -/
def load (runtime : Runtime) (path : String) (state : FileState) : Except LoadError Options := do
  let text ← state.readText.mapError (.unreadable path)
  let document ← (Toml.read runtime.tomlRoom text).mapError
    (.ofToml path (runtime.tomlRefusal text))
  match Fields.getD document tableName (.table []) with
  | .table fields =>
    (validate fields).mapError (.table path)
    (ofFields fields).mapError .malformed
  | _ => throw (.notTable path)

end Reconcile.Options
