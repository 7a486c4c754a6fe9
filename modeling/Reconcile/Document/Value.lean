import Reconcile.Binary64.Shortest
import Reconcile.Keyed
import Reconcile.Text.Quoted

/-!
# Document values

What a JSON or TOML document holds. A table keeps its keys in the order of the
document. Only JSON has the null value and only TOML has dates and times, which
are kept as they are written because nothing reads them further.
-/

namespace Reconcile

/-- The kind of a date or time. -/
inductive MomentKind
  | date
  | time
  | dateTime
deriving DecidableEq, Inhabited

/-- A value of a document. -/
inductive Value
  | null
  | bool (b : Bool)
  | int (n : Int)
  | float (x : Binary64)
  | text (t : Text)
  | list (items : List Value)
  | table (fields : List (Text × Value))
  | moment (kind : MomentKind) (written : String)
deriving Inhabited

/-- The fields of a table in document order. -/
abbrev Fields := List (Text × Value)

/-- The kind of a value. -/
inductive Kind
  | null
  | bool
  | int
  | float
  | text
  | list
  | table
  | moment (kind : MomentKind)
deriving DecidableEq, Inhabited

/-- The name of a kind in messages. -/
def Kind.name : Kind → String
  | .null => "NoneType"
  | .bool => "bool"
  | .int => "int"
  | .float => "float"
  | .text => "str"
  | .list => "list"
  | .table => "dict"
  | .moment .date => "date"
  | .moment .time => "time"
  | .moment .dateTime => "datetime"

namespace Value

/-- The kind of a value. -/
def kind : Value → Kind
  | .null => .null
  | .bool _ => .bool
  | .int _ => .int
  | .float _ => .float
  | .text _ => .text
  | .list _ => .list
  | .table _ => .table
  | .moment k _ => .moment k

/-- A text as a value, or null. -/
def ofText? : Option Text → Value
  | some t => .text t
  | none => .null

/-- Strings one after the other, with a comma and a blank between them. -/
def commaSeparated (items : List String) : String := ", ".intercalate items

mutual

/-- The value as messages show it. -/
def literal : Value → String
  | .null => "None"
  | .bool b => if b then "True" else "False"
  | .int n => toString n
  | .float x => String.ofList x.text
  | .text t => t.quote
  | .list items => "[" ++ commaSeparated (literals items) ++ "]"
  | .table fields => "\x7b" ++ commaSeparated (fieldLiterals fields) ++ "\x7d"
  | .moment _ written => written

/-- The values of a list as messages show them. -/
def literals : List Value → List String
  | [] => []
  | v :: rest => literal v :: literals rest

/-- The fields of a table as messages show them. -/
def fieldLiterals : Fields → List String
  | [] => []
  | (k, v) :: rest => (k.quote ++ ": " ++ literal v) :: fieldLiterals rest

end

/-- The value as a text of its own: a text as it is, other values as messages
show them. -/
def display : Value → Text
  | .text t => t
  | v => v.literal

end Value

end Reconcile
