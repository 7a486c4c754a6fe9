/-!
# Nesting: how deep a document may go

A reader that meets lists and tables in one another beyond its limit stops there,
whatever follows. The limit is not the document's: it depends on what runs the reader.
-/

namespace Reconcile

/-- What holds other values: a list or a table. -/
inductive Nest
  | list
  | table
deriving DecidableEq, Inhabited

namespace Nest

/-- The room that one of them takes in a TOML document. -/
def tomlSize : Nest → Nat
  | .list => 2
  | .table => 3

/-- The wording for a document that goes too deep. -/
def tooDeepMessage : String := "maximum recursion depth exceeded"

/-- The wording for a JSON text that goes too deep. -/
def tooDeepInJson : Nest → String
  | .list => tooDeepMessage ++ " while decoding a JSON array from a unicode string"
  | .table => tooDeepMessage ++ " while decoding a JSON object from a unicode string"

end Nest

end Reconcile
