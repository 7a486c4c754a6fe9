import Reconcile.Toml.Scalar

/-!
# Reading TOML

A document is a row of statements: headers, which name the table or the item of
a list of tables that follows, and fields. A table may be spread over a document
only as far as the rules allow: it has at most one header, a table begun by
dotted keys gets none later, and a list or table written as a value is closed.
-/

namespace Reconcile.Toml

/-- The parts of a key. -/
abbrev Key := List String

/-- The table with `change` made to the table at `key`. Tables on the way are
made as needed; if `enterLists`, a list of tables stands for its last one. It
fails where something else is in the way. -/
def changeAt? (enterLists : Bool) (change : Fields → Option Fields) : Key → Fields → Option Fields
  | [], table => change table
  | part :: key, table =>
    match Keyed.get? table part with
    | none => do
      let inner ← changeAt? enterLists change key []
      return Keyed.put part (.table inner) table
    | some (.table inner) => do
      let inner ← changeAt? enterLists change key inner
      return Keyed.put part (.table inner) table
    | some (.list items) =>
      match enterLists, items.getLast? with
      | true, some (.table inner) => do
        let inner ← changeAt? enterLists change key inner
        return Keyed.put part (.list (items.dropLast ++ [.table inner])) table
      | _, _ => none
    | some _ => none

/-- Adds a field that is not there yet. -/
def addField? (name : String) (v : Value) (table : Fields) : Option Fields :=
  if (Keyed.get? table name).isSome then none else some (Keyed.put name v table)

/-- Adds an empty table to the list of tables under a name. -/
def addItem? (name : String) (table : Fields) : Option Fields :=
  match Keyed.get? table name with
  | none => some (Keyed.put name (.list [.table []]) table)
  | some (.list items) => some (Keyed.put name (.list (items ++ [.table []])) table)
  | some _ => none

/-- The last part of a key and the parts before it. -/
def splitKey (key : Key) : Key × String := (key.dropLast, key.getLastD "")

/-- Whether a value closes the key it stands under to later statements. -/
def isClosed : Value → Bool
  | .list _ | .table _ => true
  | _ => false

/-! ## Values -/

/-- What follows the space and the comments at the front. -/
def skipSpaceAndComments : (fuel : Nat) → List Char → Except Stop (List Char)
  | 0, s => .ok s
  | fuel + 1, s =>
    match skipSpace s with
    | '#' :: rest => do skipSpaceAndComments fuel (← skipComment ('#' :: rest))
    | rest => .ok rest

/-- `skipSpaceAndComments` with enough fuel. -/
def skipFiller (s : List Char) : Except Stop (List Char) := skipSpaceAndComments (s.length + 1) s

/-- What follows an equals sign and the blanks after it. -/
def afterEquals (s : List Char) : Except Stop (List Char) :=
  match s with
  | '=' :: rest => .ok (skipBlanks rest)
  | _ => refuse

mutual

/-- A value at the front. Every value and every part of one takes a character or
more, so that twice their number is `fuel` enough; `room` is left for lists and
tables that stand in one another. -/
def value : (fuel room : Nat) → List Char → Except Stop (Value × List Char)
  | 0, _, _ => refuse
  | fuel + 1, room, s =>
    match s with
    | [] => refuse
    | c :: rest =>
      if c = '"' ∨ c = literalMark then do
        let (t, rest) ← orRefuse (text? s)
        return (.text (String.ofList t), rest)
      else if c = '[' then do
        let room ← roomWithin room .list
        let (items, rest) ← items fuel room (← skipFiller rest)
        return (.list items, rest)
      else if c = '\x7b' then do
        let room ← roomWithin room .table
        match skipBlanks rest with
        | '\x7d' :: rest => return (.table [], rest)
        | rest =>
          let (table, rest) ← inlineFields fuel room [] [] rest
          return (.table table, rest)
      else if s.take 4 = "true".toList then .ok (.bool true, s.drop 4)
      else if s.take 5 = "false".toList then .ok (.bool false, s.drop 5)
      else unquoted s

/-- The items of a list, up to its closing bracket. -/
def items : (fuel room : Nat) → List Char → Except Stop (List Value × List Char)
  | 0, _, _ => refuse
  | fuel + 1, room, s =>
    match s with
    | ']' :: rest => .ok ([], rest)
    | _ => do
      let (v, rest) ← value fuel room s
      match ← skipFiller rest with
      | ']' :: rest => return ([v], rest)
      | ',' :: rest =>
        let (vs, rest) ← items fuel room (← skipFiller rest)
        return (v :: vs, rest)
      | _ => refuse

/-- The fields of a table written as a value, up to its closing brace, after
those already in `table`; `closed` are the keys that no more is added to. -/
def inlineFields : (fuel room : Nat) → (closed : List Key) → (table : Fields) → List Char →
    Except Stop (Fields × List Char)
  | 0, _, _, _, _ => refuse
  | fuel + 1, room, closed, table, s => do
    let (k, rest) ← key s
    let (v, rest) ← value fuel room (← afterEquals rest)
    if closed.any (·.isPrefixOf k) then refuse
    let (parent, name) := splitKey k
    let table ← orRefuse (changeAt? false (addField? name v) parent table)
    match skipBlanks rest with
    | '\x7d' :: rest => return (table, rest)
    | ',' :: rest =>
      inlineFields fuel room (if isClosed v then k :: closed else closed) table (skipBlanks rest)
    | _ => refuse

end

/-! ## Statements -/

/-- A document as far as it is read. -/
structure Document where
  table : Fields := []
  /-- The key of the last header. -/
  header : Key := []
  /-- The keys written as lists or tables; nothing is added below them. -/
  closed : List Key := []
  /-- The keys that cannot have a header any more. -/
  declared : List Key := []
  /-- The keys of tables begun by dotted keys since the last header. -/
  dotted : List Key := []

namespace Document

/-- Whether nothing may be added at `k`. -/
def isClosedAt (d : Document) (k : Key) : Bool := d.closed.any (·.isPrefixOf k)

/-- Begins the table `k`. -/
def beginTable (d : Document) (k : Key) : Except Stop Document := do
  let declared := d.dotted ++ d.declared
  if declared.contains k || d.isClosedAt k then refuse
  let table ← orRefuse (changeAt? true some k d.table)
  return { d with table := table, header := k, declared := k :: declared, dotted := [] }

/-- Begins an item of the list of tables `k`; what was said of keys below it holds
no more. -/
def beginItem (d : Document) (k : Key) : Except Stop Document := do
  if d.isClosedAt k then refuse
  let declared := (d.dotted ++ d.declared).filter (!k.isPrefixOf ·)
  let closed := d.closed.filter (!k.isPrefixOf ·)
  let (parent, name) := splitKey k
  let table ← orRefuse (changeAt? true (addItem? name) parent d.table)
  return { table, header := k, closed, declared := k :: declared, dotted := [] }

/-- Adds a field under the last header. -/
def addField (d : Document) (k : Key) (v : Value) : Except Stop Document := do
  let (parent, name) := splitKey k
  let nested := (List.range' 1 (k.length - 1)).map fun i => d.header ++ k.take i
  if nested.any d.declared.contains || d.isClosedAt (d.header ++ parent) then refuse
  let table ← orRefuse (changeAt? true (addField? name v) (d.header ++ parent) d.table)
  return { d with
    table := table
    closed := if isClosed v then (d.header ++ k) :: d.closed else d.closed
    dotted := nested ++ d.dotted }

end Document

/-- The key of a header, and what follows the brackets that close it. -/
def headerKey (closing : List Char) (s : List Char) : Except Stop (Key × List Char) := do
  let (k, rest) ← key (skipBlanks s)
  if rest.take closing.length = closing then return (k, rest.drop closing.length)
  refuse

/-- One statement, not counting the comment and the end of line after it; `room` is
left for the lists and tables in one another of its value. -/
def statement (room : Nat) (d : Document) (s : List Char) : Except Stop (Document × List Char) :=
  match s with
  | [] => .ok (d, [])
  | c :: rest =>
    if c = '\n' ∨ c = '#' then .ok (d, s)
    else if isKeyStart c then do
      let (k, rest) ← key s
      let (v, rest) ← value (2 * s.length + 2) room (← afterEquals rest)
      return (← d.addField k v, rest)
    else if c = '[' then
      match rest with
      | '[' :: rest => do
        let (k, rest) ← headerKey [']', ']'] rest
        return (← d.beginItem k, rest)
      | rest => do
        let (k, rest) ← headerKey [']'] rest
        return (← d.beginTable k, rest)
    else refuse

/-- The statements of a document. Each takes an end of line. -/
def statements (room : Nat) : (fuel : Nat) → Document → List Char → Except Stop Document
  | 0, d, _ => .ok d
  | fuel + 1, d, s => do
    let (d, rest) ← statement room d (skipBlanks s)
    match ← skipComment (skipBlanks rest) with
    | [] => return d
    | '\n' :: rest => statements room fuel d rest
    | _ => refuse

/-- The table of a whole document, where `room` is left for lists and tables in one
another. -/
def read (room : Nat) (s : List Char) : Except Stop Fields :=
  Document.table <$> statements room (s.length + 1) {} s

end Reconcile.Toml
