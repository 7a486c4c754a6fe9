import Reconcile.Command.Arguments
import Reconcile.Comparison.Merge
import Reconcile.Comparison.Selection
import Reconcile.Host
import Reconcile.Inventory.File
import Reconcile.Options.File
import Reconcile.Plan

/-!
# The command line program

The program reads its options, then the local and the remote inventory, and
prints the plan for them as a table or as JSON. What it prints outside JSON goes
through the console's markup.
-/

namespace Reconcile.Command

/-- What stops the program short of its end. -/
inductive Fault
  /-- A time stamp is outside the calendar when expressed in UTC. -/
  | dateOutOfRange
  /-- A whole number is too long. -/
  | longInteger
  /-- Values in a document are nested too deep. -/
  | tooDeep
  /-- A user has no home directory. -/
  | homeless
  /-- A path is too long. -/
  | tooLong (path : String)
  /-- A text for the console has wrong markup. -/
  | markup (fault : Console.MarkupFault)
  /-- A table of options that was found valid cannot be read. -/
  | malformed (fault : Malformed)

/-- The wording of a fault. -/
def Fault.message : Fault → String
  | .dateOutOfRange => WriteError.dateOutOfRange.message
  | .longInteger => WriteError.longInteger.message
  | .tooDeep => Nest.tooDeepMessage
  | .homeless => homelessMessage
  | .tooLong path => ReadFailure.tooLong.message path
  | .markup fault => fault.message
  | .malformed fault => fault.message

/-- How the program ends. -/
structure Outcome where
  exitCode : Nat
  stdout : String
  stderr : String := ""
  fault : Option Fault := none

/-- The program ends by itself. -/
def finish (exitCode : Nat) (stdout : String) : Outcome := { exitCode, stdout }

/-- The program is stopped by a fault after it printed `stdout`. -/
def stopped (stdout : String) (fault : Fault) : Outcome :=
  { exitCode := 1, stdout, stderr := fault.message ++ "\n", fault := some fault }

/-- Lines with an end of line each. -/
def unlines (lines : List String) : String := String.join (lines.map (· ++ "\n"))

/-! ## Options -/

/-- Where the options are kept that hold for every run. -/
def homeConfig : Location := ⟨"", ["~", ".config", "treesync", "config.toml"]⟩

/-- Loads the options at a location. -/
def loadOptions (host : Host) (location : Location) : Except Options.LoadError Options :=
  match location.expandHome? host.homes with
  | none => .error .homeless
  | some location => Options.load host.runtime location.path (host.state location)

/-- Whether there are options that hold for every run. Only a path that is too long keeps
the program from looking for them, once it is known. -/
def hasHomeConfig (host : Host) : Except Options.LoadError Bool :=
  match homeConfig.expandHome? host.homes with
  | none => .error .homeless
  | some location =>
    match host.state location with
    | .tooLong => .error (.tooLong location.path)
    | state => .ok state.isFile

/-- The options before those of the command line: from the file asked for, else
from the one in the home directory if there is one, else the defaults. -/
def sourceOptions (host : Host) (config : Option String) : Except Options.LoadError Options :=
  match config with
  | some path => loadOptions host (.ofPath path)
  | none => do if ← hasHomeConfig host then loadOptions host homeConfig else return {}

/-- The options with those of the command line put in. Patterns are added to the
ones that are there. -/
def PlanRequest.apply (p : PlanRequest) (o : Options) : Options :=
  { o with
    direction := p.direction.getD o.direction
    excludePatterns := o.excludePatterns ++ p.exclude.map .ofString
    compareSize := p.compareSize.getD o.compareSize
    compareTimestamp := p.compareTimestamp.getD o.compareTimestamp }

/-- The options that are in effect. -/
def effectiveOptions (host : Host) (p : PlanRequest) : Except Options.LoadError Options :=
  p.apply <$> sourceOptions host p.config

/-! ## Inventories and the plan -/

/-- Loads the inventory at a path. -/
def loadInventory (host : Host) (path : String) : Except Inventory.LoadError Inventory :=
  match (Location.ofPath path).expandHome? host.homes with
  | none => .error .homeless
  | some location => Inventory.load host.runtime location.path (host.state location)

/-- Loads both inventories; of two errors, the local one is reported. -/
def loadBoth (host : Host) (p : PlanRequest) :
    Except Inventory.LoadError (Inventory × Inventory) := do
  let here ← loadInventory host p.here
  let there ← loadInventory host p.there
  return (here, there)

/-- The operations that are shown. -/
def operations (o : Options) (onlyDirection : Bool) (here there : Inventory) : List Operation :=
  let cs := here.compare o there
  plan o.direction (if onlyDirection then flowing o.direction cs else cs)

/-! ## Output -/

/-- The plan as JSON. -/
def planJson (o : Options) (ops : List Operation) : Except Fault String := do
  let written ← (ops.mapM Operation.toValue).mapError fun
    | .dateOutOfRange => Fault.dateOutOfRange
    | .longInteger => Fault.longInteger
  let payload := Value.table [("options", o.toValue), ("operations", .list written)]
  match Json.write? payload with
  | some text => return String.ofList text
  | none => throw .longInteger

/-- The size of an entry in the table. -/
def sizeText : Option Entry → String
  | none => "-"
  | some e => if e.isDir then "dir" else toString e.size

/-- The path of a comparison in the table: that of a directory ends with a slash. -/
def pathText (c : Comparison) : Text := if c.isDir then c.path ++ "/" else c.path

/-- The columns of the table. -/
def planColumns : List Console.Column :=
  [{ header := "Path" }, { header := "Status" }, { header := "Action" },
   { header := "Local", justify := .right }, { header := "Remote", justify := .right }]

/-- The colour of a status in the table. -/
def statusColor : Status → String
  | .identical | .localOnly => "green"
  | .localNewer => "blue"
  | .remoteNewer | .remoteOnly => "yellow"
  | .conflict | .sizeMismatch => "red"

/-- A text between the tags of a colour. -/
def colored (color text : String) : String := s!"[{color}]{text}[/{color}]"

/-- The row of an operation, with markup. The path is taken as it stands. -/
def planRow (op : Operation) : List Text :=
  [pathText op.comparison, colored (statusColor op.comparison.status) op.comparison.status.name,
    op.action.name, sizeText op.comparison.here, sizeText op.comparison.there]

/-- The lines before the table. -/
def headLines (o : Options) (here there : Inventory) : List String :=
  [s!"Local entries: {here.size}", s!"Remote entries: {there.size}",
   s!"Direction: {o.direction.name}"]

/-- The line after the table. -/
def summaryLine (s : Summary) : String :=
  s!"Upload: {s.upload}  Download: {s.download}  Delete local: {s.deleteLocal}  " ++
    s!"Delete remote: {s.deleteRemote}  Skip: {s.skip}  Ask: {s.askUser}"

/-- What a console makes of a text or a table: its lines, or the fault of its markup. -/
abbrev Print := Except Console.MarkupFault (List String)

/-- Ends with `exitCode` after some prints, or is stopped by the first that has a fault.
The lines `printed` are there already. -/
def printAfter (printed : List String) (exitCode : Nat) : List Print → Outcome
  | [] => finish exitCode (unlines printed)
  | .ok lines :: prints => printAfter (printed ++ lines) exitCode prints
  | .error fault :: _ => stopped (unlines printed) (.markup fault)

/-- The print of the table, or of what stands in its place. -/
def planPrint (console : Console) (ops : List Operation) : Print :=
  if ops.isEmpty then console.print (colored "green" "Nothing to do.")
  else console.printTable planColumns (ops.map planRow)

/-- Prints the plan as a table. -/
def printTable (console : Console) (o : Options) (here there : Inventory) (ops : List Operation) :
    Outcome :=
  printAfter [] 0 ((headLines o here there).map (console.print <| .ofString ·) ++
    [planPrint console ops, console.print (summaryLine (.ofOperations ops))])

/-- Prints the plan as JSON. -/
def printJson (o : Options) (ops : List Operation) : Outcome :=
  match planJson o ops with
  | .error fault => stopped "" fault
  | .ok text => finish 0 (unlines [text])

/-- Prints an error message, as it stands, and ends with exit code 1. -/
def printError (console : Console) (heading : String) (message : Text) : Outcome :=
  printAfter [] 1 [console.print ((colored "red" (heading ++ ":") ++ " " : String) ++ message)]

/-- What comes of options that cannot be loaded. -/
def failOptions (console : Console) (e : Options.LoadError) : Outcome :=
  match e with
  | .longInteger _ => stopped "" .longInteger
  | .tooDeep => stopped "" .tooDeep
  | .homeless => stopped "" .homeless
  | .tooLong path => stopped "" (.tooLong path)
  | .malformed fault => stopped "" (.malformed fault)
  | e => printError console "Invalid config" e.message

/-- What comes of an inventory that cannot be loaded. -/
def failInventory (console : Console) (e : Inventory.LoadError) : Outcome :=
  match e with
  | .stopped (.longInteger _) => stopped "" .longInteger
  | .stopped (.tooDeep _) => stopped "" .tooDeep
  | .homeless => stopped "" .homeless
  | e => printError console "Invalid inventory" e.message

/-! ## Commands -/

/-- The command `plan`. -/
def runPlan (host : Host) (p : PlanRequest) : Outcome :=
  match effectiveOptions host p with
  | .error e => failOptions host.console e
  | .ok o =>
    match loadBoth host p with
    | .error e => failInventory host.console e
    | .ok (here, there) =>
      let ops := operations o p.onlyDirection here there
      if p.json then printJson o ops else printTable host.console o here there ops

/-- The command `defaults`. -/
def runDefaults : Outcome :=
  finish 0 (unlines [String.ofList (Json.written 0 (Options.toValue {}))])

/-- How the program is called. -/
def usage : String :=
  unlines
    ["Usage: plan [OPTIONS] LOCAL REMOTE", "       defaults", "",
     "Options of plan: " ++ " ".intercalate (planOptions.map Prod.fst)]

/-- Carries out a request. -/
def runRequest (host : Host) : Request → Outcome
  | .help => finish 0 usage
  | .defaults => runDefaults
  | .plan p => runPlan host p

/-- Runs the program. A command line that is wrong ends with exit code 2. -/
def run (host : Host) (arguments : List String) : Outcome :=
  match readArguments arguments with
  | .error e => { exitCode := 2, stdout := "", stderr := e.message ++ "\n" }
  | .ok request => runRequest host request

/-- The locations that a request makes the program look at. -/
def Request.locations (homes : Location.Homes) : Request → List Location
  | .plan p =>
    let config := (p.config.map Location.ofPath).getD homeConfig
    [config, .ofPath p.here, .ofPath p.there].filterMap (·.expandHome? homes)
  | _ => []

end Reconcile.Command
