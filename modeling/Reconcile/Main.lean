import Reconcile.Command
import Reconcile.Console.Terminal

/-!
# The program

Reads the files that the command line asks for, runs the command on them, and
prints what comes of it.
-/

namespace Reconcile.Main

/-- The error number of a directory where a file is wanted. -/
def directoryCode : UInt32 := 21

/-- The error number of a path with too many bytes. -/
def tooLongCode : UInt32 := 36

/-- What stands at a path of the file system. -/
def stateOfPath (path : String) : IO FileState := do
  try
    return .file (← IO.FS.readBinFile path).toList
  catch
    | .inappropriateType _ code _ =>
      return if code = directoryCode then .directory else .belowFile
    | .invalidArgument _ code _ => return if code = tooLongCode then .tooLong else .absent
    | _ => return .absent

/-- Where the accounts of all users are kept: a line each, with colons between its
parts, the first of which is the name and the sixth the home directory. -/
def accountsPath : String := "/etc/passwd"

/-- The home directory of a line of an account. -/
def homeOfAccount? (line : String) : Option (String × Location) :=
  match line.splitOn ":" with
  | name :: _ :: _ :: _ :: _ :: home :: _ => some (name, .ofPath home)
  | _ => none

/-- The home directories of all users. -/
def readHomes : IO Location.Homes := do
  let own := Location.ofPath ((← IO.getEnv "HOME").getD "/")
  let accounts ← try IO.FS.readFile accountsPath catch _ => pure ""
  let homes := (accounts.splitOn "\n").filterMap homeOfAccount?
  return fun user => if user = "" then some own else homes.lookup user

/-- The storage as the locations are found in the file system. -/
def storageOf (homes : Location.Homes) (locations : List Location) : IO Storage := do
  let found ← locations.mapM fun l => do return (l, ← stateOfPath l.path)
  return ⟨homes, fun l => (found.lookup l).getD .absent⟩

/-- The number of columns of a terminal that says nothing of them. -/
def usualColumns : Nat := 80

/-- The terminal that the program prints on. -/
def readTerminal : IO Console := do
  let columns := (← IO.getEnv "COLUMNS").bind String.toNat?
  return Console.terminal (columns.getD usualColumns)

end Reconcile.Main

/-- Runs the program on the arguments of the command line. -/
def main (arguments : List String) : IO UInt32 := do
  let homes ← Reconcile.Main.readHomes
  let locations := match Reconcile.Command.readArguments arguments with
    | .ok request => request.locations homes
    | .error _ => []
  let storage ← Reconcile.Main.storageOf homes locations
  let host : Reconcile.Host :=
    { storage with runtime := .usual, console := ← Reconcile.Main.readTerminal }
  let outcome := Reconcile.Command.run host arguments
  IO.print outcome.stdout
  IO.eprint outcome.stderr
  return outcome.exitCode.toUInt32
