import Reconcile.Direction

/-!
# Command lines

The commands are `plan`, which takes two inventories and options in any order,
and `defaults`, which takes nothing. An option that takes a value takes the next
argument, whatever it is, or what follows an equals sign. Of an option given
twice, the last counts, except that patterns add up. Two dashes end the options.
-/

namespace Reconcile.Command

/-- What is wrong with a command line. -/
inductive UsageError
  | noCommand
  | unknownCommand (name : String)
  | unknownOption (name : String)
  | missingValue (option : String)
  | unexpectedValue (option : String)
  | invalidDirection (value : String)
  | invalidPath (path : String)
  | missingArgument (name : String)
  | extraArguments (arguments : List String)
deriving DecidableEq

/-- The wording of a usage error. -/
def UsageError.message : UsageError → String
  | .noCommand => "Missing command."
  | .unknownCommand name => s!"No such command '{name}'."
  | .unknownOption name => s!"No such option: {name}"
  | .missingValue option => s!"Option '{option}' requires an argument."
  | .unexpectedValue option => s!"Option '{option}' does not take a value."
  | .invalidDirection value => s!"Invalid value for '--direction': '{value}'."
  | .invalidPath path => s!"Invalid value: '{path}' is no path."
  | .missingArgument name => s!"Missing argument '{name}'."
  | .extraArguments arguments =>
    "Got unexpected extra arguments (" ++ " ".intercalate arguments ++ ")"

/-- What `plan` is asked for. -/
structure PlanRequest where
  here : String
  there : String
  direction : Option Direction := none
  config : Option String := none
  exclude : List String := []
  compareSize : Option Bool := none
  compareTimestamp : Option Bool := none
  onlyDirection : Bool := false
  json : Bool := false
  verbose : Bool := false
deriving DecidableEq

/-- What the program is asked for. -/
inductive Request
  | help
  | defaults
  | plan (p : PlanRequest)
deriving DecidableEq

/-- The options of `plan` as they are written, before their values are looked at. -/
structure PlanWords where
  positional : List String := []
  direction : Option String := none
  config : Option String := none
  exclude : List String := []
  compareSize : Option Bool := none
  compareTimestamp : Option Bool := none
  onlyDirection : Bool := false
  json : Bool := false
  verbose : Bool := false
  help : Bool := false

/-- How an option changes the words, without a value or with one. -/
inductive OptionKind
  | flag (set : PlanWords → PlanWords)
  | valued (set : String → PlanWords → PlanWords)

/-- The long options of `plan`. -/
def planOptions : List (String × OptionKind) :=
  [("--direction", .valued fun v w => { w with direction := some v }),
   ("--config", .valued fun v w => { w with config := some v }),
   ("--exclude", .valued fun v w => { w with exclude := w.exclude ++ [v] }),
   ("--compare-size", .flag fun w => { w with compareSize := some true }),
   ("--no-compare-size", .flag fun w => { w with compareSize := some false }),
   ("--compare-timestamp", .flag fun w => { w with compareTimestamp := some true }),
   ("--no-compare-timestamp", .flag fun w => { w with compareTimestamp := some false }),
   ("--only-direction", .flag fun w => { w with onlyDirection := true }),
   ("--no-only-direction", .flag fun w => { w with onlyDirection := false }),
   ("--json", .flag fun w => { w with json := true }),
   ("--verbose", .flag fun w => { w with verbose := true }),
   ("--help", .flag fun w => { w with help := true })]

/-- The long options of `defaults`. -/
def defaultsOptions : List (String × OptionKind) :=
  [("--help", .flag fun w => { w with help := true })]

/-- The letters of the short options of `plan`. -/
def planLetters : List Char := ['v']

/-- Whether an argument is an option. A dash alone is none. -/
def isOption (argument : String) : Bool :=
  match argument.toList with
  | '-' :: _ :: _ => true
  | _ => false

/-- The name of a long option, and the value after its equals sign. -/
def splitOption (argument : String) : String × Option String :=
  let s := argument.toList
  match s.dropWhile (· ≠ '=') with
  | [] => (argument, none)
  | _ :: value => (String.ofList (s.takeWhile (· ≠ '=')), some (String.ofList value))

/-- The words after an argument of short options, all of which are flags. -/
def shortOptions (letters : List Char) (argument : String) (w : PlanWords) :
    Except UsageError PlanWords :=
  match argument.toList with
  | '-' :: '-' :: _ => .error (.unknownOption (splitOption argument).1)
  | _ =>
    match (argument.toList.drop 1).find? (!letters.contains ·) with
    | some c => .error (.unknownOption ("-" ++ c.toString))
    | none => .ok { w with verbose := true }

/-- Reads the arguments of a command. -/
def readWords (options : List (String × OptionKind)) (letters : List Char) (w : PlanWords) :
    List String → Except UsageError PlanWords
  | [] => .ok w
  | argument :: rest =>
    if argument = "--" then .ok { w with positional := w.positional ++ rest }
    else if !isOption argument then
      readWords options letters { w with positional := w.positional ++ [argument] } rest
    else
      let (name, value) := splitOption argument
      match options.lookup name, value with
      | some (.flag set), none => readWords options letters (set w) rest
      | some (.flag _), some _ => .error (.unexpectedValue name)
      | some (.valued set), some v => readWords options letters (set v w) rest
      | some (.valued set), none =>
        match rest with
        | [] => .error (.missingValue name)
        | v :: rest => readWords options letters (set v w) rest
      | none, _ => do
        let w ← shortOptions letters argument w
        readWords options letters w rest

/-- The direction that an option asks for. -/
def directionOf : Option String → Except UsageError (Option Direction)
  | none => .ok none
  | some v =>
    match Direction.ofName? v with
    | some d => .ok (some d)
    | none => .error (.invalidDirection v)

/-- Checks paths, which cannot hold the null character. -/
def checkPaths (paths : List String) : Except UsageError Unit :=
  match paths.find? (·.toList.contains '\x00') with
  | some path => .error (.invalidPath path)
  | none => .ok ()

/-- What the words after `plan` ask for. -/
def PlanWords.request (w : PlanWords) : Except UsageError Request :=
  if w.help then .ok .help
  else do
    let direction ← directionOf w.direction
    checkPaths (w.config.toList ++ w.positional)
    match w.positional with
    | [] => throw (.missingArgument "LOCAL")
    | [_] => throw (.missingArgument "REMOTE")
    | [here, there] =>
      return .plan
        { here, there, direction, config := w.config, exclude := w.exclude,
          compareSize := w.compareSize, compareTimestamp := w.compareTimestamp,
          onlyDirection := w.onlyDirection, json := w.json, verbose := w.verbose }
    | _ :: _ :: extra => throw (.extraArguments extra)

/-- What the command of a name asks for with its arguments. -/
def readCommand (name : String) (arguments : List String) : Except UsageError Request := do
  if name = "plan" then
    (← readWords planOptions planLetters {} arguments).request
  else if name = "defaults" then
    let w ← readWords defaultsOptions [] {} arguments
    if w.help then return .help
    if w.positional.isEmpty then return .defaults
    throw (.extraArguments w.positional)
  else throw (.unknownCommand name)

/-- What a command line asks for. -/
def readArguments : List String → Except UsageError Request
  | [] => .error .noCommand
  | first :: rest =>
    if first = "--" then
      match rest with
      | [] => .error .noCommand
      | name :: arguments => readCommand name arguments
    else if first = "--help" then .ok .help
    else if isOption first then .error (.unknownOption first)
    else readCommand first rest

end Reconcile.Command
