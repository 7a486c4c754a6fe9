import Reconcile.Proofs.Command.Arguments
import Reconcile.Proofs.Options.Validation

/-!
# Flags of a command line

Flags of `plan` that are written one after the other are read one by one: each is put into
the request that those before it made (`readWords_flag_arguments`). So of a flag that is given
twice the last one counts, and patterns add up in their order. Main statement:
`readArguments_flags`.
-/

namespace Reconcile.Command

/-- A flag of `plan` with its value. -/
inductive Flag
  | direction (d : Direction)
  | config (path : String)
  | exclude (pattern : String)
  | compareSize (on : Bool)
  | compareTimestamp (on : Bool)
  | onlyDirection (on : Bool)
  | json
  | verbose

namespace Flag

/-- How a flag is written. -/
def arguments : Flag → List String
  | direction d => ["--direction", d.name]
  | config path => ["--config", path]
  | exclude pattern => ["--exclude", pattern]
  | compareSize on => [if on then "--compare-size" else "--no-compare-size"]
  | compareTimestamp on => [if on then "--compare-timestamp" else "--no-compare-timestamp"]
  | onlyDirection on => [if on then "--only-direction" else "--no-only-direction"]
  | json => ["--json"]
  | verbose => ["--verbose"]

/-- The request with a flag put in. -/
def put (p : PlanRequest) : Flag → PlanRequest
  | direction d => { p with direction := some d }
  | config path => { p with config := some path }
  | exclude pattern => { p with exclude := p.exclude ++ [pattern] }
  | compareSize on => { p with compareSize := some on }
  | compareTimestamp on => { p with compareTimestamp := some on }
  | onlyDirection on => { p with onlyDirection := on }
  | json => { p with json := true }
  | verbose => { p with verbose := true }

end Flag

/-- The command line of some flags and two inventories. -/
def commandLine (flags : List Flag) (here there : String) : List String :=
  "plan" :: (flags.flatMap Flag.arguments ++ ["--", here, there])

/-- The words that the flags of a request leave. -/
def PlanRequest.words (p : PlanRequest) : PlanWords :=
  { direction := p.direction.map Direction.name, config := p.config, exclude := p.exclude,
    compareSize := p.compareSize, compareTimestamp := p.compareTimestamp,
    onlyDirection := p.onlyDirection, json := p.json, verbose := p.verbose }

/-- **A flag is put into the request** that those before it made. -/
theorem readWords_flag_arguments (p : PlanRequest) (f : Flag) (rest : List String) :
    readWords planOptions planLetters p.words (f.arguments ++ rest) =
      readWords planOptions planLetters (f.put p).words rest := by
  cases f with
  | direction | config | exclude | json | verbose => rfl
  | compareSize on | compareTimestamp on | onlyDirection on => cases on <;> rfl

theorem readWords_flags (flags : List Flag) (p : PlanRequest) (rest : List String) :
    readWords planOptions planLetters p.words (flags.flatMap Flag.arguments ++ rest) =
      readWords planOptions planLetters (flags.foldl Flag.put p).words rest := by
  induction flags generalizing p with
  | nil => rfl
  | cons f flags ih =>
    rw [List.flatMap_cons, List.append_assoc, readWords_flag_arguments, ih, List.foldl_cons]

/-- The request that flags make of two inventories. -/
def requestOf (flags : List Flag) (here there : String) : PlanRequest :=
  flags.foldl Flag.put { here, there }

theorem foldl_put_paths (flags : List Flag) (p : PlanRequest) :
    (flags.foldl Flag.put p).here = p.here ∧ (flags.foldl Flag.put p).there = p.there := by
  induction flags generalizing p with
  | nil => exact ⟨rfl, rfl⟩
  | cons f flags ih =>
    obtain ⟨hhere, hthere⟩ := ih (f.put p)
    rw [List.foldl_cons, hhere, hthere]
    cases f <;> exact ⟨rfl, rfl⟩

theorem directionOf_name (d : Option Direction) : directionOf (d.map Direction.name) = .ok d := by
  cases d with
  | none => rfl
  | some d =>
    rw [Option.map_some, directionOf]
    simp only [Direction.ofName?_name]

theorem checkPaths_eq_ok {paths : List String} (h : ∀ path ∈ paths, '\x00' ∉ path.toList) :
    checkPaths paths = .ok () := by
  have hnone : paths.find? (·.toList.contains '\x00') = none := by
    rw [List.find?_eq_none]
    intro path hpath
    rw [List.contains_iff_mem]
    exact h path hpath
  rw [checkPaths, hnone]

/-- The words of a request ask for it. -/
theorem request_words {p : PlanRequest} {here there : String} (hhere : p.here = here)
    (hthere : p.there = there)
    (hpaths : ∀ path ∈ p.config.toList ++ [here, there], '\x00' ∉ path.toList) :
    PlanWords.request { p.words with positional := [here, there] } = .ok (.plan p) := by
  subst hhere hthere
  have hnotHelp : ¬p.words.help = true := Bool.false_ne_true
  rw [PlanWords.request, if_neg hnotHelp]
  simp only [PlanRequest.words, directionOf_name, checkPaths_eq_ok hpaths]
  rfl

/-- **Flags in any combination** are read as the request that they make. -/
theorem readArguments_flags (flags : List Flag) (here there : String)
    (hpaths : ∀ path ∈ (requestOf flags here there).config.toList ++ [here, there],
      '\x00' ∉ path.toList) :
    readArguments (commandLine flags here there) = .ok (.plan (requestOf flags here there)) := by
  have hread := readWords_flags flags { here, there } ["--", here, there]
  obtain ⟨hhere, hthere⟩ := foldl_put_paths flags { here, there }
  show (readWords planOptions planLetters {} (flags.flatMap Flag.arguments ++
    ["--", here, there]) >>= PlanWords.request) = _
  exact (congrArg (· >>= PlanWords.request) hread).trans (request_words hhere hthere hpaths)

end Reconcile.Command
