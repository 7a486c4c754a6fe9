import Reconcile.Command
import Reconcile.Proofs.Sequence

/-!
# Reading command lines in parts

What is read of a command line goes on where a part of it ends (`leaves_of_notMem`), and
patterns that were given before stay in front of those still to come
(`readWords_withFirst`). So patterns that are put between two arguments change the
patterns that are asked for, and nothing else. Main statement:
`readArguments_patternArguments`.
-/

namespace Reconcile.Command

variable {options : List (String × OptionKind)} {letters : List Char} {w w' : PlanWords}
  {front arguments more : List String}

/-- An argument that is no option is a positional one. -/
theorem readWords_positional {argument : String} {rest : List String} (hne : argument ≠ "--")
    (hposition : (!isOption argument) = true) :
    readWords options letters w (argument :: rest) =
      readWords options letters { w with positional := w.positional ++ [argument] } rest := by
  rw [readWords, if_neg hne, if_pos hposition]

/-! ## Arguments that give patterns -/

/-- Arguments that give some patterns in order, each by a value of its own or after an
equals sign. -/
inductive PatternArguments : (arguments patterns : List String) → Prop
  | nil : PatternArguments [] []
  | apart (pattern : String) {arguments patterns : List String}
      (rest : PatternArguments arguments patterns) :
      PatternArguments ("--exclude" :: pattern :: arguments) (pattern :: patterns)
  | joined (pattern : String) {arguments patterns : List String}
      (rest : PatternArguments arguments patterns) :
      PatternArguments (("--exclude=" ++ pattern) :: arguments) (pattern :: patterns)

theorem toList_joined (pattern : String) :
    ("--exclude=" ++ pattern).toList = "--exclude".toList ++ '=' :: pattern.toList := by
  rw [String.toList_append]
  rfl

theorem splitOption_joined (pattern : String) :
    splitOption ("--exclude=" ++ pattern) = ("--exclude", some pattern) := by
  have hname := List.all_eq_true.1 (show "--exclude".toList.all (· ≠ '=') = true by decide)
  simp only [splitOption, toList_joined, List.dropWhile_append_of_pos hname,
    List.takeWhile_append_of_pos hname]
  simp

theorem isOption_joined (pattern : String) : isOption ("--exclude=" ++ pattern) = true := by
  rw [isOption, toList_joined]
  rfl

theorem joined_ne_dashes (pattern : String) : "--exclude=" ++ pattern ≠ "--" := by
  intro h
  have hlist := congrArg String.toList h
  rw [toList_joined] at hlist
  simp at hlist

/-! ## One option -/

section

variable {argument name v : String} {rest : List String}
  (hne : argument ≠ "--") (hoption : ¬(!isOption argument) = true)

include hne hoption

theorem readWords_flag {set : PlanWords → PlanWords} (hsplit : splitOption argument = (name, none))
    (hlookup : options.lookup name = some (.flag set)) :
    readWords options letters w (argument :: rest) = readWords options letters (set w) rest := by
  rw [readWords, if_neg hne, if_neg hoption]
  simp only [hsplit, hlookup]

theorem readWords_flag_value {set : PlanWords → PlanWords}
    (hsplit : splitOption argument = (name, some v))
    (hlookup : options.lookup name = some (.flag set)) :
    readWords options letters w (argument :: rest) = .error (.unexpectedValue name) := by
  rw [readWords, if_neg hne, if_neg hoption]
  simp only [hsplit, hlookup]

theorem readWords_joined {set : String → PlanWords → PlanWords}
    (hsplit : splitOption argument = (name, some v))
    (hlookup : options.lookup name = some (.valued set)) :
    readWords options letters w (argument :: rest) = readWords options letters (set v w) rest := by
  rw [readWords, if_neg hne, if_neg hoption]
  simp only [hsplit, hlookup]

theorem readWords_apart {set : String → PlanWords → PlanWords}
    (hsplit : splitOption argument = (name, none))
    (hlookup : options.lookup name = some (.valued set)) :
    readWords options letters w (argument :: v :: rest) =
      readWords options letters (set v w) rest := by
  rw [readWords, if_neg hne, if_neg hoption]
  simp only [hsplit, hlookup]

theorem readWords_missing {set : String → PlanWords → PlanWords}
    (hsplit : splitOption argument = (name, none))
    (hlookup : options.lookup name = some (.valued set)) :
    readWords options letters w [argument] = .error (.missingValue name) := by
  rw [readWords, if_neg hne, if_neg hoption]
  simp only [hsplit, hlookup]

theorem readWords_short {value : Option String} (hsplit : splitOption argument = (name, value))
    (hlookup : options.lookup name = none) :
    readWords options letters w (argument :: rest) =
      shortOptions letters argument w >>= fun w => readWords options letters w rest := by
  rw [readWords, if_neg hne, if_neg hoption]
  simp only [hsplit, hlookup]

end

/-! ## One part and the next -/

/-- A part of a command line leaves some words to what comes after it, whatever that is. One
that ends the options does not, nor one that ends before the value of its last option. -/
def Leaves (options : List (String × OptionKind)) (letters : List Char) (w : PlanWords)
    (front : List String) (w' : PlanWords) : Prop :=
  ∀ rest, readWords options letters w (front ++ rest) = readWords options letters w' rest

/-- A part that is read by itself is read in the same way before any others, unless it
ends the options. -/
theorem leaves_of_notMem (h : readWords options letters w front = .ok w')
    (hdashes : "--" ∉ front) : Leaves options letters w front w' := by
  intro rest
  fun_induction readWords options letters w front with
  | case1 w => rw [Except.ok.inj h, List.nil_append]
  | case2 w front => exact absurd List.mem_cons_self hdashes
  | case3 w argument front hne hposition ih =>
    rw [List.cons_append, readWords_positional hne hposition]
    exact ih h (List.not_mem_of_not_mem_cons hdashes)
  | case4 w argument front hne hoption name set hlookup hsplit ih =>
    rw [List.cons_append, readWords_flag hne hoption hsplit hlookup]
    exact ih h (List.not_mem_of_not_mem_cons hdashes)
  | case5 => cases h
  | case6 w argument front hne hoption name set v hlookup hsplit ih =>
    rw [List.cons_append, readWords_joined hne hoption hsplit hlookup]
    exact ih h (List.not_mem_of_not_mem_cons hdashes)
  | case7 => cases h
  | case8 w argument hne hoption name set hlookup v front hsplit ih =>
    rw [List.cons_append, List.cons_append, readWords_apart hne hoption hsplit hlookup]
    exact ih h (List.not_mem_of_not_mem_cons (List.not_mem_of_not_mem_cons hdashes))
  | case9 w argument front hne hoption name value hsplit hlookup ih =>
    rw [List.cons_append, readWords_short hne hoption hsplit hlookup]
    obtain ⟨w₁, hshort, hrest⟩ := Sequence.bind_eq_ok_iff.1 h
    rw [hshort]
    exact ih w₁ hrest (List.not_mem_of_not_mem_cons hdashes)

/-! ## Patterns in front -/

/-- The words with some patterns before the others. -/
def PlanWords.withFirst (patterns : List String) (w : PlanWords) : PlanWords :=
  { w with exclude := patterns ++ w.exclude }

/-- Setting an option and then changing the words is the same as the other way round. -/
def OptionKind.CommutesWith (change : PlanWords → PlanWords) : OptionKind → Prop
  | .flag set => ∀ w, set (change w) = change (set w)
  | .valued set => ∀ v w, set v (change w) = change (set v w)

/-- No option of `plan` looks at the patterns that were given before it. -/
theorem commutesWith_withFirst (patterns : List String) :
    ∀ option ∈ planOptions, option.2.CommutesWith (PlanWords.withFirst patterns) := by
  simp only [planOptions, List.forall_mem_cons, OptionKind.CommutesWith]
  refine ⟨fun _ _ => rfl, fun _ _ => rfl, ?_, fun _ => rfl, fun _ => rfl, fun _ => rfl,
    fun _ => rfl, fun _ => rfl, fun _ => rfl, fun _ => rfl, fun _ => rfl, fun _ => rfl,
    List.forall_mem_nil _⟩
  intro v w
  simp only [PlanWords.withFirst, List.append_assoc]

theorem commutesWith_of_lookup {name : String} {kind : OptionKind}
    (h : planOptions.lookup name = some kind) (patterns : List String) :
    kind.CommutesWith (PlanWords.withFirst patterns) := by
  obtain ⟨before, after, hoptions, -⟩ := List.lookup_eq_some_iff.1 h
  refine commutesWith_withFirst patterns (name, kind) ?_
  rw [hoptions]
  exact List.mem_append_right before List.mem_cons_self

theorem shortOptions_withFirst (patterns : List String) (argument : String) (w : PlanWords) :
    shortOptions letters argument (w.withFirst patterns) =
      (shortOptions letters argument w).map (PlanWords.withFirst patterns) := by
  unfold shortOptions
  split
  · rfl
  · split <;> rfl

/-- **Patterns that were given before stay in front** and change nothing else of what is
read. -/
theorem readWords_withFirst (patterns : List String) (w : PlanWords) (arguments : List String) :
    readWords planOptions planLetters (w.withFirst patterns) arguments =
      (readWords planOptions planLetters w arguments).map (PlanWords.withFirst patterns) := by
  fun_induction readWords planOptions planLetters w arguments with
  | case1 w => rfl
  | case2 w rest => rw [readWords, if_pos rfl]; rfl
  | case3 w argument rest hne hposition ih => rwa [readWords_positional hne hposition]
  | case4 w argument rest hne hoption name set hlookup hsplit ih =>
    rwa [readWords_flag hne hoption hsplit hlookup, commutesWith_of_lookup hlookup patterns w]
  | case5 w argument rest hne hoption name set v hlookup hsplit =>
    rw [readWords_flag_value hne hoption hsplit hlookup]
    rfl
  | case6 w argument rest hne hoption name set v hlookup hsplit ih =>
    rwa [readWords_joined hne hoption hsplit hlookup, commutesWith_of_lookup hlookup patterns v w]
  | case7 w argument hne hoption name set hlookup hsplit =>
    rw [readWords_missing hne hoption hsplit hlookup]
    rfl
  | case8 w argument hne hoption name set hlookup v rest hsplit ih =>
    rwa [readWords_apart hne hoption hsplit hlookup, commutesWith_of_lookup hlookup patterns v w]
  | case9 w argument rest hne hoption name value hsplit hlookup ih =>
    rw [readWords_short hne hoption hsplit hlookup, shortOptions_withFirst]
    cases shortOptions planLetters argument w with
    | error e => rfl
    | ok w₁ => exact ih w₁

/-! ## Patterns between two parts -/

/-- **Patterns given between two parts** of a command line come between those of the
parts. -/
theorem readWords_patternArguments {flags : List String} (hflags : PatternArguments flags more)
    (w : PlanWords) (rest : List String) :
    readWords planOptions planLetters w (flags ++ rest) =
      readWords planOptions planLetters { w with exclude := w.exclude ++ more } rest := by
  induction hflags generalizing w with
  | nil => rw [List.nil_append, List.append_nil]
  | @apart pattern flags more _ ih =>
    have hsplit : splitOption "--exclude" = ("--exclude", none) := rfl
    rw [List.cons_append, List.cons_append, readWords_apart (by decide) (by decide) hsplit rfl, ih,
      List.append_assoc, List.singleton_append]
  | @joined pattern flags more _ ih =>
    have hoption : ¬(!isOption ("--exclude=" ++ pattern)) = true := by
      rw [isOption_joined]
      decide
    rw [List.cons_append, readWords_joined (joined_ne_dashes pattern) hoption
      (splitOption_joined pattern) rfl, ih, List.append_assoc, List.singleton_append]

/-! ## Requests -/

/-- The request with some patterns before the others, if it asks for a plan. -/
def Request.withFirst (patterns : List String) : Request → Request
  | .plan p => .plan { p with exclude := patterns ++ p.exclude }
  | r => r

theorem request_withFirst (patterns : List String) (w : PlanWords) :
    (w.withFirst patterns).request = w.request.map (Request.withFirst patterns) := by
  obtain ⟨positional, direction, config, exclude, size, timestamp, only, json, verbose, help⟩ := w
  cases help with
  | true => rfl
  | false =>
    simp only [PlanWords.withFirst, PlanWords.request, Bool.false_eq_true, if_false]
    cases directionOf direction with
    | error e => rfl
    | ok direction =>
      cases checkPaths (config.toList ++ positional) with
      | error e => rfl
      | ok _ =>
        match positional with
        | [] | [_] | [_, _] | _ :: _ :: _ :: _ => rfl

/-- **Patterns given between two arguments** are put between the others, and nothing else
of what a command line asks for is changed. -/
theorem readArguments_patternArguments (back : List String) {flags : List String}
    (hfront : Leaves planOptions planLetters {} front w) (hflags : PatternArguments flags more) :
    ∃ (request : Except UsageError Request) (first : List String),
      readArguments ("plan" :: (front ++ back)) = request.map (Request.withFirst first) ∧
      readArguments ("plan" :: (front ++ (flags ++ back))) =
        request.map (Request.withFirst (first ++ more)) := by
  -- what is read after the patterns does not depend on those before it
  let bare : PlanWords := { w with exclude := [] }
  have hread : ∀ patterns, (readWords planOptions planLetters (bare.withFirst patterns) back >>=
      PlanWords.request) = (readWords planOptions planLetters bare back >>=
      PlanWords.request).map (Request.withFirst patterns) := by
    intro patterns
    rw [readWords_withFirst]
    cases readWords planOptions planLetters bare back with
    | error e => rfl
    | ok v => exact request_withFirst patterns v
  refine ⟨readWords planOptions planLetters bare back >>= PlanWords.request, w.exclude, ?_, ?_⟩
  · have hwords : w = bare.withFirst w.exclude := by simp [bare, PlanWords.withFirst]
    show (readWords planOptions planLetters {} (front ++ back) >>= PlanWords.request) = _
    rw [hfront, ← hread, ← hwords]
  · have hwords : { w with exclude := w.exclude ++ more } =
        bare.withFirst (w.exclude ++ more) := by simp [bare, PlanWords.withFirst]
    show (readWords planOptions planLetters {} (front ++ (flags ++ back)) >>=
      PlanWords.request) = _
    rw [hfront, readWords_patternArguments hflags, hwords, hread]

end Reconcile.Command
