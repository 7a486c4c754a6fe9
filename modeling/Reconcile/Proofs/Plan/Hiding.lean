import Reconcile.Proofs.Command.Arguments
import Reconcile.Proofs.Comparison.Hiding
import Reconcile.Proofs.Plan.Single

/-!
# More patterns hide operations of a plan

Patterns that are given to a run in addition take the operations with paths that they
match out of what it has to show, and leave all else alone (`Command.shown_hides`). Main
statement: `Command.patterns_hide_exactly`.
-/

namespace Reconcile

variable {o : Options} {here there : Inventory} {more patterns : List Text}

theorem flowing_hides (d : Direction) (more : List Text) (cs : List Comparison) :
    flowing d (cs.filter fun c => !Exclusion.excludes more c.path) =
      (flowing d cs).filter fun c => !Exclusion.excludes more c.path := by
  simp only [flowing, List.filter_filter, Bool.and_comm]

theorem plan_hides (d : Direction) (more : List Text) (cs : List Comparison) :
    plan d (cs.filter fun c => !Exclusion.excludes more c.path) =
      (plan d cs).filter fun op => !Exclusion.excludes more op.path := by
  rw [plan, plan, List.filter_map]
  rfl

namespace Command

/-- Patterns that are those of some options and some more hide from the operations those
with paths that these more patterns match. -/
theorem operations_hides (o : Options) (onlyDirection : Bool) (here there : Inventory)
    (h : ∀ p, p ∈ patterns ↔ p ∈ o.excludePatterns ∨ p ∈ more) :
    operations (o.withPatterns patterns) onlyDirection here there =
      (operations o onlyDirection here there).filter
        fun op => !Exclusion.excludes more op.path := by
  have hcompare : here.compare (o.withPatterns patterns) there =
      (here.compare o there).filter fun c => !Exclusion.excludes more c.path := by
    rw [← compare_append_patterns]
    exact compare_withPatterns_congr o here there fun p => (h p).trans List.mem_append.symm
  have hdirection : (o.withPatterns patterns).direction = o.direction := rfl
  rw [operations, operations, hcompare, hdirection]
  cases onlyDirection with
  | false => exact plan_hides o.direction more _
  | true =>
    rw [if_pos rfl, if_pos rfl, flowing_hides]
    exact plan_hides o.direction more _

/-! ## Runs -/

namespace Shown

/-- What is shown with the patterns `patterns` in place of its own, and so without the
operations whose paths match one of `more`. -/
def without (patterns more : List Text) (s : Shown) : Shown :=
  { s with
    options := s.options.withPatterns patterns
    operations := s.operations.filter fun op => !Exclusion.excludes more op.path }

end Shown

/-- **Patterns of a request** take the operations that they match out of what is shown. -/
theorem shownBy_hides (host : Host) (p : PlanRequest) (first more : List String) :
    let p₁ := { p with exclude := first ++ p.exclude }
    let p₂ := { p with exclude := first ++ more ++ p.exclude }
    (∃ outcome, shownBy host p₁ = .error outcome ∧ shownBy host p₂ = .error outcome) ∨
      ∃ s patterns, shownBy host p₁ = .ok s ∧
        (∀ q, q ∈ patterns ↔ q ∈ s.options.excludePatterns ∨ q ∈ more.map .ofString) ∧
        shownBy host p₂ = .ok (s.without patterns (more.map .ofString)) := by
  intro p₁ p₂
  have hboth : loadBoth host p₂ = loadBoth host p₁ := rfl
  have hsource : sourceOptions host p₂.config = sourceOptions host p₁.config := rfl
  simp only [shownBy, effectiveOptions, hboth, hsource]
  cases sourceOptions host p₁.config with
  | error e => exact .inl ⟨_, rfl, rfl⟩
  | ok source =>
    cases loadBoth host p₁ with
    | error e => exact .inl ⟨_, rfl, rfl⟩
    | ok both =>
      obtain ⟨here, there⟩ := both
      have hpatterns : ∀ q, q ∈ (p₂.apply source).excludePatterns ↔
          q ∈ (p₁.apply source).excludePatterns ∨ q ∈ more.map .ofString := by
        intro q
        simp only [PlanRequest.apply, p₁, p₂, List.map_append, List.mem_append]
        tauto
      refine .inr ⟨_, (p₂.apply source).excludePatterns, rfl, hpatterns, ?_⟩
      have hoptions :
          (p₁.apply source).withPatterns (p₂.apply source).excludePatterns = p₂.apply source := rfl
      have hops := operations_hides (p₁.apply source) p.onlyDirection here there hpatterns
      rw [hoptions] at hops
      show Except.ok _ = _
      rw [Shown.without, hoptions, ← hops]

/-- **Patterns of a command line**, given anywhere between two arguments, do so too. -/
theorem shown_hides (host : Host) {front flags more : List String} {w : PlanWords}
    (hfront : Leaves planOptions planLetters {} front w) (hflags : PatternArguments flags more)
    (back : List String) :
    let alone := shown host ("plan" :: (front ++ back))
    let extended := shown host ("plan" :: (front ++ (flags ++ back)))
    (∃ outcome, alone = .error outcome ∧ extended = .error outcome) ∨
      ∃ s patterns, alone = .ok s ∧
        (∀ q, q ∈ patterns ↔ q ∈ s.options.excludePatterns ∨ q ∈ more.map .ofString) ∧
        extended = .ok (s.without patterns (more.map .ofString)) := by
  obtain ⟨request, first, halone, hextended⟩ :=
    readArguments_patternArguments back hfront hflags
  simp only [shown, run, halone, hextended]
  cases request with
  | error e => exact .inl ⟨_, rfl, rfl⟩
  | ok request =>
    cases request with
    | help => exact .inl ⟨_, rfl, rfl⟩
    | defaults => exact .inl ⟨_, rfl, rfl⟩
    | plan p => exact shownBy_hides host p first more

/-- **More patterns hide exactly what they match.** The comparisons under more patterns are
those without them, in their order, but for the paths that these match; the patterns count
as a set, and a path that they do not match keeps its comparison. A run of a request that has
more of them, at any place among its own, ends as it does without if that has nothing to
show; otherwise it shows the same but for the operations whose paths they match. So does a
command line that has more of them anywhere between its arguments. -/
theorem patterns_hide_exactly (o : Options) (here there : Inventory) :
    (∀ more, here.compare (o.withPatterns (o.excludePatterns ++ more)) there =
      (here.compare o there).filter fun c => !Exclusion.excludes more c.path) ∧
    (∀ patterns patterns', (∀ p, p ∈ patterns ↔ p ∈ patterns') →
      here.compare (o.withPatterns patterns) there =
        here.compare (o.withPatterns patterns') there) ∧
    (∀ more c, Exclusion.excludes more c.path = false →
      (c ∈ here.compare (o.withPatterns (o.excludePatterns ++ more)) there ↔
        c ∈ here.compare o there)) ∧
    (∀ (host : Host) (p : PlanRequest) (first more : List String),
      let p₁ := { p with exclude := first ++ p.exclude }
      let p₂ := { p with exclude := first ++ more ++ p.exclude }
      runPlan host p₁ = ending host.console (shownBy host p₁) ∧
      runPlan host p₂ = ending host.console (shownBy host p₂) ∧
      ((∃ outcome, shownBy host p₁ = .error outcome ∧ shownBy host p₂ = .error outcome) ∨
        ∃ s patterns, shownBy host p₁ = .ok s ∧
          (∀ q, q ∈ patterns ↔ q ∈ s.options.excludePatterns ∨ q ∈ more.map .ofString) ∧
          shownBy host p₂ = .ok (s.without patterns (more.map .ofString)))) ∧
    ∀ (host : Host) (front flags more back : List String) (w : PlanWords),
      Leaves planOptions planLetters {} front w → PatternArguments flags more →
      let alone := shown host ("plan" :: (front ++ back))
      let extended := shown host ("plan" :: (front ++ (flags ++ back)))
      run host ("plan" :: (front ++ back)) = ending host.console alone ∧
      run host ("plan" :: (front ++ (flags ++ back))) = ending host.console extended ∧
      ((∃ outcome, alone = .error outcome ∧ extended = .error outcome) ∨
        ∃ s patterns, alone = .ok s ∧
          (∀ q, q ∈ patterns ↔ q ∈ s.options.excludePatterns ∨ q ∈ more.map .ofString) ∧
          extended = .ok (s.without patterns (more.map .ofString))) := by
  refine ⟨compare_append_patterns o here there, fun _ _ => compare_withPatterns_congr o here there,
    ?_, fun host p first more => ⟨runPlan_eq _ _, runPlan_eq _ _, shownBy_hides host p first more⟩,
    ?_⟩
  · intro more c hkept
    rw [mem_compare_append_patterns, and_iff_left hkept]
  · intro host front flags more back w hfront hflags
    exact ⟨run_eq _ _, run_eq _ _, shown_hides host hfront hflags back⟩

/-- A new file that is no longer planned as an upload once its suffix is given as a
pattern, in capitals and between other arguments. -/
theorem suffix_hides_new_file :
    let host := singleHost "a.log" 1
    let upload : Operation := ⟨.ofLocal "a.log" (.ofFile "a.log" 1), .upload⟩
    let flags := ["--exclude", "*.LOG", "--exclude=tmp"]
    let repeated : List Text := ["b", "a", "b"]
    let once : List Text := ["a", "b"]
    Leaves planOptions planLetters {} ["l", "r"] { positional := ["l", "r"] } ∧
      PatternArguments flags ["*.LOG", "tmp"] ∧
      (∃ s, shown host ["plan", "l", "r", "--json"] = .ok s ∧ s.operations = [upload]) ∧
      (∃ s, shown host ("plan" :: "l" :: "r" :: (flags ++ ["--json"])) = .ok s ∧
        s.operations = []) ∧
      (∀ p, p ∈ repeated ↔ p ∈ once) ∧
      Inventory.compare (Options.withPatterns {} repeated) .empty .empty =
        Inventory.compare (Options.withPatterns {} once) .empty .empty ∧
      Exclusion.excludes ["*.LOG", "tmp"] "b" = false ∧
      (Comparison.ofLocal "b" (.ofFile "b" 0) ∈
          Inventory.compare
            (Options.withPatterns {} (defaultPatterns ++ (["*.LOG", "tmp"] : List Text)))
            (.ofPairs [("b", .ofFile "b" 0)]) .empty ↔
        Comparison.ofLocal "b" (.ofFile "b" 0) ∈
          Inventory.compare {} (.ofPairs [("b", .ofFile "b" 0)]) .empty) := by
  intro host upload flags repeated once
  have hfront : Leaves planOptions planLetters {} ["l", "r"] { positional := ["l", "r"] } :=
    leaves_of_notMem rfl (by decide)
  have hflags : PatternArguments flags ["*.LOG", "tmp"] := .apart _ (.joined "tmp" .nil)
  have hset : ∀ p, p ∈ repeated ↔ p ∈ once := by
    intro p
    simp only [repeated, once, List.mem_cons, List.not_mem_nil, or_false]
    tauto
  have hkept : Exclusion.excludes ["*.LOG", "tmp"] "b" = false := by decide
  have halone : shown host ["plan", "l", "r", "--json"] = .ok _ :=
    shown_single (o := {}) (by decide) (by decide) rfl rfl rfl rfl rfl (by decide)
  obtain ⟨-, -, -, -, hruns⟩ := patterns_hide_exactly {} .empty .empty
  obtain ⟨-, -, hhides⟩ := hruns host ["l", "r"] flags _ ["--json"] _ hfront hflags
  refine ⟨hfront, hflags, ⟨_, halone, rfl⟩, ?_, hset,
    (patterns_hide_exactly {} .empty .empty).2.1 _ _ hset, hkept,
    (patterns_hide_exactly {} (.ofPairs [("b", .ofFile "b" 0)]) .empty).2.2.1 _ _ hkept⟩
  rcases hhides with ⟨outcome, herror, -⟩ | ⟨s, patterns, hs, -, hextended⟩
  · exact absurd (herror.symm.trans halone) (by rintro ⟨⟩)
  · refine ⟨_, hextended, ?_⟩
    have hops : s.operations = [upload] := by rw [Except.ok.inj (hs.symm.trans halone)]; rfl
    have hmatch : Exclusion.excludes ["*.LOG", "tmp"] upload.path = true := by decide
    rw [Shown.without, hops]
    simp [hmatch]

end Command

end Reconcile
