import Reconcile.Options.File
import Reconcile.Proofs.Document.Record
import Reconcile.Proofs.Sequence

/-!
# A valid table of options can be read

Validation is a search through a list of checks (`validate_eq_find?`), and reading takes
the fields one by one (`ofFields_eq_ok_iff`). A field passes its test exactly if the
reader takes it, whether it is there or left to its default (`passes_iff_exists`). Main
statement: `isValid_iff`.
-/

namespace Reconcile.Options

/-! ## Checks -/

/-- What validation looks at. -/
inductive Check
  | names
  | boolean (name : String)
  | patterns
  | direction

/-- The checks in the order in which they are made. -/
def checks : List Check := .names :: (booleanNames.map .boolean ++ [.patterns, .direction])

/-- Whether a check finds a fault. -/
def Check.fails (fields : Fields) : Check → Bool
  | names => !(unknownNames fields).isEmpty
  | boolean name => !passes fields isBoolean name
  | patterns => !passes fields isTextList "exclude_patterns"
  | direction => !passes fields isDirection "direction"

/-- The fault that a check reports. -/
def Check.fault (fields : Fields) : Check → TableFault
  | names => .unknownOptions (unknownNames fields)
  | boolean name => .notBoolean name
  | patterns => .patternsNotTexts
  | direction => .direction

variable {fields : Fields}

/-- Validation is a search for the first check that finds a fault. -/
theorem validate_eq_find? :
    validate fields =
      ((checks.find? (·.fails fields)).map (·.fault fields)).elim (.ok ()) .error := by
  have hbooleans : (booleanNames.map Check.boolean).find? (·.fails fields) =
      (booleanNames.find? (!passes fields isBoolean ·)).map .boolean := List.find?_map ..
  rw [checks, List.find?_cons, List.find?_append, hbooleans, validate]
  -- both go on to the next check only where the last one finds nothing
  cases hnames : (unknownNames fields).isEmpty with
  | false => simp [Check.fails, Check.fault, hnames]
  | true =>
    cases hboolean : booleanNames.find? (!passes fields isBoolean ·) with
    | some name => simp [Check.fails, Check.fault, hnames]
    | none =>
      cases hpatterns : passes fields isTextList "exclude_patterns" with
      | false => simp [Check.fails, Check.fault, hnames, hpatterns]
      | true =>
        cases hdirection : passes fields isDirection "direction" <;>
          simp [Check.fails, Check.fault, hnames, hpatterns, hdirection]

/-- What validation asks of the fields of a table. -/
structure IsValid (fields : Fields) : Prop where
  known : ∀ name ∈ Keyed.keys fields, name ∈ fieldNames
  booleans : ∀ name ∈ booleanNames, passes fields isBoolean name = true
  patterns : passes fields isTextList "exclude_patterns" = true
  direction : passes fields isDirection "direction" = true

theorem isEmpty_unknownNames_iff :
    (unknownNames fields).isEmpty = true ↔ ∀ name ∈ Keyed.keys fields, name ∈ fieldNames := by
  rw [List.isEmpty_iff, List.eq_nil_iff_forall_not_mem, unknownNames]
  simp only [List.mem_mergeSort, List.mem_filter, decide_eq_true_iff, not_and, not_not]

/-- **What validation lets through.** -/
theorem validate_eq_ok_iff : validate fields = .ok () ↔ IsValid fields := by
  have hchecks : validate fields = .ok () ↔ ∀ check ∈ checks, ¬check.fails fields = true := by
    rw [validate_eq_find?, ← List.find?_eq_none]
    cases checks.find? (·.fails fields) <;> simp
  rw [hchecks, checks, List.forall_mem_cons, List.forall_mem_append, List.forall_mem_map]
  simp only [Check.fails, Bool.not_eq_true', Bool.not_eq_false, isEmpty_unknownNames_iff,
    List.forall_mem_cons, List.not_mem_nil]
  constructor
  · rintro ⟨hknown, hbooleans, hpatterns, hdirection, -⟩
    exact ⟨hknown, hbooleans, hpatterns, hdirection⟩
  · intro h
    exact ⟨h.known, h.booleans, h.patterns, h.direction, fun _ hnil => hnil.elim⟩

/-! ## The values of options -/

section Values

variable {v : Value}

theorem isBoolean_iff : isBoolean v = true ↔ ∃ b, v = .bool b := by
  cases v <;> simp [isBoolean]

theorem isText_iff : isText v = true ↔ ∃ s, v = .text s := by
  cases v <;> simp [isText]

theorem forall_isText_iff {items : List Value} :
    (∀ item ∈ items, isText item = true) ↔
      ∃ patterns : List Text, items = patterns.map .text := by
  simp only [isText_iff]
  refine Sequence.exists_forall₂_iff.symm.trans (exists_congr fun patterns => ?_)
  rw [← List.forall₂_map_right_iff (R := Eq), List.forall₂_eq_eq_eq]

theorem isTextList_iff :
    isTextList v = true ↔ ∃ patterns : List Text, v = .list (patterns.map .text) := by
  cases v with
  | list items => simp only [isTextList, List.all_eq_true, forall_isText_iff, Value.list.injEq]
  | _ => simp [isTextList]

theorem ofName?_eq_some_iff {t : Text} {d : Direction} :
    Direction.ofName? t = some d ↔ t = d.name := by
  constructor
  · intro h
    have hname := List.find?_some h
    exact (of_decide_eq_true hname).symm
  · rintro rfl
    exact Direction.ofName?_name d

theorem name_injective : Function.Injective Direction.name := by
  intro d d' h
  have hd := Direction.ofName?_name d
  rw [h, Direction.ofName?_name] at hd
  exact (Option.some.inj hd).symm

theorem toDirection_eq_ok_iff {d : Direction} : v.toDirection = .ok d ↔ v = .text d.name := by
  cases v with
  | text s =>
    rw [Value.toDirection, Value.toWord, Value.text.injEq, ← ofName?_eq_some_iff]
    cases Direction.ofName? s <;> simp
  | _ => simp [Value.toDirection, Value.toWord]

theorem isDirection_iff : isDirection v = true ↔ ∃ d : Direction, v = .text d.name := by
  cases v with
  | text s =>
    simp only [isDirection, Value.text.injEq, ← ofName?_eq_some_iff, Option.isSome_iff_exists]
  | _ => simp [isDirection]

theorem patternsOfItems_eq_ok_iff {items : List Value} {patterns : List Text} :
    patternsOfItems items = .ok patterns ↔ items = patterns.map .text := by
  simp only [patternsOfItems, Sequence.mapM_eq_ok_iff, Value.toText_eq_ok_iff]
  rw [← List.forall₂_map_right_iff (R := Eq), List.forall₂_eq_eq_eq]

end Values

/-- A test for the values of some form lets a field through if it has that form, as it is
or by its default. -/
theorem passes_iff_exists {α : Type} {test : Value → Bool} {form : α → Value}
    (htest : ∀ v, test v = true ↔ ∃ a, v = form a) (name : String) (default : α) :
    passes fields test name = true ↔ ∃ a, fields.getD name (form default) = form a := by
  rw [passes, Fields.getD]
  cases Keyed.get? fields name with
  | none => exact ⟨fun _ => ⟨default, rfl⟩, fun _ => rfl⟩
  | some v => exact htest v

/-! ## Reading a table -/

/-- An option, which has the value `value o`, is taken from the field `name`, or from the
defaults where the field is absent. -/
def Takes (o : Options) (fields : Fields) (name : String) (value : Options → Value) : Prop :=
  Keyed.get? fields name = some (value o) ∨ Keyed.get? fields name = none ∧ value o = value {}

/-- The options that the fields spell. -/
structure IsReadFrom (o : Options) (fields : Fields) : Prop where
  compareTimestamp : o.Takes fields "compare_timestamp" (.bool ·.compareTimestamp)
  compareSize : o.Takes fields "compare_size" (.bool ·.compareSize)
  compareChecksum : o.Takes fields "compare_checksum" (.bool ·.compareChecksum)
  excludePatterns : o.Takes fields "exclude_patterns" fun o => .list (o.excludePatterns.map .text)
  direction : o.Takes fields "direction" (.text ·.direction.name)

theorem takes_iff {o : Options} {name : String} {value : Options → Value} :
    o.Takes fields name value ↔ fields.getD name (value {}) = value o := by
  rw [Takes, Fields.getD_eq_iff, eq_comm (a := value {})]

theorem ofFields_eq_ok_iff {o : Options} : ofFields fields = .ok o ↔ o.IsReadFrom fields := by
  have hread : ofFields fields = .ok o ↔
      fields.getD "compare_timestamp" (.bool true) = .bool o.compareTimestamp ∧
      fields.getD "compare_size" (.bool true) = .bool o.compareSize ∧
      fields.getD "compare_checksum" (.bool false) = .bool o.compareChecksum ∧
      fields.getD "exclude_patterns" (.list (defaultPatterns.map .text)) =
        .list (o.excludePatterns.map .text) ∧
      fields.getD "direction" (.text Direction.bidirectional.name) = .text o.direction.name := by
    rw [ofFields]
    cases fields.getD "exclude_patterns" (.list (defaultPatterns.map .text)) with
    | list items =>
      simp only [Sequence.bind_eq_ok_iff, Value.toBool_eq_ok_iff, patternsOfItems_eq_ok_iff,
        toDirection_eq_ok_iff, Sequence.pure_eq_ok_iff, Value.list.injEq]
      constructor
      · rintro ⟨_, htimestamp, _, hsize, _, hchecksum, _, hpatterns, _, hdirection, rfl⟩
        exact ⟨htimestamp, hsize, hchecksum, hpatterns, hdirection⟩
      · rintro ⟨htimestamp, hsize, hchecksum, hpatterns, hdirection⟩
        exact ⟨_, htimestamp, _, hsize, _, hchecksum, _, hpatterns, _, hdirection, rfl⟩
    | _ => simp [throw, throwThe, MonadExceptOf.throw]
  rw [hread]
  constructor
  · rintro ⟨htimestamp, hsize, hchecksum, hpatterns, hdirection⟩
    exact ⟨takes_iff.2 htimestamp, takes_iff.2 hsize, takes_iff.2 hchecksum,
      takes_iff.2 hpatterns, takes_iff.2 hdirection⟩
  · intro h
    exact ⟨takes_iff.1 h.compareTimestamp, takes_iff.1 h.compareSize,
      takes_iff.1 h.compareChecksum, takes_iff.1 h.excludePatterns, takes_iff.1 h.direction⟩

/-- **A table is valid exactly if it holds nothing but options and can be read.** -/
theorem isValid_iff :
    IsValid fields ↔
      (∀ name ∈ Keyed.keys fields, name ∈ fieldNames) ∧ ∃ o, ofFields fields = .ok o := by
  constructor
  · intro h
    obtain ⟨timestamp, htimestamp⟩ := (passes_iff_exists (fun _ => isBoolean_iff)
      "compare_timestamp" ({} : Options).compareTimestamp).1 (h.booleans _ (by decide))
    obtain ⟨size, hsize⟩ := (passes_iff_exists (fun _ => isBoolean_iff)
      "compare_size" ({} : Options).compareSize).1 (h.booleans _ (by decide))
    obtain ⟨checksum, hchecksum⟩ := (passes_iff_exists (fun _ => isBoolean_iff)
      "compare_checksum" ({} : Options).compareChecksum).1 (h.booleans _ (by decide))
    obtain ⟨patterns, hpatterns⟩ := (passes_iff_exists (fun _ => isTextList_iff)
      "exclude_patterns" ({} : Options).excludePatterns).1 h.patterns
    obtain ⟨d, hdirection⟩ := (passes_iff_exists (fun _ => isDirection_iff)
      "direction" ({} : Options).direction).1 h.direction
    exact ⟨h.known, ⟨timestamp, size, checksum, patterns, d⟩, ofFields_eq_ok_iff.2
      ⟨takes_iff.2 htimestamp, takes_iff.2 hsize, takes_iff.2 hchecksum, takes_iff.2 hpatterns,
        takes_iff.2 hdirection⟩⟩
  · rintro ⟨hknown, o, ho⟩
    obtain ⟨htimestamp, hsize, hchecksum, hpatterns, hdirection⟩ := ofFields_eq_ok_iff.1 ho
    have hbool : ∀ {name : String} {value : Options → Bool},
        o.Takes fields name (.bool <| value ·) → passes fields isBoolean name = true :=
      fun h => (passes_iff_exists (fun _ => isBoolean_iff) _ _).2 ⟨_, takes_iff.1 h⟩
    refine ⟨hknown, ?_, ?_, ?_⟩
    · rw [booleanNames]
      simp only [List.forall_mem_cons]
      exact ⟨hbool htimestamp, hbool hsize, hbool hchecksum, List.forall_mem_nil _⟩
    · exact (passes_iff_exists (fun _ => isTextList_iff) _ _).2 ⟨_, takes_iff.1 hpatterns⟩
    · exact (passes_iff_exists (fun _ => isDirection_iff) _ _).2 ⟨_, takes_iff.1 hdirection⟩

theorem IsValid.exists_ofFields (h : IsValid fields) : ∃ o, ofFields fields = .ok o :=
  (isValid_iff.1 h).2

/-! ## Loading a file -/

/-- **What is loaded from a file** is read from its valid table, which is empty if the file
goes without. -/
theorem load_eq_ok_iff {runtime : Runtime} {path : String} {state : FileState} {o : Options} :
    load runtime path state = .ok o ↔ ∃ text document fields, state.readText = .ok text ∧
      Toml.read runtime.tomlRoom text = .ok document ∧
      Fields.getD document tableName (.table []) = .table fields ∧
      IsValid fields ∧ o.IsReadFrom fields := by
  constructor
  · intro h
    simp only [load, Sequence.bind_eq_ok_iff, Sequence.mapError_eq_ok_iff] at h
    obtain ⟨text, htext, document, hdocument, h⟩ := h
    cases htable : Fields.getD document tableName (.table []) with
    | table fields =>
      rw [htable] at h
      simp only [Sequence.bind_eq_ok_iff, Sequence.mapError_eq_ok_iff] at h
      obtain ⟨_, hvalid, hread⟩ := h
      exact ⟨text, document, fields, htext, hdocument, htable, validate_eq_ok_iff.1 hvalid,
        ofFields_eq_ok_iff.1 hread⟩
    | _ => rw [htable] at h; cases h
  · rintro ⟨text, document, fields, htext, hdocument, htable, hvalid, hread⟩
    simp only [load, Sequence.bind_eq_ok_iff, Sequence.mapError_eq_ok_iff]
    refine ⟨text, htext, document, hdocument, ?_⟩
    rw [htable]
    simp only [Sequence.bind_eq_ok_iff, Sequence.mapError_eq_ok_iff]
    exact ⟨(), validate_eq_ok_iff.2 hvalid, ofFields_eq_ok_iff.2 hread⟩

end Reconcile.Options
