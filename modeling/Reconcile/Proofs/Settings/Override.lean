import Mathlib.Data.List.Basic
import Reconcile.Proofs.Keyed
import Reconcile.Proofs.Options.Validation
import Reconcile.Settings.Override

/-!
# What an override does

What overrides do to settings is said name by name: they give a value to a name, or null, or
nothing (`given`). Whether they are accepted does not depend on the settings: they are refused
for the first fault that they have (`override_eq_error_iff`). If they are accepted, each
setting takes the value that they give to it (`exists_override`).
-/

namespace Reconcile.Settings

open Options (fieldNames)

/-! ## What overrides say -/

/-- The fields of overrides that are not null. -/
def changes (overrides : Fields) : Fields := overrides.filter (!·.2.isNull)

/-- The value that overrides give to a name. Null gives none. -/
def given (overrides : Fields) (name : Text) : Option Value :=
  (Keyed.get? overrides name).filter (!·.isNull)

/-- A map of overrides: a name stands in it once, and the value that it gives to an option is
of the type of the option. A direction may be any text. -/
structure IsTyped (overrides : Fields) : Prop where
  nodup : (Keyed.keys overrides).Nodup
  flags : ∀ name ∈ Options.booleanNames, ∀ v ∈ given overrides name, ∃ b, v = .bool b
  patterns : ∀ v ∈ given overrides "exclude_patterns",
    ∃ patterns : List Text, v = .list (patterns.map .text)
  direction : ∀ v ∈ given overrides "direction", ∃ written, v = .text written

/-- The error for a value under a name that is none of an option. -/
def unknownError (name : Text) : OverrideError :=
  if name = "self" then .reservedName "CompareOptions.__init__" "self" else .unknownOption name

/-- A field gives a value to a name that is none of an option. -/
def IsUnknown (pair : Text × Value) (e : OverrideError) : Prop :=
  (pair.2.isNull = false ∧ pair.1 ∉ fieldNames) ∧ unknownError pair.1 = e

/-- Why overrides are refused. The name of what is overridden is looked for first, even if its
value is null, then the direction is looked at, and then the first of the unknown names. -/
inductive Refuses (overrides : Fields) : OverrideError → Prop
  | reserved (h : ("options" : Text) ∈ Keyed.keys overrides) :
    Refuses overrides (.reservedName "options_with_overrides" "options")
  | direction {written : Text} (h : ("options" : Text) ∉ Keyed.keys overrides)
    (hgiven : given overrides "direction" = some (.text written))
    (hnone : ∀ d : Direction, written ≠ d.name) :
    Refuses overrides (.malformed (.unknownName .direction (.text written)))
  | unknown {e : OverrideError} (h : ("options" : Text) ∉ Keyed.keys overrides)
    (hdirection : ∀ v ∈ given overrides "direction", ∃ d : Direction, v = .text d.name)
    (hfirst : Sequence.IsFirst IsUnknown overrides e) : Refuses overrides e

/-- Whether overrides are accepted. -/
def accepts (overrides : Fields) : Bool :=
  ("options" : Text) ∉ Keyed.keys overrides &&
    (given overrides "direction").all Options.isDirection &&
    overrides.all fun pair => pair.2.isNull || pair.1 ∈ fieldNames

/-- The settings as fields. -/
def fields (s : Settings) : Fields :=
  [("compare_timestamp", s.compareTimestamp), ("compare_size", s.compareSize),
    ("compare_checksum", s.compareChecksum), ("exclude_patterns", .list s.excludePatterns),
    ("direction", .text s.direction.name)]

/-- The value of the setting of a name. -/
def field (s : Settings) (name : Text) : Option Value := Keyed.get? s.fields name

variable {overrides first second : Fields} {s s' : Settings} {name : Text} {e : OverrideError}

theorem isTyped_iff : IsTyped overrides ↔ (Keyed.keys overrides).Nodup ∧
    (∀ name ∈ Options.booleanNames, (given overrides name).all Options.isBoolean = true) ∧
    (given overrides "exclude_patterns").all Options.isTextList = true ∧
    (given overrides "direction").all Options.isText = true := by
  simp only [Option.all_eq_true, Options.isBoolean_iff, Options.isTextList_iff,
    Options.isText_iff]
  exact ⟨fun h => ⟨h.nodup, h.flags, h.patterns, h.direction⟩,
    fun ⟨hnodup, hflags, hpatterns, hdirection⟩ => ⟨hnodup, hflags, hpatterns, hdirection⟩⟩

instance : DecidablePred IsTyped := fun _ => decidable_of_iff _ isTyped_iff.symm

theorem accepts_iff :
    accepts overrides = true ↔ ("options" : Text) ∉ Keyed.keys overrides ∧
      (∀ v ∈ given overrides "direction", ∃ d : Direction, v = .text d.name) ∧
      ∀ pair ∈ overrides, pair.2.isNull = true ∨ pair.1 ∈ fieldNames := by
  simp only [accepts, Bool.and_eq_true, Bool.or_eq_true, decide_eq_true_iff, List.all_eq_true,
    Option.all_eq_true, Options.isDirection_iff, Option.mem_def, and_assoc]

/-! ## One override -/

theorem get?_changes (h : (Keyed.keys overrides).Nodup) (name : Text) :
    Keyed.get? (changes overrides) name = given overrides name :=
  Keyed.get?_filter h (!·.isNull) name

theorem override_of_mem (h : ("options" : Text) ∈ Keyed.keys overrides) :
    s.override overrides = .error (.reservedName "options_with_overrides" "options") := by
  rw [override, if_pos (Keyed.mem_keys_iff.1 h)]
  rfl

/-- Overrides without the reserved name: patterns, direction and names are looked at in turn. -/
theorem override_of_notMem (h : ("options" : Text) ∉ Keyed.keys overrides) :
    let fields := changes overrides
    s.override overrides =
      changed fields "exclude_patterns" s.excludePatterns Value.members >>= fun patterns =>
      changed fields "direction" s.direction Value.toDirection >>= fun direction =>
      unknownField fields >>= fun _ =>
      .ok {
        compareTimestamp := (Keyed.get? fields "compare_timestamp").getD s.compareTimestamp
        compareSize := (Keyed.get? fields "compare_size").getD s.compareSize
        compareChecksum := (Keyed.get? fields "compare_checksum").getD s.compareChecksum
        excludePatterns := patterns
        direction } := by
  rw [override, if_neg fun hsome => h (Keyed.mem_keys_iff.2 hsome)]
  rfl

/-- A field whose values all have a form is read as what they hold, or keeps what it had. -/
theorem exists_changed {α : Type} {fields : Fields} {name : String} {form : α → Value}
    {read : Value → Except Malformed α} (hread : ∀ a, read (form a) = .ok a)
    (h : ∀ v ∈ Keyed.get? fields name, ∃ a, v = form a) (default : α) :
    ∃ a, changed fields name default read = .ok a ∧
      some (form a) = (Keyed.get? fields name).or (some (form default)) := by
  rw [changed]
  cases hget : Keyed.get? fields name with
  | none => exact ⟨default, rfl, rfl⟩
  | some v =>
    obtain ⟨a, rfl⟩ := h v hget
    refine ⟨a, ?_, rfl⟩
    simp only [hread]
    rfl

theorem unknownField_eq (fields : Fields) :
    unknownField fields = ((fields.find? (·.1 ∉ fieldNames)).elim (.ok ()) fun pair =>
      .error (unknownError pair.1)) := by
  rw [unknownField]
  cases fields.find? (·.1 ∉ fieldNames) with
  | none => rfl
  | some pair =>
    obtain ⟨name, v⟩ := pair
    by_cases hself : name = ("self" : Text)
    · subst hself
      rfl
    · simp [unknownError, hself]

theorem find?_changes (overrides : Fields) :
    (changes overrides).find? (·.1 ∉ fieldNames) =
      overrides.find? fun pair => !pair.2.isNull && decide (pair.1 ∉ fieldNames) := by
  rw [changes, List.find?_filter]
  simp only [Bool.decide_and, Bool.decide_eq_true]

theorem isFirst_isUnknown_iff :
    Sequence.IsFirst IsUnknown overrides e ↔
      unknownField (changes overrides) = .error e := by
  have hunknown : ∀ (pair : Text × Value) (e : OverrideError), IsUnknown pair e ↔
      (!pair.2.isNull && decide (pair.1 ∉ fieldNames)) = true ∧ unknownError pair.1 = e := by
    intro pair e
    simp only [IsUnknown, Bool.and_eq_true, Bool.not_eq_true', decide_eq_true_iff]
  rw [Sequence.isFirst_iff_find? hunknown, unknownField_eq, find?_changes]
  cases overrides.find? fun pair => !pair.2.isNull && decide (pair.1 ∉ fieldNames) <;> simp

theorem unknownField_eq_ok_iff :
    unknownField (changes overrides) = .ok () ↔
      ∀ pair ∈ overrides, pair.2.isNull = true ∨ pair.1 ∈ fieldNames := by
  have hnone : unknownField (changes overrides) = .ok () ↔
      (overrides.find? fun pair => !pair.2.isNull && decide (pair.1 ∉ fieldNames)) = none := by
    rw [unknownField_eq, find?_changes]
    cases overrides.find? fun pair => !pair.2.isNull && decide (pair.1 ∉ fieldNames) <;> simp
  rw [hnone, List.find?_eq_none]
  refine forall₂_congr fun pair _ => ?_
  rw [Bool.and_eq_true, not_and_or, Bool.not_eq_true', Bool.not_eq_false, decide_eq_true_iff,
    not_not]

theorem exists_changed_patterns (h : IsTyped overrides) (s : Settings) :
    ∃ patterns, changed (changes overrides) "exclude_patterns" s.excludePatterns
        Value.members = .ok patterns ∧
      some (.list patterns) =
        (given overrides "exclude_patterns").or (some (.list s.excludePatterns)) := by
  rw [← get?_changes h.nodup]
  refine exists_changed Value.members_list (fun v hv => ?_) s.excludePatterns
  rw [get?_changes h.nodup] at hv
  obtain ⟨patterns, rfl⟩ := h.patterns v hv
  exact ⟨_, rfl⟩

theorem exists_changed_direction (h : IsTyped overrides) (s : Settings)
    (hdirection : ∀ v ∈ given overrides "direction", ∃ d : Direction, v = .text d.name) :
    ∃ d, changed (changes overrides) "direction" s.direction
        Value.toDirection = .ok d ∧
      some (.text d.name) = (given overrides "direction").or (some (.text s.direction.name)) := by
  rw [← get?_changes h.nodup] at hdirection ⊢
  exact exists_changed (fun d => Options.toDirection_eq_ok_iff.2 rfl) hdirection s.direction

theorem toDirection_eq_error {written : Text} (h : ∀ d : Direction, written ≠ d.name) :
    (Value.text written).toDirection = .error (.unknownName .direction (.text written)) := by
  have hnone : Direction.ofName? written = none :=
    Option.eq_none_iff_forall_ne_some.2 fun d hd => h d (Options.ofName?_eq_some_iff.1 hd)
  rw [Value.toDirection, Value.toWord]
  simp only [hnone]

/-- **Overrides that are accepted** put in what they give and leave the rest. -/
theorem exists_override (h : IsTyped overrides) (haccepts : accepts overrides = true)
    (s : Settings) :
    ∃ s', s.override overrides = .ok s' ∧
      ∀ name ∈ fieldNames, s'.field name = (given overrides name).or (s.field name) := by
  obtain ⟨hoptions, hdirection, hnames⟩ := accepts_iff.1 haccepts
  obtain ⟨patterns, hpatterns, hpatterns'⟩ := exists_changed_patterns h s
  obtain ⟨d, hd, hd'⟩ := exists_changed_direction h s hdirection
  have hnames' := unknownField_eq_ok_iff.2 hnames
  refine ⟨_, by rw [override_of_notMem hoptions, hpatterns, hd, hnames']; rfl, ?_⟩
  have hflag : ∀ (name : Text) (v : Value),
      some ((Keyed.get? (changes overrides) name).getD v) =
        (given overrides name).or (some v) := by
    intro name v
    rw [get?_changes h.nodup]
    cases given overrides name <;> rfl
  simp only [fieldNames, List.forall_mem_cons, List.not_mem_nil, false_imp_iff, implies_true,
    and_true]
  exact ⟨hflag _ _, hflag _ _, hflag _ _, hpatterns', hd'⟩

/-- **Overrides that are refused** are refused for the first fault, whatever the settings. -/
theorem override_of_refuses (h : IsTyped overrides) (hrefuses : Refuses overrides e)
    (s : Settings) : s.override overrides = .error e := by
  cases hrefuses with
  | reserved hoptions => exact override_of_mem hoptions
  | direction hoptions hgiven hnone =>
    obtain ⟨patterns, hpatterns, -⟩ := exists_changed_patterns h s
    rw [← get?_changes h.nodup] at hgiven
    rw [override_of_notMem hoptions, hpatterns]
    simp only [changed, hgiven, toDirection_eq_error hnone]
    rfl
  | unknown hoptions hdirection hfirst =>
    obtain ⟨patterns, hpatterns, -⟩ := exists_changed_patterns h s
    obtain ⟨d, hd, -⟩ := exists_changed_direction h s hdirection
    rw [override_of_notMem hoptions, hpatterns, hd, isFirst_isUnknown_iff.1 hfirst]
    rfl

theorem accepts_or_refuses (h : IsTyped overrides) :
    accepts overrides = true ∨ ∃ e, Refuses overrides e := by
  by_cases hoptions : ("options" : Text) ∈ Keyed.keys overrides
  · exact .inr ⟨_, .reserved hoptions⟩
  by_cases hdirection : ∀ v ∈ given overrides "direction", ∃ d : Direction, v = .text d.name
  · cases hunknown : unknownField (changes overrides) with
    | error e => exact .inr ⟨e, .unknown hoptions hdirection (isFirst_isUnknown_iff.2 hunknown)⟩
    | ok _ =>
      exact .inl (accepts_iff.2 ⟨hoptions, hdirection, unknownField_eq_ok_iff.1 hunknown⟩)
  · simp only [not_forall, not_exists] at hdirection
    obtain ⟨v, hv, hnone⟩ := hdirection
    obtain ⟨written, rfl⟩ := h.direction v hv
    exact .inr ⟨_, .direction hoptions hv fun d hd => hnone d (congrArg Value.text hd)⟩

/-- **A refusal does not depend on the settings**: it is the first fault that the overrides
have. -/
theorem override_eq_error_iff (h : IsTyped overrides) (s : Settings) :
    s.override overrides = .error e ↔ Refuses overrides e := by
  refine ⟨fun herror => ?_, fun hrefuses => override_of_refuses h hrefuses s⟩
  rcases accepts_or_refuses h with haccepts | ⟨e', hrefuses⟩
  · obtain ⟨s', hok, -⟩ := exists_override h haccepts s
    exact absurd (herror.symm.trans hok) (by rintro ⟨⟩)
  · have herror' := override_of_refuses h hrefuses s
    exact Except.error.inj (herror.symm.trans herror') ▸ hrefuses

theorem exists_override_iff (h : IsTyped overrides) (s : Settings) :
    (∃ s', s.override overrides = .ok s') ↔ accepts overrides = true := by
  constructor
  · rintro ⟨s', hok⟩
    refine (accepts_or_refuses h).resolve_right ?_
    rintro ⟨e, hrefuses⟩
    exact absurd (hok.symm.trans (override_of_refuses h hrefuses s)) (by rintro ⟨⟩)
  · intro haccepts
    obtain ⟨s', hok, -⟩ := exists_override h haccepts s
    exact ⟨s', hok⟩

theorem field_of_override (h : IsTyped overrides) (hok : s.override overrides = .ok s')
    (hname : name ∈ fieldNames) : s'.field name = (given overrides name).or (s.field name) := by
  obtain ⟨s'', hok', hfields⟩ :=
    exists_override h ((exists_override_iff h s).1 ⟨s', hok⟩) s
  rw [Except.ok.inj (hok.symm.trans hok'), hfields name hname]

/-- Settings are the values of their names. -/
theorem eq_of_field_eq (h : ∀ name ∈ fieldNames, s.field name = s'.field name) : s = s' := by
  simp only [fieldNames, List.forall_mem_cons, List.not_mem_nil, false_imp_iff, implies_true,
    and_true] at h
  obtain ⟨htimestamp, hsize, hchecksum, hpatterns, hdirection⟩ := h
  obtain ⟨timestamp, size, checksum, patterns, d⟩ := s
  obtain ⟨timestamp', size', checksum', patterns', d'⟩ := s'
  obtain rfl : timestamp = timestamp' := Option.some.inj htimestamp
  obtain rfl : size = size' := Option.some.inj hsize
  obtain rfl : checksum = checksum' := Option.some.inj hchecksum
  obtain rfl : patterns = patterns' := Value.list.inj (Option.some.inj hpatterns)
  obtain rfl : d = d' :=
    Options.name_injective (Text.ofString_inj.1 (Value.text.inj (Option.some.inj hdirection)))
  rfl

/-! ## Null -/

/-- **Null has no effect** under any name but the reserved one. -/
theorem override_null (h : name ≠ ("options" : Text)) (s : Settings) (before after : Fields) :
    s.override (before ++ (name, .null) :: after) = s.override (before ++ after) := by
  have hkeys : ("options" : Text) ∈ Keyed.keys (before ++ (name, .null) :: after) ↔
      ("options" : Text) ∈ Keyed.keys (before ++ after) := by
    simp [Keyed.keys, h.symm]
  have hchanges : changes (before ++ (name, Value.null) :: after) = changes (before ++ after) := by
    rw [changes, changes, List.filter_append, List.filter_append, List.filter_cons_of_neg]
    simp [Value.isNull]
  by_cases hoptions : ("options" : Text) ∈ Keyed.keys (before ++ after)
  · rw [override_of_mem hoptions, override_of_mem (hkeys.2 hoptions)]
  · rw [override_of_notMem hoptions, override_of_notMem (mt hkeys.1 hoptions), hchanges]

end Reconcile.Settings
