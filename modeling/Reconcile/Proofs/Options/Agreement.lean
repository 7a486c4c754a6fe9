import Mathlib.Data.List.Sort
import Reconcile.Proofs.Options.Validation

/-!
# Validation and reading agree

What a check finds wrong with a table is said of the table alone (`Check.Finds`): names
that are no options, or a field whose value has the wrong form. Validation reports the
first of the checks that finds something (`validate_eq_error_iff`), and it lets through
what can be read. Main statement: `validate_agrees`.
-/

namespace Reconcile.Options

/-! ## Checks -/

namespace Check

/-- What a check finds wrong with the fields of a table. -/
inductive Finds (fields : Fields) : Check → TableFault → Prop
  | names {unknown : List Text} (hsome : unknown ≠ []) (hsorted : unknown.Pairwise (· ≤ ·))
    (hall : unknown.Perm ((Keyed.keys fields).filter (· ∉ fieldNames))) :
    Finds fields names (.unknownOptions unknown)
  | boolean {name : String} {v : Value} (hv : Keyed.get? fields name = some v)
    (h : ∀ b, v ≠ .bool b) : Finds fields (boolean name) (.notBoolean name)
  | patterns {v : Value} (hv : Keyed.get? fields "exclude_patterns" = some v)
    (h : ∀ patterns : List Text, v ≠ .list (patterns.map .text)) :
    Finds fields patterns .patternsNotTexts
  | direction {v : Value} (hv : Keyed.get? fields "direction" = some v)
    (h : ∀ d : Direction, v ≠ .text d.name) : Finds fields direction .direction

variable {fields : Fields}

theorem unknownNames_eq_iff {unknown : List Text} :
    unknownNames fields = unknown ↔ unknown.Pairwise (· ≤ ·) ∧
      unknown.Perm ((Keyed.keys fields).filter (· ∉ fieldNames)) := by
  have hsorted : (unknownNames fields).Pairwise (· ≤ ·) := Sequence.pairwise_mergeSort_text id _
  have hperm : (unknownNames fields).Perm ((Keyed.keys fields).filter (· ∉ fieldNames)) :=
    List.mergeSort_perm _ _
  constructor
  · rintro rfl
    exact ⟨hsorted, hperm⟩
  · rintro ⟨hsorted', hperm'⟩
    exact (hperm.trans hperm'.symm).eq_of_pairwise (fun _ _ _ _ => Text.le_antisymm) hsorted
      hsorted'

/-- A field does not pass its test exactly if it has a value of another form. -/
theorem not_passes_iff {α : Type} {test : Value → Bool} {form : α → Value}
    (htest : ∀ v, test v = true ↔ ∃ a, v = form a) (name : String) :
    (!passes fields test name) = true ↔
      ∃ v, Keyed.get? fields name = some v ∧ ∀ a, v ≠ form a := by
  rw [passes, Bool.not_eq_true']
  cases Keyed.get? fields name with
  | none => simp
  | some v =>
    rw [Option.all_some, ← Bool.not_eq_true, htest]
    simp

theorem finds_iff {check : Check} {found : TableFault} :
    check.Finds fields found ↔ check.fails fields = true ∧ check.fault fields = found := by
  cases check with
  | names =>
    have hfails : names.fails fields = true ↔ unknownNames fields ≠ [] := by
      simp [fails]
    rw [hfails, fault]
    constructor
    · rintro ⟨hsome, hsorted, hall⟩
      obtain rfl := unknownNames_eq_iff.2 ⟨hsorted, hall⟩
      exact ⟨hsome, rfl⟩
    · rintro ⟨hsome, rfl⟩
      obtain ⟨hsorted, hall⟩ := unknownNames_eq_iff.1 (Eq.refl (unknownNames fields))
      exact .names hsome hsorted hall
  | boolean name =>
    rw [fails, fault, not_passes_iff fun _ => isBoolean_iff]
    constructor
    · rintro (_ | ⟨hv, h⟩)
      exact ⟨⟨_, hv, h⟩, rfl⟩
    · rintro ⟨⟨v, hv, h⟩, rfl⟩
      exact .boolean hv h
  | patterns =>
    rw [fails, fault, not_passes_iff fun _ => isTextList_iff]
    constructor
    · rintro (_ | _ | ⟨hv, h⟩)
      exact ⟨⟨_, hv, h⟩, rfl⟩
    · rintro ⟨⟨v, hv, h⟩, rfl⟩
      exact .patterns hv h
  | direction =>
    rw [fails, fault, not_passes_iff fun _ => isDirection_iff]
    constructor
    · rintro (_ | _ | _ | ⟨hv, h⟩)
      exact ⟨⟨_, hv, h⟩, rfl⟩
    · rintro ⟨⟨v, hv, h⟩, rfl⟩
      exact .direction hv h

end Check

/-! ## Validation -/

variable {fields : Fields}

theorem validate_eq_error_iff {found : TableFault} :
    validate fields = .error found ↔ Sequence.IsFirst (Check.Finds fields) checks found := by
  rw [Sequence.isFirst_iff_find? (R := Check.Finds fields) fun _ _ => Check.finds_iff,
    validate_eq_find?]
  cases checks.find? (·.fails fields) <;> simp

/-- **Validation and reading agree.** A table is valid exactly if it holds nothing but
options and can be read; what is read has each option from its field, or from the
defaults where the field is absent; and any other table is refused for the first fault
that a check finds. -/
theorem validate_agrees (fields : Fields) :
    (validate fields = .ok () ↔
      (∀ name ∈ Keyed.keys fields, name ∈ fieldNames) ∧ ∃ o, ofFields fields = .ok o) ∧
    (∀ o, ofFields fields = .ok o ↔ o.IsReadFrom fields) ∧
    ∀ found, validate fields = .error found ↔
      Sequence.IsFirst (Check.Finds fields) checks found :=
  ⟨validate_eq_ok_iff.trans isValid_iff, fun _ => ofFields_eq_ok_iff,
    fun _ => validate_eq_error_iff⟩

end Reconcile.Options
