import Reconcile.Inventory.Document
import Reconcile.Proofs.Document.Record
import Reconcile.Proofs.Sequence

/-!
# The fields of an entry and their faults

What is asked of a field is a rule, which says when the field has a fault and in which
words (`FieldRule.Fault`). A reader that follows the rule reports that fault, whether the
field must be there (`FieldRule.reports_required`) or not
(`FieldRule.reports_optional`).
-/

namespace Reconcile

/-- What is asked of a field of a record. -/
structure FieldRule where
  name : String
  /-- Whether the field must be there. -/
  isRequired : Bool
  /-- The kinds of value that it may have. -/
  kinds : List Kind
  /-- Whether a text in it must be a time stamp. -/
  isTimestamp : Bool := false

namespace FieldRule

/-- What is wrong with the value of a field, in words. -/
inductive ValueFault (rule : FieldRule) : Value → String → Prop
  | kind {v : Value} (h : v.kind ∉ rule.kinds) :
    ValueFault rule v (rule.name ++ " has unexpected type " ++ v.kind.name)
  | timestamp {s : Text} {error : Time.Timestamp.ReadError} (hrule : rule.isTimestamp = true)
    (h : Time.Timestamp.read s = .error error) : ValueFault rule (.text s) error.message

/-- What is wrong with a field, in words. -/
inductive Fault (fields : Fields) (rule : FieldRule) : String → Prop
  | missing (hrule : rule.isRequired = true) (h : Keyed.get? fields rule.name = none) :
    Fault fields rule ("missing field '" ++ rule.name ++ "'")
  | value {v : Value} {text : String} (hv : Keyed.get? fields rule.name = some v)
    (h : rule.ValueFault v text) : Fault fields rule text

/-- A reader follows a rule if it reports the faults of every value. -/
structure IsFollowedBy {γ : Type} (rule : FieldRule) (check : Value → Except Malformed γ) :
    Prop where
  refused : ∀ v fault, check v = .error fault → rule.ValueFault v (Inventory.entryMessage fault)
  taken : ∀ v c, check v = .ok c → ∀ text, ¬rule.ValueFault v text

variable {γ : Type} {rule : FieldRule} {check : Value → Except Malformed γ} {fields : Fields}

/-! ## Readers that follow rules -/

/-- A reader that goes by the kind of a value alone. -/
theorem isFollowedBy_of_kind (hplain : rule.isTimestamp = false)
    (htaken : ∀ v c, check v = .ok c → v.kind ∈ rule.kinds)
    (hrefused : ∀ v fault, check v = .error fault →
      v.kind ∉ rule.kinds ∧ fault = .unexpectedKind rule.name v.kind) :
    rule.IsFollowedBy check := by
  constructor
  · intro v fault hfault
    obtain ⟨hkind, rfl⟩ := hrefused v fault hfault
    exact .kind hkind
  · rintro v c hc _ (hkind | ⟨hstamp, -⟩)
    · exact hkind (htaken v c hc)
    · rw [hplain] at hstamp
      cases hstamp

theorem isFollowedBy_toText (hkinds : rule.kinds = [.text]) (hplain : rule.isTimestamp = false) :
    rule.IsFollowedBy (Value.toText rule.name) := by
  refine isFollowedBy_of_kind hplain ?_ ?_ <;> intro v <;> rw [hkinds] <;>
    cases v <;> simp [Value.kind, Value.toText, eq_comm]

theorem isFollowedBy_toInt (hkinds : rule.kinds = [.int]) (hplain : rule.isTimestamp = false) :
    rule.IsFollowedBy (Value.toInt rule.name) := by
  refine isFollowedBy_of_kind hplain ?_ ?_ <;> intro v <;> rw [hkinds] <;>
    cases v <;> simp [Value.kind, Value.toInt, eq_comm]

theorem isFollowedBy_toBool (hkinds : rule.kinds = [.bool]) (hplain : rule.isTimestamp = false) :
    rule.IsFollowedBy (Value.toBool rule.name) := by
  refine isFollowedBy_of_kind hplain ?_ ?_ <;> intro v <;> rw [hkinds] <;>
    cases v <;> simp [Value.kind, Value.toBool, eq_comm]

theorem isFollowedBy_toText? (hkinds : rule.kinds = [.null, .text])
    (hplain : rule.isTimestamp = false) : rule.IsFollowedBy (Value.toText? rule.name) := by
  refine isFollowedBy_of_kind hplain ?_ ?_ <;> intro v <;> rw [hkinds] <;>
    cases v <;> simp [Value.kind, Value.toText?, eq_comm]

/-- A time stamp goes by the kind of its value, and a text by what it says. -/
theorem isFollowedBy_toTimestamp? (hkinds : rule.kinds = [.null, .text])
    (hstamp : rule.isTimestamp = true) : rule.IsFollowedBy (Value.toTimestamp? rule.name) := by
  constructor
  · intro v fault hfault
    by_cases hkind : v.kind ∈ rule.kinds
    · rw [hkinds] at hkind
      cases v with
      | text s =>
        rw [Value.toTimestamp?] at hfault
        cases hread : Time.Timestamp.read s with
        | ok t =>
          rw [hread] at hfault
          cases hfault
        | error error =>
          rw [hread] at hfault
          obtain rfl := Except.error.inj hfault
          exact .timestamp hstamp hread
      | null => cases hfault
      | _ => simp [Value.kind] at hkind
    · have hunexpected : fault = .unexpectedKind rule.name v.kind := by
        rw [hkinds] at hkind
        cases v with
        | text s => simp [Value.kind] at hkind
        | null => simp [Value.kind] at hkind
        | _ => exact (Except.error.inj hfault).symm
      rw [hunexpected]
      exact .kind hkind
  · intro v t ht text hfault
    rcases Value.toTimestamp?_eq_ok_iff.1 ht with ⟨rfl, -⟩ | ⟨s, u, rfl, hu, -⟩
    · cases hfault with
      | kind hkind => simp [hkinds, Value.kind] at hkind
    · cases hfault with
      | kind hkind => simp [hkinds, Value.kind] at hkind
      | timestamp _ hread =>
        rw [hu] at hread
        cases hread

/-! ## Fields -/

theorem reports_value {v : Value} (hcheck : rule.IsFollowedBy check)
    (hv : Keyed.get? fields rule.name = some v) :
    Sequence.Reports (Fault fields) Inventory.entryMessage [rule] (check v) := by
  refine Sequence.reports_singleton (fun fault h => .value hv (hcheck.refused v fault h)) ?_
  rintro c hc text (⟨-, hnone⟩ | ⟨hw, hfault⟩)
  · rw [hv] at hnone
    cases hnone
  · rw [hv] at hw
    obtain rfl := Option.some.inj hw
    exact hcheck.taken v c hc text hfault

/-- A field that must be there. -/
theorem reports_required (rule : FieldRule) (hcheck : rule.IsFollowedBy check)
    (hrule : rule.isRequired = true) (hname : Text.quote rule.name = "'" ++ rule.name ++ "'") :
    Sequence.Reports (Fault fields) Inventory.entryMessage [rule]
      (fields.required rule.name >>= check) := by
  rw [Fields.required]
  cases hv : Keyed.get? fields rule.name with
  | some v => exact reports_value hcheck hv
  | none =>
    have hmessage : Inventory.entryMessage (.missingField rule.name) =
        "missing field '" ++ rule.name ++ "'" := by
      show "missing field " ++ Text.quote rule.name = _
      have hmark : "missing field " ++ "'" = "missing field '" := by decide
      rw [hname, ← hmark, String.append_assoc, String.append_assoc, String.append_assoc]
    refine Sequence.reports_error ?_
    rw [hmessage]
    exact .missing hrule hv

/-- A field with a default, which has no fault. -/
theorem reports_optional (rule : FieldRule) (hcheck : rule.IsFollowedBy check)
    (hrule : rule.isRequired = false) {default : Value} {c : γ}
    (hdefault : check default = .ok c) :
    Sequence.Reports (Fault fields) Inventory.entryMessage [rule]
      (check (fields.getD rule.name default)) := by
  rw [Fields.getD]
  cases hv : Keyed.get? fields rule.name with
  | some v => exact reports_value hcheck hv
  | none =>
    rw [Option.getD_none, hdefault]
    refine Sequence.reports_singleton (by rintro _ ⟨⟩) ?_
    rintro _ - text (⟨hrequired, -⟩ | ⟨hv', -⟩)
    · rw [hrule] at hrequired
      cases hrequired
    · rw [hv] at hv'
      cases hv'

end FieldRule

end Reconcile
