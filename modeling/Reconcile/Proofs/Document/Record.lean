import Reconcile.Document.Record
import Reconcile.Proofs.Sequence

/-!
# What the readers of fields take

Each reader of a field takes the values of its kind and no others.
-/

namespace Reconcile

variable {fields : Fields} {name : String} {v : Value}

theorem Fields.required_eq_ok_iff :
    fields.required name = .ok v ↔ Keyed.get? fields name = some v := by
  rw [required]
  cases Keyed.get? fields name with
  | none => simp
  | some w => simp

/-- A field is taken as it is, or has its default where it is absent. -/
theorem Fields.getD_eq_iff {default : Value} :
    fields.getD name default = v ↔
      Keyed.get? fields name = some v ∨ Keyed.get? fields name = none ∧ default = v := by
  rw [getD]
  cases Keyed.get? fields name with
  | none => simp
  | some w => simp

namespace Value

theorem toText_eq_ok_iff {s : Text} : v.toText name = .ok s ↔ v = .text s := by
  cases v <;> simp [toText]

theorem toInt_eq_ok_iff {n : Int} : v.toInt name = .ok n ↔ v = .int n := by
  cases v <;> simp [toInt]

theorem toBool_eq_ok_iff {b : Bool} : v.toBool name = .ok b ↔ v = .bool b := by
  cases v <;> simp [toBool]

theorem toText?_eq_ok_iff {s : Option Text} :
    v.toText? name = .ok s ↔ v = .null ∧ s = none ∨ ∃ t, v = .text t ∧ s = some t := by
  cases v <;> simp [toText?, eq_comm]

theorem toTimestamp?_eq_ok_iff {t : Option Time.Timestamp} :
    v.toTimestamp? name = .ok t ↔
      v = .null ∧ t = none ∨ ∃ s u, v = .text s ∧ Time.Timestamp.read s = .ok u ∧ t = some u := by
  cases v with
  | text s =>
    rw [toTimestamp?, Sequence.mapError_eq_ok_iff]
    cases hread : Time.Timestamp.read s with
    | error fault => simp [Except.map, hread]
    | ok u => simp [Except.map, hread, eq_comm]
  | null => simp [toTimestamp?, eq_comm]
  | _ => simp [toTimestamp?]

end Value

/-! ## Fields that may be absent -/

namespace Fields

theorem toBool_getD_eq_ok_iff {default b : Bool} :
    (fields.getD name (.bool default)).toBool name = .ok b ↔
      Keyed.get? fields name = some (.bool b) ∨ Keyed.get? fields name = none ∧ b = default := by
  rw [Value.toBool_eq_ok_iff, getD_eq_iff, Value.bool.injEq, eq_comm (a := default)]

/-- The field is absent or null. -/
def IsUnset (fields : Fields) (name : String) : Prop :=
  Keyed.get? fields name = none ∨ Keyed.get? fields name = some .null

theorem getD_null_eq_null_iff : fields.getD name .null = .null ↔ fields.IsUnset name := by
  simp [getD_eq_iff, IsUnset, or_comm]

theorem getD_null_eq_text_iff {s : Text} :
    fields.getD name .null = .text s ↔ Keyed.get? fields name = some (.text s) := by
  simp [getD_eq_iff]

theorem toText?_getD_eq_ok_iff {s : Option Text} :
    (fields.getD name .null).toText? name = .ok s ↔
      fields.IsUnset name ∧ s = none ∨
        ∃ t, Keyed.get? fields name = some (.text t) ∧ s = some t := by
  simp only [Value.toText?_eq_ok_iff, getD_null_eq_null_iff, getD_null_eq_text_iff]

theorem toTimestamp?_getD_eq_ok_iff {t : Option Time.Timestamp} :
    (fields.getD name .null).toTimestamp? name = .ok t ↔
      fields.IsUnset name ∧ t = none ∨
        ∃ s u, Keyed.get? fields name = some (.text s) ∧ Time.Timestamp.read s = .ok u ∧
          t = some u := by
  simp only [Value.toTimestamp?_eq_ok_iff, getD_null_eq_null_iff, getD_null_eq_text_iff]

end Fields

end Reconcile
