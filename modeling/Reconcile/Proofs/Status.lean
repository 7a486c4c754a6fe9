import Reconcile.Comparison.Merge
import Reconcile.Proofs.Time.Clock

/-!
# How the status of a path comes about

What can be read off the status of two entries: which side is newer and by how
much, and which sides have the path at all. Exchanging the sides exchanges the
status (`ofSides_swap`), and an entry is identical to itself under all options
(`ofEntries_self`).
-/

namespace Reconcile

/-- The first entry was modified at least three seconds after the second. -/
def Entry.LaterThan (e e' : Entry) : Prop :=
  ∃ t u, e.modified = some t ∧ e'.modified = some u ∧
    3 * (Time.secondLength : Int) ≤ t.instant - u.instant

namespace Status

variable {o : Options} {here there : Entry}

/-- The status of two entries where the clock does not decide. -/
def bySize (o : Options) (here there : Entry) : Status :=
  if o.compareSize && here.size != there.size then .sizeMismatch else .identical

theorem bySize_swap (o : Options) (here there : Entry) :
    bySize o there here = (bySize o here there).swap := by
  have hsize : (there.size != here.size) = (here.size != there.size) := bne_comm
  rw [bySize, bySize, hsize]
  split_ifs <;> rfl

theorem bySize_cases (o : Options) (here there : Entry) :
    bySize o here there = .sizeMismatch ∨ bySize o here there = .identical := by
  rw [bySize]
  split_ifs
  · exact .inl rfl
  · exact .inr rfl

theorem ofEntries_eq (o : Options) (here there : Entry) :
    ofEntries o here there =
      if o.compareTimestamp then
        match Time.clockOrder Time.defaultTolerance here.modified there.modified with
        | .localAfter => .localNewer
        | .remoteAfter => .remoteNewer
        | _ => bySize o here there
      else bySize o here there := rfl

/-! ## Exchanging the sides -/

theorem swap_eq_iff {s s' : Status} : s.swap = s' ↔ s = s'.swap :=
  Function.Involutive.eq_iff swap_swap

theorem ofEntries_swap (o : Options) (here there : Entry) :
    ofEntries o there here = (ofEntries o here there).swap := by
  rw [ofEntries_eq, ofEntries_eq, bySize_swap,
    Time.clockOrder_swap (by decide) here.modified there.modified]
  cases o.compareTimestamp with
  | false => rfl
  | true =>
    cases Time.clockOrder Time.defaultTolerance here.modified there.modified <;> rfl

theorem ofSides_swap (o : Options) (here there : Option Entry) :
    ofSides o there here = (ofSides o here there).swap := by
  cases here with
  | none => cases there <;> rfl
  | some e =>
    cases there with
    | none => rfl
    | some e' => exact ofEntries_swap o e e'

/-! ## An entry against itself -/

theorem bySize_self (o : Options) (e : Entry) : bySize o e e = .identical := by
  simp [bySize]

theorem ofEntries_self (o : Options) (e : Entry) : ofEntries o e e = .identical := by
  rw [ofEntries_eq, bySize_self]
  rcases Time.clockOrder_self (show 0 ≤ Time.defaultTolerance by decide) e.modified with h | h
  · simp only [h, ite_self]
  · simp only [h, ite_self]

theorem ofSides_self (o : Options) (e : Option Entry) : ofSides o e e = .identical := by
  cases e with
  | none => rfl
  | some e => exact ofEntries_self o e

/-! ## Which sides have the path -/

theorem ofEntries_present (o : Options) (here there : Entry) :
    ofEntries o here there = .localNewer ∨ ofEntries o here there = .remoteNewer ∨
      ofEntries o here there = .sizeMismatch ∨ ofEntries o here there = .identical := by
  rw [ofEntries_eq]
  split_ifs
  · split
    · exact .inl rfl
    · exact .inr (.inl rfl)
    · exact .inr (.inr (bySize_cases o here there))
  · exact .inr (.inr (bySize_cases o here there))

theorem ofSides_eq_localOnly_iff {here there : Option Entry} :
    ofSides o here there = .localOnly ↔ here.isSome = true ∧ there = none := by
  cases here with
  | none => cases there <;> simp [ofSides]
  | some e =>
    cases there with
    | none => simp [ofSides]
    | some e' => rcases ofEntries_present o e e' with h | h | h | h <;> simp [ofSides, h]

theorem ofSides_eq_remoteOnly_iff {here there : Option Entry} :
    ofSides o here there = .remoteOnly ↔ here = none ∧ there.isSome = true := by
  rw [ofSides_swap o there here, swap_eq_iff, swap, ofSides_eq_localOnly_iff, and_comm]

/-- A status that asks for anything is that of a path some side has. -/
theorem isSome_of_ofSides_ne_identical {here there : Option Entry}
    (h : ofSides o here there ≠ .identical) : here.isSome = true ∨ there.isSome = true := by
  cases here with
  | some e => exact .inl rfl
  | none =>
    cases there with
    | some e => exact .inr rfl
    | none => exact absurd rfl h

theorem ofSides_ne_conflict (o : Options) (here there : Option Entry) :
    ofSides o here there ≠ .conflict := by
  cases here with
  | none => cases there <;> simp [ofSides]
  | some e =>
    cases there with
    | none => simp [ofSides]
    | some e' => rcases ofEntries_present o e e' with h | h | h | h <;> simp [ofSides, h]

/-! ## Which side is newer -/

theorem clockOrder_eq_localAfter_iff :
    Time.clockOrder Time.defaultTolerance here.modified there.modified = .localAfter ↔
      here.LaterThan there :=
  Time.clockOrder_eq_localAfter_iff (show 2 < 2 ^ 33 by norm_num)

theorem ofEntries_eq_localNewer_iff :
    ofEntries o here there = .localNewer ↔
      o.compareTimestamp = true ∧ here.LaterThan there := by
  rw [ofEntries_eq, ← clockOrder_eq_localAfter_iff]
  have hsize : bySize o here there ≠ .localNewer := by
    rcases bySize_cases o here there with h | h <;> simp [h]
  cases o.compareTimestamp with
  | false => simp [hsize]
  | true =>
    cases Time.clockOrder Time.defaultTolerance here.modified there.modified <;>
      simp [hsize]

theorem ofSides_eq_localNewer_iff {here there : Option Entry} :
    ofSides o here there = .localNewer ↔
      ∃ e e', here = some e ∧ there = some e' ∧ o.compareTimestamp = true ∧ e.LaterThan e' := by
  constructor
  · intro h
    cases here with
    | none => cases there <;> cases h
    | some e =>
      cases there with
      | none => cases h
      | some e' => exact ⟨e, e', rfl, rfl, ofEntries_eq_localNewer_iff.1 h⟩
  · rintro ⟨e, e', rfl, rfl, h⟩
    exact ofEntries_eq_localNewer_iff.2 h

end Status

end Reconcile
