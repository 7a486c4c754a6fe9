import Reconcile.Proofs.Status

/-!
# The clock decides before the sizes

The status of a path that both sides have is the one the clocks give, where they decide
(`byClock`), and else the one the sizes give (`ofEntries_eq_getD`). It comes to the same if
the sizes are looked at first and the clocks only choose between a newer side and what is
left to be said (`ofEntries_eq_sizesFirst`). Main statement: `ofSides_precedence`.
-/

namespace Reconcile.Status

variable {o : Options} {here there : Entry}

/-- The status that the clocks give, where they decide. -/
def byClock (o : Options) (here there : Entry) : Option Status :=
  if o.compareTimestamp then
    match Time.clockOrder Time.defaultTolerance here.modified there.modified with
    | .localAfter => some .localNewer
    | .remoteAfter => some .remoteNewer
    | _ => none
  else none

/-! ## Two ways to the status -/

theorem ofEntries_eq_getD (o : Options) (here there : Entry) :
    ofEntries o here there = (byClock o here there).getD (bySize o here there) := by
  rw [ofEntries_eq, byClock]
  cases o.compareTimestamp with
  | false => rfl
  | true =>
    cases Time.clockOrder Time.defaultTolerance here.modified there.modified <;> rfl

/-- Sizes that differ, if they count, only change what is said where the clocks do not
decide. -/
theorem ofEntries_eq_sizesFirst (o : Options) (here there : Entry) :
    ofEntries o here there =
      if o.compareSize && here.size != there.size then
        (byClock o here there).getD .sizeMismatch
      else (byClock o here there).getD .identical := by
  rw [ofEntries_eq_getD, bySize]
  split_ifs <;> rfl

theorem byClock_cases (o : Options) (here there : Entry) :
    byClock o here there = none ∨ byClock o here there = some .localNewer ∨
      byClock o here there = some .remoteNewer := by
  rw [byClock]
  split_ifs
  · split
    · exact .inr (.inl rfl)
    · exact .inr (.inr rfl)
    · exact .inl rfl
  · exact .inl rfl

/-! ## Where each status comes from -/

theorem ofEntries_eq_remoteNewer_iff :
    ofEntries o here there = .remoteNewer ↔
      o.compareTimestamp = true ∧ there.LaterThan here := by
  rw [ofEntries_swap o there here, swap_eq_iff]
  exact ofEntries_eq_localNewer_iff

/-- The clocks leave it open exactly when neither side is later by their word. -/
theorem byClock_eq_none_iff :
    byClock o here there = none ↔
      ¬(o.compareTimestamp = true ∧ here.LaterThan there) ∧
        ¬(o.compareTimestamp = true ∧ there.LaterThan here) := by
  rw [← ofEntries_eq_localNewer_iff, ← ofEntries_eq_remoteNewer_iff, ofEntries_eq_getD]
  rcases byClock_cases o here there with h | h | h
  · rcases bySize_cases o here there with hsize | hsize <;> simp [h, hsize]
  · simp [h]
  · simp [h]

theorem bySize_eq_sizeMismatch_iff :
    bySize o here there = .sizeMismatch ↔ o.compareSize = true ∧ here.size ≠ there.size := by
  rw [bySize, ← bne_iff_ne, ← Bool.and_eq_true]
  split_ifs with h <;> simp [h]

theorem bySize_eq_identical_iff :
    bySize o here there = .identical ↔ ¬(o.compareSize = true ∧ here.size ≠ there.size) := by
  rw [← bySize_eq_sizeMismatch_iff]
  rcases bySize_cases o here there with h | h <;> simp [h]

theorem ofEntries_eq_iff_bySize {s : Status} (hlocal : s ≠ .localNewer)
    (hremote : s ≠ .remoteNewer) :
    ofEntries o here there = s ↔ byClock o here there = none ∧ bySize o here there = s := by
  rw [ofEntries_eq_getD]
  rcases byClock_cases o here there with h | h | h
  · simp [h]
  · simp [h, hlocal.symm]
  · simp [h, hremote.symm]

/-! ## Looking at more -/

/-- What comes of looking at the sizes too. -/
theorem ofEntries_compareSize (o : Options) (here there : Entry) :
    let off := ofEntries { o with compareSize := false } here there
    let on := ofEntries { o with compareSize := true } here there
    on = off ∨ off = .identical ∧ on = .sizeMismatch := by
  intro off on
  have hoff : off = (byClock o here there).getD .identical := ofEntries_eq_sizesFirst _ _ _
  have hon : on = if here.size != there.size then (byClock o here there).getD .sizeMismatch
      else (byClock o here there).getD .identical := ofEntries_eq_sizesFirst _ _ _
  rw [hoff, hon]
  cases byClock o here there with
  | some s => exact .inl (ite_self s)
  | none =>
    split_ifs
    · exact .inr ⟨rfl, rfl⟩
    · exact .inl rfl

/-- What comes of looking at the clocks too. -/
theorem ofEntries_compareTimestamp (o : Options) (here there : Entry) :
    let off := ofEntries { o with compareTimestamp := false } here there
    let on := ofEntries { o with compareTimestamp := true } here there
    on = off ∨
      (off = .identical ∨ off = .sizeMismatch) ∧ (on = .localNewer ∨ on = .remoteNewer) := by
  intro off on
  have hoff : off = bySize o here there := ofEntries_eq_getD _ _ _
  have hon : on = (byClock { o with compareTimestamp := true } here there).getD
      (bySize o here there) := ofEntries_eq_getD _ _ _
  rw [hoff, hon]
  rcases byClock_cases { o with compareTimestamp := true } here there with h | h | h
  · exact .inl (by rw [h]; rfl)
  · exact .inr ⟨(bySize_cases o here there).symm, .inl (by rw [h]; rfl)⟩
  · exact .inr ⟨(bySize_cases o here there).symm, .inr (by rw [h]; rfl)⟩

/-- **The clock decides, then the sizes**: a side is newer if times count and its time is at
least three seconds later, whatever the sizes; else sizes that count and differ are a
mismatch; else the sides are identical. A path of one side only is just that, and nothing
is a conflict. So looking at the sizes too turns no answer but `identical` into another,
and looking at the clocks too only makes a side newer. -/
theorem ofSides_precedence (o : Options) :
    (∀ here there : Entry,
      let status := ofSides o (some here) (some there)
      let hereNewer := o.compareTimestamp = true ∧ here.LaterThan there
      let thereNewer := o.compareTimestamp = true ∧ there.LaterThan here
      let resized := o.compareSize = true ∧ here.size ≠ there.size
      (status = .localNewer ↔ hereNewer) ∧
      (status = .remoteNewer ↔ thereNewer) ∧
      (status = .sizeMismatch ↔ (¬hereNewer ∧ ¬thereNewer) ∧ resized) ∧
      (status = .identical ↔ (¬hereNewer ∧ ¬thereNewer) ∧ ¬resized)) ∧
    (∀ entry : Entry, ofSides o (some entry) none = .localOnly ∧
      ofSides o none (some entry) = .remoteOnly) ∧
    ∀ here there : Option Entry, ofSides o here there ≠ .conflict ∧
      (let off := ofSides { o with compareSize := false } here there
       let on := ofSides { o with compareSize := true } here there
       on = off ∨ off = .identical ∧ on = .sizeMismatch) ∧
      (let off := ofSides { o with compareTimestamp := false } here there
       let on := ofSides { o with compareTimestamp := true } here there
       on = off ∨
        (off = .identical ∨ off = .sizeMismatch) ∧ (on = .localNewer ∨ on = .remoteNewer)) := by
  refine ⟨?_, fun entry => ⟨rfl, rfl⟩, ?_⟩
  · intro here there
    refine ⟨ofEntries_eq_localNewer_iff, ofEntries_eq_remoteNewer_iff, ?_, ?_⟩
    · rw [← byClock_eq_none_iff, ← bySize_eq_sizeMismatch_iff]
      exact ofEntries_eq_iff_bySize (by decide) (by decide)
    · rw [← byClock_eq_none_iff, ← bySize_eq_identical_iff]
      exact ofEntries_eq_iff_bySize (by decide) (by decide)
  · intro here there
    refine ⟨ofSides_ne_conflict o here there, ?_⟩
    cases here with
    | none => cases there <;> exact ⟨.inl rfl, .inl rfl⟩
    | some e =>
      cases there with
      | none => exact ⟨.inl rfl, .inl rfl⟩
      | some e' => exact ⟨ofEntries_compareSize o e e', ofEntries_compareTimestamp o e e'⟩

end Reconcile.Status
