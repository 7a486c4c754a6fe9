import Reconcile.Proofs.Inventory.Grammar
import Reconcile.Proofs.Plan.Output

/-!
# When an accepted inventory can be written again

A time stamp is accepted if the wall clock showed a date of the calendar, but it is
written in UTC, and its offset can carry it out of the calendar. That happens only
within a day of either end (`Time.Timestamp.inCalendar_of_margin`). Everything else that
is read from a file can be written, so there the time stamps alone decide. Main
statement: `accepted_writes_iff`.
-/

namespace Reconcile

/-! ## Time stamps -/

namespace Time.Timestamp

variable {t : Timestamp}

theorem inCalendar_of_offset_eq_none (h : t.offset = none) : t.InCalendar := by
  have hwall := t.wall_lt
  simp only [InCalendar, instant, h]
  constructor
  · exact Int.sub_nonneg_of_le (Int.natCast_nonneg _)
  · show (t.wall : Int) - 0 < wallLimit
    omega

/-- No offset carries a time across a whole day. -/
theorem inCalendar_of_margin (hfirst : dayLength ≤ t.wall)
    (hlast : t.wall + dayLength ≤ wallLimit) : t.InCalendar := by
  cases hoffset : t.offset with
  | none => exact inCalendar_of_offset_eq_none hoffset
  | some offset =>
    have hneg := offset.neg_lt
    have hlt := offset.lt
    simp only [InCalendar, instant, hoffset, Option.map_some, Option.getD_some]
    omega

end Time.Timestamp

theorem Entry.isDated_of_margin {e : Entry}
    (h : ∀ t ∈ e.modified, t.offset = none ∨
      (Time.dayLength ≤ t.wall ∧ t.wall + Time.dayLength ≤ Time.wallLimit)) : e.IsDated := by
  intro t ht
  rcases h t ht with hnone | ⟨hfirst, hlast⟩
  · exact Time.Timestamp.inCalendar_of_offset_eq_none hnone
  · exact Time.Timestamp.inCalendar_of_margin hfirst hlast

/-! ## What is accepted -/

namespace Inventory

/-- Each entry of an accepted inventory is read from a field. -/
theorem exists_fields_of_ofValue {v : Value} {i : Inventory} (h : ofValue v = .ok i) :
    ∃ fields, v = .table fields ∧
      ∀ pair ∈ i.entries, ∃ w, (pair.1, w) ∈ fields ∧ pair.2.IsSpelledBy w := by
  cases v with
  | table fields =>
    obtain ⟨pairs, hpairs, rfl⟩ := ofFields_eq_ok_iff_exists_spells.1 h
    refine ⟨fields, rfl, ?_⟩
    intro pair hpair
    obtain ⟨⟨_, w⟩, hfield, rfl, hspelled⟩ :=
      Sequence.exists_of_mem_right hpairs (Keyed.mem_of_mem_ofPairs hpair)
    exact ⟨w, hfield, hspelled⟩
  | _ => cases h

/-- The sizes of an accepted inventory are whole numbers of its table. -/
theorem short_of_ofValue {v : Value} {i : Inventory} (h : ofValue v = .ok i)
    (hv : Json.isWritable v = true) :
    ∀ pair ∈ i.entries, (Nat.toDigits 10 pair.2.size.natAbs).length ≤ maxIntegerDigits := by
  obtain ⟨fields, rfl, hentries⟩ := exists_fields_of_ofValue h
  intro pair hpair
  obtain ⟨w, hw, inner, rfl, hread, -⟩ := hentries pair hpair
  have htable := Json.areWritableFields_iff.1 hv _ hw
  have hsize := Json.areWritableFields_iff.1 htable _ (Keyed.mem_of_get?_eq_some hread.size)
  exact of_decide_eq_true hsize

/-- Only a time stamp keeps an entry that was read from a file from being written. -/
theorem isWritable_iff_isDated {v : Value} {i : Inventory} (h : ofValue v = .ok i)
    (hv : Json.isWritable v = true) :
    ∀ pair ∈ i.entries, pair.2.IsWritable ↔ pair.2.IsDated :=
  fun pair hpair =>
    Entry.isWritable_iff.trans (and_iff_left (short_of_ofValue h hv pair hpair))

end Inventory

/-- **What is accepted can be written again exactly when every time stamp in it stays
within the calendar**, in a file, entry by entry, and in a plan, if its sizes are not too
long. Those of an inventory that was read from a file are not. A time stamp without an
offset stays in the calendar, and so does any other that is a day or more from both
ends. -/
theorem accepted_writes_iff {v w : Value} {here there : Inventory}
    (hhere : Inventory.ofValue v = .ok here) (hthere : Inventory.ofValue w = .ok there)
    (o : Options) (onlyDirection : Bool) :
    let ops := Command.operations o onlyDirection here there
    ((∃ text, here.dump = .ok text) ↔ ∀ pair ∈ here.entries, pair.2.IsWritable) ∧
    (∀ pair ∈ here.entries, (∃ x, pair.2.toValue = .ok x) ↔ pair.2.IsDated) ∧
    ((∃ text, Command.planJson o ops = .ok text) ↔
      ∀ op ∈ ops, ∀ e ∈ op.comparison.entries, e.IsWritable) ∧
    (Json.isWritable v = true → ∀ pair ∈ here.entries, pair.2.IsWritable ↔ pair.2.IsDated) ∧
    (Json.isWritable v = true → Json.isWritable w = true →
      ∀ op ∈ ops, ∀ e ∈ op.comparison.entries, e.IsWritable ↔ e.IsDated) ∧
    ∀ pair ∈ here.entries, (∀ t ∈ pair.2.modified, t.offset = none ∨
      (Time.dayLength ≤ t.wall ∧ t.wall + Time.dayLength ≤ Time.wallLimit)) → pair.2.IsDated := by
  intro ops
  refine ⟨Inventory.exists_dump_iff, fun _ _ => Entry.exists_toValue_iff,
    Command.exists_planJson_iff, Inventory.isWritable_iff_isDated hhere, ?_,
    fun _ _ => Entry.isDated_of_margin⟩
  intro hv hw op hop e he
  obtain ⟨path, hpath | hpath⟩ := Command.exists_get?_of_mem_operations hop he
  · exact Inventory.isWritable_iff_isDated hhere hv _ (Keyed.mem_of_get?_eq_some hpath)
  · exact Inventory.isWritable_iff_isDated hthere hw _ (Keyed.mem_of_get?_eq_some hpath)

/-- The last midnight of the calendar, in an offset east of UTC. -/
theorem accepted_writes_of_last_midnight :
    let v := Value.table [("a", .table [("name", .text "a"), ("path", .text "a"), ("size", .int 1),
      ("modified", .text "9999-12-31T00:00:00+23:59")])]
    let t : Time.Timestamp :=
      ⟨Time.wallLimit - Time.dayLength, by decide, some ⟨86340000000, by decide, by decide⟩⟩
    let here :=
      Inventory.ofPairs [("a", { name := "a", path := "a", size := 1, modified := some t })]
    Inventory.ofValue v = .ok here ∧ Inventory.ofValue (.table []) = .ok .empty ∧
      Json.isWritable v = true ∧ Json.isWritable (.table []) = true ∧
      (∃ text, here.dump = .ok text) ∧
      ∃ text, Command.planJson {} (Command.operations {} false here .empty) = .ok text := by
  intro v t here
  have hhere : Inventory.ofValue v = .ok here := rfl
  have hdated : ∀ pair ∈ here.entries, pair.2.IsDated := by
    have hentries : here.entries =
        ([("a", { name := "a", path := "a", size := 1, modified := some t })] :
          List (Text × Entry)) := rfl
    rw [hentries]
    decide
  obtain ⟨hdump, -, hplan, hfile, hops, -⟩ :=
    accepted_writes_iff hhere (w := .table []) rfl {} false
  refine ⟨hhere, rfl, rfl, rfl, hdump.2 ?_, hplan.2 ?_⟩
  · intro pair hpair
    exact (hfile rfl pair hpair).2 (hdated pair hpair)
  · intro op hop e he
    refine (hops rfl rfl op hop e he).2 ?_
    obtain ⟨path, hpath | hpath⟩ := Command.exists_get?_of_mem_operations hop he
    · exact hdated _ (Keyed.mem_of_get?_eq_some hpath)
    · cases hpath

/-- An hour before the first of the calendar in UTC: the inventory is accepted, but
neither its file nor its entry nor a plan with it can be written. -/
theorem not_written_before_calendar :
    let v := Value.table [("a", .table [("name", .text "a"), ("path", .text "a"), ("size", .int 1),
      ("modified", .text "0001-01-01T00:00:00+01:00")])]
    ∃ here e, Inventory.ofValue v = .ok here ∧ here.dump = .error .dateOutOfRange ∧
      here.get? "a" = some e ∧ e.toValue = .error .dateOutOfRange ∧
      ¬∃ text, Command.planJson {} (Command.operations {} false here .empty) = .ok text := by
  intro v
  let e : Entry :=
    { name := "a", path := "a", size := 1,
      modified := some ⟨0, by decide, some ⟨3600000000, by decide, by decide⟩⟩ }
  have hsorted : Inventory.sortedEntries (.ofPairs [("a", e)]) =
      ([("a", e)] : List (Text × Entry)) :=
    List.mergeSort_singleton _
  refine ⟨.ofPairs [("a", e)], e, rfl, ?_, rfl, rfl, ?_⟩
  · rw [Inventory.dump, Inventory.toValue, hsorted]
    rfl
  let op : Operation := ⟨Comparison.ofPath {} (.ofPairs [("a", e)]) .empty "a", .upload⟩
  have hop : op ∈ Command.operations {} false (.ofPairs [("a", e)]) .empty :=
    mem_plan.2 ⟨mem_compare.2 ⟨.inl (by decide), by decide, rfl, rfl⟩, rfl⟩
  rw [Command.exists_planJson_iff]
  intro hall
  have hdated : e.IsDated := (hall op hop e List.mem_cons_self).dated
  exact absurd hdated (by decide)

end Reconcile
