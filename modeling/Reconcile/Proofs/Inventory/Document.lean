import Reconcile.Inventory.Document
import Reconcile.Proofs.Keyed
import Reconcile.Proofs.Sequence
import Reconcile.Proofs.Time.Iso

/-!
# Inventories are read from the tables they are written to

An entry has a table as long as its modification time has a text
(`Entry.exists_toValue_iff`), and the table is read as an equal entry
(`Entry.exists_ofValue_of_toValue`). The table of an inventory lists its entries in the
order of the code points of their paths, each once (`Inventory.pairwise_sortedEntries`).
Main statement: `Inventory.exists_ofValue_of_toValue`.
-/

namespace Reconcile

/-! ## Entries -/

namespace Entry

theorem beq_iff {e f : Entry} :
    (e == f) = true ↔
      e.name = f.name ∧ e.path = f.path ∧ e.size = f.size ∧ (e.modified == f.modified) = true ∧
        e.isDir = f.isDir ∧ e.checksum = f.checksum := by
  obtain ⟨name, path, size, modified, isDir, checksum⟩ := e
  obtain ⟨name', path', size', modified', isDir', checksum'⟩ := f
  show (name == name' && (path == path' && (size == size' && (modified == modified' &&
    (isDir == isDir' && checksum == checksum'))))) = true ↔ _
  simp only [Bool.and_eq_true, beq_iff_eq]

/-- The modification time, if there is one, is within the calendar. -/
def IsDated (e : Entry) : Prop := ∀ t ∈ e.modified, t.InCalendar

instance (e : Entry) : Decidable e.IsDated :=
  match h : e.modified with
  | none => isTrue (by simp [IsDated, h])
  | some t => decidable_of_iff t.InCalendar (by simp [IsDated, h])

theorem exists_modifiedValue_iff {m : Option Time.Timestamp} :
    (∃ v, modifiedValue m = .ok v) ↔ ∀ t ∈ m, t.InCalendar := by
  cases m with
  | none => simp [modifiedValue]
  | some t =>
    have hsome : (∀ u ∈ some t, u.InCalendar) ↔ t.InCalendar := by simp
    rw [hsome, modifiedValue]
    cases h : t.text? with
    | some s => simp [(Time.Timestamp.text?_eq_some_iff.1 h).1]
    | none =>
      have hnot : ¬t.InCalendar := fun hin => by
        rw [Time.Timestamp.text?_eq_some_iff.2 ⟨hin, rfl⟩] at h
        cases h
      simp [hnot]

/-- The value of a modification time is read as the same instant. -/
theorem exists_toTimestamp?_of_modifiedValue {m : Option Time.Timestamp} {v : Value}
    (h : modifiedValue m = .ok v) (field : String) :
    ∃ m', v.toTimestamp? field = .ok m' ∧ (m' == m) = true := by
  cases m with
  | none =>
    obtain rfl : Value.null = v := Except.ok.inj h
    exact ⟨none, rfl, rfl⟩
  | some t =>
    rw [modifiedValue] at h
    cases hs : t.text? with
    | none =>
      rw [hs] at h
      cases h
    | some s =>
      rw [hs] at h
      obtain rfl : Value.text s = v := Except.ok.inj h
      obtain ⟨u, hu, hut⟩ := Time.Timestamp.exists_read_of_text? hs
      refine ⟨some u, ?_, hut⟩
      rw [Value.toTimestamp?, hu]
      rfl

/-- The fields of an entry, where `modified` is the value of its modification time. -/
def fields (e : Entry) (modified : Value) : Fields :=
  [("name", .text e.name), ("path", .text e.path), ("size", .int e.size),
   ("modified", modified), ("is_dir", .bool e.isDir), ("checksum", .ofText? e.checksum)]

theorem nodup_keys_fields (e : Entry) (modified : Value) :
    (Keyed.keys (e.fields modified)).Nodup :=
  show (["name", "path", "size", "modified", "is_dir", "checksum"] : List Text).Nodup by decide

theorem toValue_eq_ok_iff {e : Entry} {v : Value} :
    e.toValue = .ok v ↔ ∃ m, modifiedValue e.modified = .ok m ∧ .table (e.fields m) = v := by
  rw [toValue]
  cases modifiedValue e.modified with
  | error fault => simp [bind, Except.bind]
  | ok m => simp [bind, Except.bind, pure, Except.pure, fields]

theorem exists_toValue_iff {e : Entry} : (∃ v, e.toValue = .ok v) ↔ e.IsDated := by
  simp only [toValue_eq_ok_iff, IsDated, ← exists_modifiedValue_iff]
  constructor
  · rintro ⟨_, m, hm, -⟩
    exact ⟨m, hm⟩
  · rintro ⟨m, hm⟩
    exact ⟨_, m, hm, rfl⟩

theorem toText?_ofText? (field : String) (s : Option Text) :
    (Value.ofText? s).toText? field = .ok s := by cases s <;> rfl

theorem ofFields_fields {e : Entry} {v : Value} {m : Option Time.Timestamp}
    (h : v.toTimestamp? "modified" = .ok m) :
    ofFields (e.fields v) = .ok { e with modified := m } := by
  have hmodified : Fields.getD (e.fields v) "modified" .null = v := rfl
  have hchecksum : Fields.getD (e.fields v) "checksum" .null = .ofText? e.checksum := rfl
  rw [ofFields, hmodified, hchecksum, h, toText?_ofText?]
  rfl

/-- **An entry is read from its table** as an equal one. -/
theorem exists_ofFields_of_toValue {e : Entry} {v : Value} (h : e.toValue = .ok v) :
    ∃ fields f, v = .table fields ∧ ofFields fields = .ok f ∧ (f == e) = true := by
  obtain ⟨m, hm, rfl⟩ := toValue_eq_ok_iff.1 h
  obtain ⟨t, ht, hte⟩ := exists_toTimestamp?_of_modifiedValue hm "modified"
  exact ⟨_, _, rfl, ofFields_fields ht, beq_iff.2 ⟨rfl, rfl, rfl, hte, rfl, rfl⟩⟩

end Entry

/-! ## Inventories -/

namespace Inventory

variable {i : Inventory}

theorem sortedEntries_perm (i : Inventory) : i.sortedEntries.Perm i.entries :=
  List.mergeSort_perm _ _

theorem nodup_keys_sortedEntries (i : Inventory) : (Keyed.keys i.sortedEntries).Nodup :=
  ((sortedEntries_perm i).map Prod.fst).nodup_iff.2 i.nodup

/-- The paths of the table strictly increase in the order of their code points. -/
theorem pairwise_sortedEntries (i : Inventory) :
    (Keyed.keys i.sortedEntries).Pairwise (· < ·) := by
  have hle : (Keyed.keys i.sortedEntries).Pairwise (· ≤ ·) :=
    List.pairwise_map.2 (Sequence.pairwise_mergeSort_text Prod.fst i.entries)
  refine (hle.and (nodup_keys_sortedEntries i)).imp ?_
  rintro a b ⟨hab, hne⟩
  exact Text.not_le.1 fun hba => hne (Text.le_antisymm hab hba)

/-- A pair of a path and an entry goes with a field. -/
theorem pairValue_eq_ok_iff {p : Text × Entry} {q : Text × Value} :
    (do return (p.1, ← p.2.toValue) : Except WriteError (Text × Value)) = .ok q ↔
      p.1 = q.1 ∧ p.2.toValue = .ok q.2 := by
  obtain ⟨path, v⟩ := q
  cases p.2.toValue with
  | error fault => simp [bind, Except.bind]
  | ok v => simp [bind, Except.bind, pure, Except.pure]

/-- The table of an inventory has a field for each pair, in order. -/
theorem toValue_eq_ok_iff {v : Value} :
    i.toValue = .ok v ↔ ∃ fields, v = .table fields ∧
      List.Forall₂ (fun p q => p.1 = q.1 ∧ p.2.toValue = .ok q.2) i.sortedEntries fields := by
  simp only [← pairValue_eq_ok_iff, ← Sequence.mapM_eq_ok_iff, toValue]
  cases i.sortedEntries.mapM fun p : Text × Entry =>
      (do return (p.1, ← p.2.toValue) : Except WriteError (Text × Value)) with
  | error fault => simp [bind, Except.bind]
  | ok fields => simp [bind, Except.bind, pure, Except.pure, eq_comm]

/-- The keys of the table are the sorted paths. -/
theorem keys_of_toValue {fields : Fields} (h : i.toValue = .ok (.table fields)) :
    Keyed.keys fields = Keyed.keys i.sortedEntries := by
  obtain ⟨_, hfields, hpairs⟩ := toValue_eq_ok_iff.1 h
  obtain rfl := Value.table.inj hfields
  exact (Keyed.keys_eq_of_forall₂ (R := fun e v => Entry.toValue e = .ok v) hpairs).symm

/-- An inventory has a table as long as every modification time is within the calendar. -/
theorem exists_toValue_iff : (∃ v, i.toValue = .ok v) ↔ ∀ pair ∈ i.entries, pair.2.IsDated := by
  have hfields : (∃ v, i.toValue = .ok v) ↔ ∃ fields : Fields,
      List.Forall₂ (fun p q => p.1 = q.1 ∧ p.2.toValue = .ok q.2) i.sortedEntries fields := by
    simp only [toValue_eq_ok_iff]
    constructor
    · rintro ⟨_, fields, -, h⟩
      exact ⟨fields, h⟩
    · rintro ⟨fields, h⟩
      exact ⟨_, fields, rfl, h⟩
  rw [hfields, Sequence.exists_forall₂_iff]
  simp only [(sortedEntries_perm i).mem_iff, ← Entry.exists_toValue_iff, Prod.exists,
    exists_eq_left', exists_and_left]

/-! ## Reading the table back -/

theorem exists_entryOfValue_of_toValue {e : Entry} {v : Value} (h : e.toValue = .ok v)
    (hsize : 0 ≤ e.size) (path : Text) :
    ∃ f, entryOfValue path v = .ok f ∧ (f == e) = true := by
  obtain ⟨fields, f, rfl, hf, hfe⟩ := Entry.exists_ofFields_of_toValue h
  refine ⟨f, ?_, hfe⟩
  have hnot : ¬f.size < 0 := by
    rw [(Entry.beq_iff.1 hfe).2.2.1]
    omega
  rw [entryOfValue, hf]
  simp [Except.mapError, bind, Except.bind, pure, Except.pure, hnot]

/-- A field goes with a pair of a path and an entry. -/
theorem readPair_eq_ok_iff {q : Text × Value} {r : Text × Entry} :
    (do return (q.1, ← entryOfValue q.1 q.2) : Except Fault (Text × Entry)) = .ok r ↔
      q.1 = r.1 ∧ entryOfValue q.1 q.2 = .ok r.2 := by
  obtain ⟨path, e⟩ := r
  cases entryOfValue q.1 q.2 with
  | error fault => simp [bind, Except.bind]
  | ok f => simp [bind, Except.bind, pure, Except.pure]

/-- The fields of a table are read one after the other. -/
theorem ofFields_eq_ok_iff {fields : Fields} :
    ofFields fields = .ok i ↔ ∃ pairs : List (Text × Entry),
      List.Forall₂ (fun q r => q.1 = r.1 ∧ entryOfValue q.1 q.2 = .ok r.2) fields pairs ∧
        ofPairs pairs = i := by
  simp only [ofFields, ← readPair_eq_ok_iff, Sequence.bind_eq_ok_iff, Sequence.mapM_eq_ok_iff,
    Sequence.pure_eq_ok_iff]

/-- **An inventory is read from its table** as one with equal entries, whose paths are
sorted. -/
theorem exists_ofValue_of_toValue {v : Value} (h : i.toValue = .ok v)
    (hsize : ∀ pair ∈ i.entries, 0 ≤ pair.2.size) :
    ∃ j, ofValue v = .ok j ∧ j.paths = Keyed.keys i.sortedEntries ∧
      ∀ path, (j.get? path == i.get? path) = true := by
  obtain ⟨fields, rfl, hfields⟩ := toValue_eq_ok_iff.1 h
  -- the pairs that are read go with the fields, and the fields with the sorted entries
  obtain ⟨pairs, hread, hsame⟩ : ∃ pairs : List (Text × Entry),
      List.Forall₂ (fun q r => q.1 = r.1 ∧ entryOfValue q.1 q.2 = .ok r.2) fields pairs ∧
        List.Forall₂ (fun r p => r.1 = p.1 ∧ (r.2 == p.2) = true) pairs i.sortedEntries := by
    refine Sequence.exists_forall₂_of_forall₂ hfields ?_
    rintro ⟨path, e⟩ hmem ⟨path', v⟩ ⟨hpath, hv⟩
    obtain ⟨f, hf, hfe⟩ := exists_entryOfValue_of_toValue hv
      (hsize _ ((sortedEntries_perm i).mem_iff.1 hmem)) path'
    exact ⟨(path', f), ⟨rfl, hf⟩, hpath.symm, hfe⟩
  have hkeys : Keyed.keys pairs = Keyed.keys i.sortedEntries :=
    Keyed.keys_eq_of_forall₂ (R := fun f e => (f == e) = true) hsame
  -- no path occurs twice, so none of the pairs is put in another's place
  have hpairs : Keyed.ofPairs pairs = pairs :=
    Keyed.ofPairs_eq_self (hkeys ▸ nodup_keys_sortedEntries i)
  refine ⟨_, ofFields_eq_ok_iff.2 ⟨pairs, hread, rfl⟩, ?_, ?_⟩
  · show Keyed.keys (Keyed.ofPairs pairs) = _
    rw [hpairs, hkeys]
  · intro path
    show (Keyed.get? (Keyed.ofPairs pairs) path == Keyed.get? i.entries path) = true
    rw [hpairs, ← Keyed.get?_eq_of_perm (nodup_keys_sortedEntries i) (sortedEntries_perm i) path]
    have hrel := Keyed.get?_of_forall₂ (R := fun f e => (f == e) = true) hsame path
    generalize Keyed.get? pairs path = found at hrel ⊢
    generalize Keyed.get? i.sortedEntries path = kept at hrel ⊢
    cases hrel with
    | none => rfl
    | some hvalue => exact hvalue

end Inventory

end Reconcile
