import Reconcile.Inventory.File
import Reconcile.Proofs.Inventory.Document
import Reconcile.Proofs.Json.Printed
import Reconcile.Proofs.Text.Ascii

/-!
# Inventory files

The table of an inventory goes no deeper than two, and its only whole numbers are the
sizes; so an inventory has a file exactly when every time is within the calendar and
every size is short enough (`exists_dump_iff`). The file holds printed ASCII only, which
its bytes and the ends of its lines give back. Main statement: `load_dump`.
-/

namespace Reconcile

open Json (IsKept isWritable)

/-! ## Entries -/

namespace Entry

variable {e : Entry} {v : Value}

/-- An entry that can be written: the instant of its modification time has a date, and
its size is not too long. -/
structure IsWritable (e : Entry) : Prop where
  dated : e.IsDated
  short : (Nat.toDigits 10 e.size.natAbs).length ≤ maxIntegerDigits

theorem isWritable_iff :
    e.IsWritable ↔ e.IsDated ∧ (Nat.toDigits 10 e.size.natAbs).length ≤ maxIntegerDigits :=
  ⟨fun h => ⟨h.dated, h.short⟩, fun h => ⟨h.1, h.2⟩⟩

instance (e : Entry) : Decidable e.IsWritable := decidable_of_iff _ isWritable_iff.symm

/-- The value of a modification time is null or a text, which goes into any file. -/
theorem isKept_modifiedValue {m : Option Time.Timestamp} (h : modifiedValue m = .ok v)
    (room : Nat) : IsKept room v := by
  cases m with
  | none =>
    obtain rfl : Value.null = v := Except.ok.inj h
    exact .null
  | some t =>
    rw [modifiedValue] at h
    cases hs : t.text? with
    | none =>
      rw [hs] at h
      cases h
    | some s =>
      rw [hs] at h
      obtain rfl : Value.text s = v := Except.ok.inj h
      exact .text s

theorem isKept_toValue (h : e.toValue = .ok v)
    (hshort : (Nat.toDigits 10 e.size.natAbs).length ≤ maxIntegerDigits) (room : Nat) :
    IsKept (room + 1) v := by
  obtain ⟨m, hm, rfl⟩ := toValue_eq_ok_iff.1 h
  refine .table (nodup_keys_fields e m) ?_
  have hchecksum : IsKept room (.ofText? e.checksum) := by
    cases e.checksum with
    | none => exact .null
    | some s => exact .text s
  simp only [fields, List.forall_mem_cons]
  exact ⟨.text _, .text _, .int hshort, isKept_modifiedValue hm room, .bool _, hchecksum,
    List.forall_mem_nil _⟩

/-- The size is the only whole number of an entry. -/
theorem isWritable_toValue (h : e.toValue = .ok v) :
    isWritable v = true ↔ (Nat.toDigits 10 e.size.natAbs).length ≤ maxIntegerDigits := by
  constructor
  · intro hv
    obtain ⟨m, hm, rfl⟩ := toValue_eq_ok_iff.1 h
    simp only [fields, isWritable, Json.areWritableFields, Bool.and_eq_true,
      decide_eq_true_eq] at hv
    exact hv.2.2.1
  · exact fun hshort => (isKept_toValue h hshort 0).isWritable

end Entry

/-! ## Inventories -/

namespace Inventory

variable {i : Inventory} {v : Value}

theorem isKept_toValue (h : i.toValue = .ok v)
    (hshort : ∀ pair ∈ i.entries, (Nat.toDigits 10 pair.2.size.natAbs).length ≤ maxIntegerDigits)
    (room : Nat) : IsKept (room + 2) v := by
  obtain ⟨fields, rfl, hfields⟩ := toValue_eq_ok_iff.1 h
  refine .table (keys_of_toValue h ▸ nodup_keys_sortedEntries i) ?_
  intro field hmem
  obtain ⟨pair, hpair, -, hvalue⟩ := Sequence.exists_of_mem_right hfields hmem
  exact Entry.isKept_toValue hvalue (hshort _ ((sortedEntries_perm i).mem_iff.1 hpair)) room

theorem isWritable_toValue (h : i.toValue = .ok v) :
    isWritable v = true ↔
      ∀ pair ∈ i.entries, (Nat.toDigits 10 pair.2.size.natAbs).length ≤ maxIntegerDigits := by
  refine ⟨?_, fun hshort => (isKept_toValue h hshort 0).isWritable⟩
  intro hv pair hpair
  obtain ⟨fields, rfl, hfields⟩ := toValue_eq_ok_iff.1 h
  obtain ⟨field, hfield, -, hvalue⟩ :=
    Sequence.exists_of_mem_left hfields ((sortedEntries_perm i).mem_iff.2 hpair)
  exact (Entry.isWritable_toValue hvalue).1 (Json.areWritableFields_iff.1 hv field hfield)

theorem dump_eq_ok_iff {text : String} :
    i.dump = .ok text ↔
      ∃ v, i.toValue = .ok v ∧ isWritable v = true ∧
        text = String.ofList (Json.written 0 v ++ ['\n']) := by
  rw [dump]
  cases i.toValue with
  | error fault => simp [bind, Except.bind]
  | ok v =>
    by_cases hv : isWritable v = true
    · simp [bind, Except.bind, pure, Except.pure, Json.write?, hv, eq_comm (a := text)]
    · simp [bind, Except.bind, throw, throwThe, MonadExceptOf.throw, Json.write?, hv]

/-- **An inventory can be written exactly when each of its entries can.** -/
theorem exists_dump_iff :
    (∃ text, i.dump = .ok text) ↔ ∀ pair ∈ i.entries, pair.2.IsWritable := by
  simp only [dump_eq_ok_iff, Entry.isWritable_iff, imp_and, forall_and]
  rw [← exists_toValue_iff]
  constructor
  · rintro ⟨_, v, hv, hwritable, -⟩
    exact ⟨⟨v, hv⟩, (isWritable_toValue hv).1 hwritable⟩
  · rintro ⟨⟨v, hv⟩, hshort⟩
    exact ⟨_, v, hv, (isWritable_toValue hv).2 hshort, rfl⟩

/-- A value that JSON keeps comes back from the file it is written to. -/
theorem load_written {runtime : Runtime} (h : IsKept runtime.jsonDepth v) (path : String) :
    load runtime path (.file (Utf8.encode (Json.written 0 v ++ ['\n']))) =
      (ofValue v).mapError .malformed := by
  -- ASCII without carriage returns: the bytes of the file give back the text
  have hprinted : Json.IsPrinted (Json.written 0 v ++ ['\n']) :=
    Json.isPrinted_append.2 ⟨Json.isPrinted_written h 0, by decide⟩
  rw [load, FileState.readText_encode hprinted.isAscii hprinted.return_not_mem]
  simp only [Except.mapError, bind, Except.bind, Json.read_written h]

/-- What is read from the file of an inventory is the value that was written. -/
theorem load_eq_of_dump {text : String} (h : i.dump = .ok text) (runtime : Runtime)
    (path : String) :
    ∃ v, i.toValue = .ok v ∧
      load runtime path (.file (Utf8.encode text.toList)) = (ofValue v).mapError .malformed := by
  obtain ⟨v, hv, hwritable, rfl⟩ := dump_eq_ok_iff.1 h
  obtain ⟨room, hroom⟩ := runtime.exists_jsonDepth_eq
  have hkept := isKept_toValue hv ((isWritable_toValue hv).1 hwritable) (room + 3)
  refine ⟨v, hv, ?_⟩
  rw [String.toList_ofList]
  exact load_written (hroom ▸ hkept) path

/-- **An inventory file is read as the inventory that was written**, with its paths in
the order of their code points. -/
theorem load_dump (runtime : Runtime) (i : Inventory) (path : String)
    (h : ∀ pair ∈ i.entries, pair.2.IsWritable ∧ 0 ≤ pair.2.size) :
    ∃ text, i.dump = .ok text ∧
      ∃ j, load runtime path (.file (Utf8.encode text.toList)) = .ok j ∧
      (∀ p, (j.get? p == i.get? p) = true) ∧ j.paths.Pairwise (· < ·) := by
  obtain ⟨text, htext⟩ := exists_dump_iff.2 fun pair hpair => (h pair hpair).1
  obtain ⟨v, hv, hload⟩ := load_eq_of_dump htext runtime path
  obtain ⟨j, hj, hpaths, hsame⟩ :=
    exists_ofValue_of_toValue hv fun pair hpair => (h pair hpair).2
  refine ⟨text, htext, j, ?_, hsame, ?_⟩
  · rw [hload, hj]
    rfl
  · rw [hpaths]
    exact pairwise_sortedEntries i

/-- Texts with quotes, controls and characters beyond ASCII; times without an offset and
at the start of the calendar. -/
theorem load_dump_of_unusual_texts :
    let plain : Entry :=
      { name := "\x07\"\\", path := "", size := 0, modified := some ⟨1, by decide, none⟩ }
    let west : Time.Offset := ⟨-1, by decide, by decide⟩
    let late : Entry :=
      { name := "é😀", path := "\n", size := 12, modified := some ⟨0, by decide, some west⟩,
        isDir := true, checksum := some "" }
    let i := ofPairs [("b\u2028", plain), ("", late)]
    (∀ pair ∈ i.entries, pair.2.IsWritable ∧ 0 ≤ pair.2.size) ∧
      ∃ text, i.dump = .ok text ∧
        ∃ j, load .usual "i.json" (.file (Utf8.encode text.toList)) = .ok j ∧
        (∀ p, (j.get? p == i.get? p) = true) ∧ j.paths.Pairwise (· < ·) := by
  intro plain west late i
  have h : ∀ pair ∈ i.entries, pair.2.IsWritable ∧ 0 ≤ pair.2.size := by
    have hentries : i.entries =
        ([("b\u2028", plain), ("", late)] : List (Text × Entry)) := rfl
    rw [hentries]
    decide
  exact ⟨h, load_dump .usual i "i.json" h⟩

end Inventory

end Reconcile
