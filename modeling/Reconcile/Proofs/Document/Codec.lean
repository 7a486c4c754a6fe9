import Reconcile.Plan
import Reconcile.Proofs.Inventory.Document
import Reconcile.Proofs.Options.Validation

/-!
# Records are read from the tables they are written to

Writing a record and reading its table gives an equal record, where equal time stamps are
those of the same instant; and equal records have the same table (`IsCodec`). The laws of
a nested record follow from those of its parts, from time stamps up to operations. Main
statement: `rereads_documents`.
-/

namespace Reconcile

section Codec

variable {α : Type} [BEq α]

/-- The two laws of reading and writing records of a kind. -/
structure IsCodec (read : Value → Except Malformed α) (write : α → Except WriteError Value) :
    Prop where
  exists_read : ∀ {x : α} {v : Value}, write x = .ok v → ∃ y, read v = .ok y ∧ (y == x) = true
  write_congr : ∀ {x y : α}, (y == x) = true → write y = write x

/-- What is read from a document and can be written is read again from what is written, and
written again as it was. -/
def Rereads (read : Value → Except Malformed α) (write : α → Except WriteError Value)
    (document : Value) : Prop :=
  ∀ x v, read document = .ok x → write x = .ok v →
    ∃ y, read v = .ok y ∧ (y == x) = true ∧ write y = .ok v

theorem IsCodec.rereads {read : Value → Except Malformed α} {write : α → Except WriteError Value}
    (h : IsCodec read write) (document : Value) : Rereads read write document := by
  intro x v _ hv
  obtain ⟨y, hy, hyx⟩ := h.exists_read hv
  exact ⟨y, hy, hyx, (h.write_congr hyx).trans hv⟩

end Codec

/-! ## Entries -/

theorem Time.Timestamp.text?_congr {t u : Timestamp} (h : (u == t) = true) :
    u.text? = t.text? := by
  rw [text?, text?, beq_iff.1 h]

namespace Entry

theorem modifiedValue_congr {m m' : Option Time.Timestamp} (h : (m' == m) = true) :
    modifiedValue m' = modifiedValue m := by
  cases m' with
  | none =>
    cases m with
    | none => rfl
    | some t => cases h
  | some u =>
    cases m with
    | none => cases h
    | some t =>
      have htext : u.text? = t.text? := Time.Timestamp.text?_congr h
      rw [modifiedValue, modifiedValue, htext]

theorem isCodec : IsCodec ofValue toValue where
  exists_read h := by
    obtain ⟨fields, f, rfl, hf, hfe⟩ := exists_ofFields_of_toValue h
    exact ⟨f, hf, hfe⟩
  write_congr {e f} h := by
    obtain ⟨hname, hpath, hsize, hmodified, hdir, hchecksum⟩ := beq_iff.1 h
    rw [toValue, toValue, hname, hpath, hsize, modifiedValue_congr hmodified, hdir, hchecksum]

/-- An absent entry is null, and no other is. -/
theorem isCodec_option : IsCodec Comparison.entryOfValue toValue? where
  exists_read {e? v} h := by
    cases e? with
    | none =>
      obtain rfl : Value.null = v := Except.ok.inj h
      exact ⟨none, rfl, rfl⟩
    | some e =>
      obtain ⟨fields, f, rfl, hf, hfe⟩ := exists_ofFields_of_toValue h
      refine ⟨some f, ?_, hfe⟩
      show some <$> ofFields fields = .ok (some f)
      rw [hf]
      rfl
  write_congr {e? f?} h := by
    cases f? with
    | none =>
      cases e? with
      | none => rfl
      | some e => cases h
    | some f =>
      cases e? with
      | none => cases h
      | some e => exact isCodec.write_congr (x := e) (y := f) h

end Entry

/-! ## Options -/

theorem Options.ofValue_toValue (o : Options) : ofValue o.toValue = .ok o := by
  rw [toValue, ofValue, ofFields_eq_ok_iff]
  exact ⟨.inl rfl, .inl rfl, .inl rfl, .inl rfl, .inl rfl⟩

theorem Options.isCodec : IsCodec ofValue (fun o => .ok o.toValue) where
  exists_read {o v} h := by
    obtain rfl := Except.ok.inj h
    exact ⟨o, ofValue_toValue o, beq_self_eq_true o⟩
  write_congr {o o'} h := by
    rw [eq_of_beq h]

/-! ## Comparisons -/

namespace Comparison

theorem beq_iff {c d : Comparison} :
    (c == d) = true ↔ c.path = d.path ∧ c.status = d.status ∧ (c.here == d.here) = true ∧
      (c.there == d.there) = true ∧ c.isDir = d.isDir := by
  obtain ⟨path, status, here, there, isDir⟩ := c
  obtain ⟨path', status', here', there', isDir'⟩ := d
  show (path == path' && (status == status' && (here == here' && (there == there' &&
    isDir == isDir')))) = true ↔ _
  simp only [Bool.and_eq_true, beq_iff_eq]

/-- The fields of a comparison, where `here` and `there` are the values of its entries. -/
def fields (c : Comparison) (here there : Value) : Fields :=
  [("relative_path", .text c.path), ("status", .text c.status.name), ("local_info", here),
   ("remote_info", there), ("is_dir", .bool c.isDir)]

theorem toValue_eq_ok_iff {c : Comparison} {v : Value} :
    c.toValue = .ok v ↔ ∃ here there, Entry.toValue? c.here = .ok here ∧
      Entry.toValue? c.there = .ok there ∧ .table (c.fields here there) = v := by
  simp only [toValue, Sequence.bind_eq_ok_iff, Sequence.pure_eq_ok_iff, exists_and_left, fields]

theorem ofFields_fields {c : Comparison} {v w : Value} {here there : Option Entry}
    (hv : entryOfValue v = .ok here) (hw : entryOfValue w = .ok there) :
    ofFields (c.fields v w) = .ok { c with here, there } := by
  have hstatus : (Value.text c.status.name).toStatus = .ok c.status := by cases c.status <;> rfl
  -- each field is found under its own name
  show (do
    let status ← (Value.text c.status.name).toStatus
    let here ← entryOfValue v
    let there ← entryOfValue w
    return ⟨c.path, status, here, there, c.isDir⟩ : Except Malformed Comparison) = _
  rw [hstatus, hv, hw]
  rfl

theorem isCodec : IsCodec ofValue toValue where
  exists_read {c v} h := by
    obtain ⟨v, w, hv, hw, rfl⟩ := toValue_eq_ok_iff.1 h
    obtain ⟨here, hhere, hsame⟩ := Entry.isCodec_option.exists_read hv
    obtain ⟨there, hthere, hsame'⟩ := Entry.isCodec_option.exists_read hw
    exact ⟨_, ofFields_fields hhere hthere, beq_iff.2 ⟨rfl, rfl, hsame, hsame', rfl⟩⟩
  write_congr {c d} h := by
    obtain ⟨hpath, hstatus, hhere, hthere, hdir⟩ := beq_iff.1 h
    rw [toValue, toValue, hpath, hstatus, Entry.isCodec_option.write_congr hhere,
      Entry.isCodec_option.write_congr hthere, hdir]

end Comparison

/-! ## Operations -/

namespace Operation

theorem beq_iff {op op' : Operation} :
    (op == op') = true ↔ (op.comparison == op'.comparison) = true ∧ op.action = op'.action := by
  obtain ⟨c, a⟩ := op
  obtain ⟨c', a'⟩ := op'
  show (c == c' && a == a') = true ↔ _
  rw [Bool.and_eq_true]
  exact and_congr_right fun _ => beq_iff_eq

theorem toValue_eq_ok_iff {op : Operation} {v : Value} :
    op.toValue = .ok v ↔ ∃ w, op.comparison.toValue = .ok w ∧
      .table [("comparison", w), ("action", .text op.action.name)] = v := by
  simp only [toValue, Sequence.bind_eq_ok_iff, Sequence.pure_eq_ok_iff]

theorem isCodec : IsCodec ofValue toValue where
  exists_read {op v} h := by
    obtain ⟨w, hw, rfl⟩ := toValue_eq_ok_iff.1 h
    obtain ⟨c, hc, hsame⟩ := Comparison.isCodec.exists_read hw
    refine ⟨⟨c, op.action⟩, ?_, beq_iff.2 ⟨hsame, rfl⟩⟩
    have haction : (Value.text op.action.name).toAction = .ok op.action := by
      cases op.action <;> rfl
    show (do
      let comparison ← Comparison.ofValue w
      let action ← (Value.text op.action.name).toAction
      return ⟨comparison, action⟩ : Except Malformed Operation) = _
    rw [hc, haction]
    rfl
  write_congr {op op'} h := by
    obtain ⟨hcomparison, haction⟩ := beq_iff.1 h
    rw [toValue, toValue, Comparison.isCodec.write_congr hcomparison, haction]

end Operation

/-- **What is read and written is read again as the same**: entries, options, comparisons
and operations, whatever document they come from and however it spells their times. Only
the offsets of the time stamps may change, not the instants. -/
theorem rereads_documents (document : Value) :
    Rereads Entry.ofValue Entry.toValue document ∧
    Rereads Options.ofValue (fun o => .ok o.toValue) document ∧
    Rereads Comparison.ofValue Comparison.toValue document ∧
    Rereads Operation.ofValue Operation.toValue document :=
  ⟨Entry.isCodec.rereads document, Options.isCodec.rereads document,
    Comparison.isCodec.rereads document, Operation.isCodec.rereads document⟩

/-- A path that is a number, and a time half an hour before midnight in an offset west of
UTC, where the new year has begun. -/
theorem rereads_across_new_year :
    let document := Value.table [("action", .text "upload"), ("comparison", .table
      [("relative_path", .int 5), ("status", .text "local_only"), ("local_info", .table
        [("name", .text "a"), ("path", .text "a"), ("size", .int 1),
         ("modified", .text "2023-12-31T23:30:00.5-01:00")])])]
    let v := Value.table [("comparison", .table
      [("relative_path", .text "5"), ("status", .text "local_only"), ("local_info", .table
        [("name", .text "a"), ("path", .text "a"), ("size", .int 1),
         ("modified", .text "2024-01-01T00:30:00.500000+00:00"), ("is_dir", .bool false),
         ("checksum", .null)]), ("remote_info", .null), ("is_dir", .bool false)]),
      ("action", .text "upload")]
    ∃ op, Operation.ofValue document = .ok op ∧ op.toValue = .ok v ∧
      ∃ op', Operation.ofValue v = .ok op' ∧ (op' == op) = true ∧ op'.toValue = .ok v := by
  intro document v
  let west : Time.Offset := ⟨-3600000000, by decide, by decide⟩
  let t : Time.Timestamp := ⟨63839662200500000, by decide, some west⟩
  let e : Entry := { name := "a", path := "a", size := 1, modified := some t }
  let op : Operation :=
    ⟨{ path := "5", status := .localOnly, here := some e, there := none }, .upload⟩
  have hread : Operation.ofValue document = .ok op := rfl
  have htext : t.text? = some "2024-01-01T00:30:00.500000+00:00" := by decide +kernel
  have hmodified : Entry.modifiedValue e.modified =
      .ok (.text "2024-01-01T00:30:00.500000+00:00") := by
    rw [Entry.modifiedValue, htext]
  have hwritten : op.toValue = .ok v :=
    Operation.toValue_eq_ok_iff.2 ⟨_, Comparison.toValue_eq_ok_iff.2 ⟨_, _,
      Entry.toValue_eq_ok_iff.2 ⟨_, hmodified, rfl⟩, rfl, rfl⟩, rfl⟩
  exact ⟨op, hread, hwritten, (rereads_documents document).2.2.2 op v hread hwritten⟩

end Reconcile
