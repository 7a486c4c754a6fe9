import Reconcile.Proofs.Inventory.Document
import Reconcile.Proofs.Inventory.Field

/-!
# Which documents are inventories

A table is read as an inventory exactly if each of its fields is an entry by the grammar
(`Entry.IsGrammatical`), and then the inventory has the entries that the fields spell, in
their order (`Spells`). Otherwise the first field that is no entry is blamed (`Blame`), for
the first fault in it (`EntryFault`): the fields of an entry are read one after the other,
and so are the entries, and each reader reports what it is the first to find
(`Entry.reports_ofFields`, `reports_entryOfValue`, `reports_ofFields`). Main statement:
`ofValue_decides`.
-/

namespace Reconcile

/-! ## Entries -/

namespace Entry

/-- The rules of the fields of an entry, in the order in which they are looked at. -/
def rules : List FieldRule :=
  [⟨"name", true, [.text], false⟩, ⟨"path", true, [.text], false⟩, ⟨"size", true, [.int], false⟩,
   ⟨"modified", false, [.null, .text], true⟩, ⟨"is_dir", false, [.bool], false⟩,
   ⟨"checksum", false, [.null, .text], false⟩]

/-- The fields are those of an entry. -/
structure IsGrammatical (fields : Fields) : Prop where
  name : ∃ s, Keyed.get? fields "name" = some (.text s)
  path : ∃ s, Keyed.get? fields "path" = some (.text s)
  size : ∃ n : Int, Keyed.get? fields "size" = some (.int n) ∧ 0 ≤ n
  modified : fields.IsUnset "modified" ∨
    ∃ s t, Keyed.get? fields "modified" = some (.text s) ∧ Time.Timestamp.read s = .ok t
  isDir : Keyed.get? fields "is_dir" = none ∨ ∃ b, Keyed.get? fields "is_dir" = some (.bool b)
  checksum : fields.IsUnset "checksum" ∨ ∃ s, Keyed.get? fields "checksum" = some (.text s)

/-- The entry that the fields spell. -/
structure IsReadFrom (e : Entry) (fields : Fields) : Prop where
  name : Keyed.get? fields "name" = some (.text e.name)
  path : Keyed.get? fields "path" = some (.text e.path)
  size : Keyed.get? fields "size" = some (.int e.size)
  modified : fields.IsUnset "modified" ∧ e.modified = none ∨
    ∃ s t, Keyed.get? fields "modified" = some (.text s) ∧ Time.Timestamp.read s = .ok t ∧
      e.modified = some t
  isDir : Keyed.get? fields "is_dir" = some (.bool e.isDir) ∨
    Keyed.get? fields "is_dir" = none ∧ e.isDir = false
  checksum : fields.IsUnset "checksum" ∧ e.checksum = none ∨
    ∃ s, Keyed.get? fields "checksum" = some (.text s) ∧ e.checksum = some s

variable {fields : Fields}

theorem reports_ofFields (fields : Fields) :
    Sequence.Reports (FieldRule.Fault fields) Inventory.entryMessage rules (ofFields fields) := by
  have hsteps : ofFields fields = (do
      let name ← fields.required "name" >>= Value.toText "name"
      let path ← fields.required "path" >>= Value.toText "path"
      let size ← fields.required "size" >>= Value.toInt "size"
      let modified ← (fields.getD "modified" .null).toTimestamp? "modified"
      let isDir ← (fields.getD "is_dir" (.bool false)).toBool "is_dir"
      let checksum ← (fields.getD "checksum" .null).toText? "checksum"
      return { name, path, size, modified, isDir, checksum }) := by
    simp only [ofFields, bind_assoc]
  rw [hsteps]
  -- one step for each rule, in the order of the rules
  refine (FieldRule.reports_required ⟨"name", true, [.text], false⟩
    (FieldRule.isFollowedBy_toText rfl rfl) rfl (by decide +kernel)).bind fun name _ => ?_
  refine (FieldRule.reports_required ⟨"path", true, [.text], false⟩
    (FieldRule.isFollowedBy_toText rfl rfl) rfl (by decide +kernel)).bind fun path _ => ?_
  refine (FieldRule.reports_required ⟨"size", true, [.int], false⟩
    (FieldRule.isFollowedBy_toInt rfl rfl) rfl (by decide +kernel)).bind fun size _ => ?_
  refine (FieldRule.reports_optional ⟨"modified", false, [.null, .text], true⟩
    (FieldRule.isFollowedBy_toTimestamp? rfl rfl) rfl rfl).bind fun modified _ => ?_
  refine (FieldRule.reports_optional ⟨"is_dir", false, [.bool], false⟩
    (FieldRule.isFollowedBy_toBool rfl rfl) rfl rfl).bind fun isDir _ => ?_
  refine (FieldRule.reports_optional ⟨"checksum", false, [.null, .text], false⟩
    (FieldRule.isFollowedBy_toText? rfl rfl) rfl rfl).bind fun checksum _ => ?_
  exact Sequence.reports_ok _

theorem ofFields_eq_ok_iff {e : Entry} : ofFields fields = .ok e ↔ e.IsReadFrom fields := by
  simp only [ofFields, Sequence.bind_eq_ok_iff, Fields.required_eq_ok_iff, Value.toText_eq_ok_iff,
    Value.toInt_eq_ok_iff, Fields.toTimestamp?_getD_eq_ok_iff, Fields.toBool_getD_eq_ok_iff,
    Fields.toText?_getD_eq_ok_iff, Sequence.pure_eq_ok_iff]
  constructor
  · rintro ⟨_, hname, name, rfl, _, hpath, path, rfl, _, hsize, size, rfl, modified, hmodified,
      isDir, hisDir, checksum, hchecksum, rfl⟩
    exact ⟨hname, hpath, hsize, hmodified, hisDir, hchecksum⟩
  · intro h
    exact ⟨_, h.name, _, rfl, _, h.path, _, rfl, _, h.size, _, rfl, _, h.modified, _, h.isDir, _,
      h.checksum, rfl⟩

/-- The entry that a value spells. -/
def IsSpelledBy (e : Entry) (v : Value) : Prop :=
  ∃ fields, v = .table fields ∧ e.IsReadFrom fields ∧ 0 ≤ e.size

/-- Exactly the fields of an entry spell one whose size is not negative. -/
theorem exists_isReadFrom_iff :
    (∃ e : Entry, e.IsReadFrom fields ∧ 0 ≤ e.size) ↔ IsGrammatical fields := by
  constructor
  · rintro ⟨e, h, hsize⟩
    refine ⟨⟨_, h.name⟩, ⟨_, h.path⟩, ⟨_, h.size, hsize⟩, ?_, ?_, ?_⟩
    · exact h.modified.imp And.left fun ⟨s, t, hs, ht, _⟩ => ⟨s, t, hs, ht⟩
    · exact h.isDir.elim (fun hb => .inr ⟨_, hb⟩) fun hnone => .inl hnone.1
    · exact h.checksum.imp And.left fun ⟨s, hs, _⟩ => ⟨s, hs⟩
  · intro h
    obtain ⟨name, hname⟩ := h.name
    obtain ⟨path, hpath⟩ := h.path
    obtain ⟨size, hsize, hnonneg⟩ := h.size
    obtain ⟨modified, hmodified⟩ : ∃ m : Option Time.Timestamp,
        fields.IsUnset "modified" ∧ m = none ∨ ∃ s t, Keyed.get? fields "modified" =
          some (.text s) ∧ Time.Timestamp.read s = .ok t ∧ m = some t := by
      rcases h.modified with hunset | ⟨s, t, hs, ht⟩
      · exact ⟨none, .inl ⟨hunset, rfl⟩⟩
      · exact ⟨some t, .inr ⟨s, t, hs, ht, rfl⟩⟩
    obtain ⟨isDir, hisDir⟩ : ∃ b, Keyed.get? fields "is_dir" = some (.bool b) ∨
        Keyed.get? fields "is_dir" = none ∧ b = false := by
      rcases h.isDir with hnone | ⟨b, hb⟩
      · exact ⟨false, .inr ⟨hnone, rfl⟩⟩
      · exact ⟨b, .inl hb⟩
    obtain ⟨checksum, hchecksum⟩ : ∃ c : Option Text,
        fields.IsUnset "checksum" ∧ c = none ∨
          ∃ s, Keyed.get? fields "checksum" = some (.text s) ∧ c = some s := by
      rcases h.checksum with hunset | ⟨s, hs⟩
      · exact ⟨none, .inl ⟨hunset, rfl⟩⟩
      · exact ⟨some s, .inr ⟨s, hs, rfl⟩⟩
    exact ⟨⟨name, path, size, modified, isDir, checksum⟩,
      ⟨hname, hpath, hsize, hmodified, hisDir, hchecksum⟩, hnonneg⟩

theorem exists_isSpelledBy_iff {v : Value} :
    (∃ e : Entry, e.IsSpelledBy v) ↔ ∃ fields, v = .table fields ∧ IsGrammatical fields := by
  simp only [← exists_isReadFrom_iff]
  constructor
  · rintro ⟨e, fields, hv, he⟩
    exact ⟨fields, hv, e, he⟩
  · rintro ⟨fields, hv, e, he⟩
    exact ⟨e, fields, hv, he⟩

end Entry

/-! ## The value of a path -/

namespace Inventory

/-- What is wrong with a value as an entry, in words. -/
inductive EntryFault : Value → String → Prop
  | notTable {v : Value} (h : ∀ fields, v ≠ .table fields) :
    EntryFault v "entry must be an object"
  | field {fields : Fields} {text : String}
    (h : Sequence.IsFirst (FieldRule.Fault fields) Entry.rules text) :
    EntryFault (.table fields) text
  | negativeSize {fields : Fields} {n : Int}
    (hfields : ∀ rule ∈ Entry.rules, ∀ text, ¬FieldRule.Fault fields rule text)
    (hsize : Keyed.get? fields "size" = some (.int n)) (hnegative : n < 0) :
    EntryFault (.table fields) "size must not be negative"

/-- What is wrong with the value of a path, in words after the path. -/
def Blame (field : Text × Value) (text : Text) : Prop :=
  ∃ fault : String, EntryFault field.2 fault ∧ text = field.1 ++ ": " ++ fault

theorem entryOfValue_eq_ok_iff {path : Text} {v : Value} {e : Entry} :
    entryOfValue path v = .ok e ↔ e.IsSpelledBy v := by
  cases v with
  | table fields =>
    simp only [entryOfValue, Sequence.bind_eq_ok_iff, Sequence.mapError_eq_ok_iff,
      Entry.ofFields_eq_ok_iff, Entry.IsSpelledBy, Value.table.injEq, exists_eq_left']
    constructor
    · rintro ⟨f, hf, hsize⟩
      split at hsize
      · cases hsize
      · obtain rfl := Sequence.pure_eq_ok_iff.1 hsize
        exact ⟨hf, Int.not_lt.1 ‹_›⟩
    · rintro ⟨he, hsize⟩
      refine ⟨e, he, ?_⟩
      rw [if_neg (Int.not_lt.2 hsize)]
      rfl
  | _ => simp [entryOfValue, Entry.IsSpelledBy]

theorem message_entryNotTable (path : Text) :
    (Fault.entryNotTable path).message = path ++ ": " ++ "entry must be an object" :=
  Text.append_ofString_append path ": " "entry must be an object"

theorem message_negativeSize (path : Text) :
    (Fault.negativeSize path).message = path ++ ": " ++ "size must not be negative" :=
  Text.append_ofString_append path ": " "size must not be negative"

section Value

variable {path : Text} {fields : Fields}

theorem entryOfValue_of_error {fault : Malformed} (h : Entry.ofFields fields = .error fault) :
    entryOfValue path (.table fields) = .error (.entry path fault) := by
  rw [entryOfValue, h]
  rfl

theorem entryOfValue_of_ok {e : Entry} (h : Entry.ofFields fields = .ok e) :
    entryOfValue path (.table fields) =
      if e.size < 0 then .error (.negativeSize path) else .ok e := by
  rw [entryOfValue, h]
  rfl

theorem reports_notTable {γ : Type} {v : Value} (h : ∀ fields, v ≠ .table fields) :
    Sequence.Reports Blame Fault.message [(path, v)]
      (.error (.entryNotTable path) : Except Fault γ) :=
  Sequence.reports_error ⟨_, .notTable h, message_entryNotTable path⟩

/-- The value of a path is refused for its first fault. -/
theorem reports_entryOfValue (path : Text) (v : Value) :
    Sequence.Reports Blame Fault.message [(path, v)] (entryOfValue path v) := by
  cases v with
  | table fields =>
    have hfields := Entry.reports_ofFields fields
    cases hread : Entry.ofFields fields with
    | error fault =>
      rw [entryOfValue_of_error hread]
      exact Sequence.reports_error ⟨_, .field (hfields.first fault hread),
        Text.append_ofString_append path ": " _⟩
    | ok e =>
      -- the size is looked at last, when no field has a fault of its own
      have hnone := hfields.none e hread
      have hsize := (Entry.ofFields_eq_ok_iff.1 hread).size
      rw [entryOfValue_of_ok hread]
      by_cases hnegative : e.size < 0
      · rw [if_pos hnegative]
        exact Sequence.reports_error
          ⟨_, .negativeSize hnone hsize hnegative, message_negativeSize path⟩
      · rw [if_neg hnegative]
        refine Sequence.reports_singleton (by rintro _ ⟨⟩) ?_
        rintro - - text ⟨fault, hfault, -⟩
        cases hfault with
        | notTable h => exact h fields rfl
        | field h =>
          obtain ⟨rule, hrule, hfault⟩ := h.exists_mem
          exact hnone rule hrule _ hfault
        | negativeSize _ hn hnegative' =>
          rw [hsize] at hn
          obtain rfl := Value.int.inj (Option.some.inj hn)
          exact hnegative hnegative'
  | _ => exact reports_notTable (by rintro fields ⟨⟩)

end Value

/-! ## The table -/

/-- The value is a table of entries. -/
def IsTable (v : Value) : Prop :=
  ∃ fields, v = .table fields ∧
    ∀ field ∈ fields, ∃ inner, field.2 = .table inner ∧ Entry.IsGrammatical inner

/-- The fields spell the pairs, one each, in their order. -/
def Spells (fields : Fields) (pairs : List (Text × Entry)) : Prop :=
  List.Forall₂ (fun field pair => field.1 = pair.1 ∧ pair.2.IsSpelledBy field.2) fields pairs

variable {fields : Fields} {pairs : List (Text × Entry)}

theorem Spells.keys_eq (h : Spells fields pairs) : Keyed.keys fields = Keyed.keys pairs :=
  Keyed.keys_eq_of_forall₂ (R := fun v e => Entry.IsSpelledBy e v) h

theorem exists_spells_iff :
    (∃ pairs, Spells fields pairs) ↔
      ∀ field ∈ fields, ∃ inner, field.2 = .table inner ∧ Entry.IsGrammatical inner := by
  simp only [← Entry.exists_isSpelledBy_iff]
  refine Sequence.exists_forall₂_iff.trans (forall₂_congr fun field _ => ?_)
  constructor
  · rintro ⟨pair, -, h⟩
    exact ⟨pair.2, h⟩
  · rintro ⟨e, h⟩
    exact ⟨(field.1, e), rfl, h⟩

theorem ofFields_eq_ok_iff_exists_spells {i : Inventory} :
    ofFields fields = .ok i ↔ ∃ pairs, Spells fields pairs ∧ ofPairs pairs = i := by
  simp only [ofFields_eq_ok_iff, entryOfValue_eq_ok_iff, Spells]

theorem exists_ofFields_iff :
    (∃ i, ofFields fields = .ok i) ↔
      ∀ field ∈ fields, ∃ inner, field.2 = .table inner ∧ Entry.IsGrammatical inner := by
  simp only [ofFields_eq_ok_iff_exists_spells, ← exists_spells_iff]
  constructor
  · rintro ⟨_, pairs, h, -⟩
    exact ⟨pairs, h⟩
  · rintro ⟨pairs, h⟩
    exact ⟨_, pairs, h, rfl⟩

theorem ofPairs_eq_iff {i : Inventory} (h : (Keyed.keys pairs).Nodup) :
    ofPairs pairs = i ↔ pairs = i.entries := by
  have hself : (ofPairs pairs).entries = pairs := Keyed.ofPairs_eq_self h
  constructor
  · rintro rfl
    exact hself.symm
  · intro heq
    rw [heq] at hself
    obtain ⟨entries, nodup⟩ := i
    subst heq
    exact (Inventory.mk.injEq ..).mpr hself

/-- Where no path is named twice, each field gives the entry of its path. -/
theorem ofFields_eq_ok_iff_spells {i : Inventory} (hkeys : (Keyed.keys fields).Nodup) :
    ofFields fields = .ok i ↔ Spells fields i.entries := by
  rw [ofFields_eq_ok_iff_exists_spells]
  constructor
  · rintro ⟨pairs, h, hi⟩
    rw [← (ofPairs_eq_iff (h.keys_eq ▸ hkeys)).1 hi]
    exact h
  · intro h
    exact ⟨i.entries, h, (ofPairs_eq_iff i.nodup).2 rfl⟩

theorem reports_ofFields (fields : Fields) :
    Sequence.Reports Blame Fault.message fields (ofFields fields) := by
  have hfield : ∀ field : Text × Value, Sequence.Reports Blame Fault.message [field]
      (do return (field.1, ← entryOfValue field.1 field.2) : Except Fault (Text × Entry)) :=
    fun field => (reports_entryOfValue field.1 field.2).bind_pure (field.1, ·)
  exact (Sequence.Reports.mapM hfield).bind_pure ofPairs

end Inventory

/-- **A value is accepted exactly if it is a table of entries, and is blamed for its
first fault otherwise.** From a table that names no path twice, the entries are those
that its fields spell, in their order. -/
theorem Inventory.ofValue_decides (v : Value) :
    ((∃ i, ofValue v = .ok i) ↔ IsTable v) ∧
    (∀ fields i, v = .table fields → (Keyed.keys fields).Nodup →
      (ofValue v = .ok i ↔ Spells fields i.entries) ∧
      (ofValue v = .ok i → i.paths = Keyed.keys fields)) ∧
    (¬IsTable v → ∃ fault, ofValue v = .error fault ∧
      ((∀ fields, v ≠ .table fields) → fault = .notTable) ∧
      ∀ fields, v = .table fields → Sequence.IsFirst Blame fields fault.message) := by
  cases v with
  | table fields =>
    have haccepted : (∃ i, ofValue (.table fields) = .ok i) ↔ IsTable (.table fields) := by
      simp only [IsTable, Value.table.injEq, exists_eq_left']
      exact exists_ofFields_iff
    refine ⟨haccepted, ?_, ?_⟩
    · rintro _ i heq hkeys
      obtain rfl := Value.table.inj heq
      have hread := ofFields_eq_ok_iff_spells (i := i) hkeys
      exact ⟨hread, fun h => (hread.1 h).keys_eq.symm⟩
    · intro hrefused
      cases hread : ofFields fields with
      | ok i => exact absurd (haccepted.1 ⟨i, hread⟩) hrefused
      | error fault =>
        refine ⟨fault, hread, fun hnot => absurd rfl (hnot fields), ?_⟩
        rintro _ heq
        obtain rfl := Value.table.inj heq
        exact (reports_ofFields fields).first fault hread
  | _ =>
    refine ⟨⟨?_, ?_⟩, ?_, fun _ => ⟨.notTable, rfl, fun _ => rfl, ?_⟩⟩
    · rintro ⟨i, ⟨⟩⟩
    · rintro ⟨fields, ⟨⟩, -⟩
    · rintro fields i ⟨⟩
    · rintro fields ⟨⟩

/-- The second entry has two faults, and the third is none at all: the first of these is
blamed. Without them the table is read. -/
theorem Inventory.ofValue_decides_at_second_entry :
    let good : Fields :=
      [("a", .table [("name", .text "a"), ("path", .text "a"), ("size", .int 0)])]
    let bad : Fields := good ++
      ([("b", .table [("checksum", .int 1), ("size", .bool true), ("path", .text "b"),
        ("name", .text "b")]), ("c", .int 3)] : Fields)
    let i := ofPairs [("a", { name := "a", path := "a", size := 0 })]
    (Keyed.keys good).Nodup ∧ ofValue (.table good) = .ok i ∧ Spells good i.entries ∧
      ¬IsTable (.table bad) ∧ ∃ fault, ofValue (.table bad) = .error fault ∧
        fault.message = "b: size has unexpected type bool" ∧
        Sequence.IsFirst Blame bad fault.message := by
  intro good bad i
  have hkeys : (Keyed.keys good).Nodup := List.pairwise_singleton _ ("a" : Text)
  have hgood : ofValue (.table good) = .ok i := rfl
  have hbad : ofValue (.table bad) = .error (.entry "b" (.unexpectedKind "size" .bool)) := rfl
  obtain ⟨-, hread, -⟩ := ofValue_decides (.table good)
  obtain ⟨haccepted, -, hrefused⟩ := ofValue_decides (.table bad)
  have hnot : ¬IsTable (.table bad) := by
    intro htable
    obtain ⟨j, hj⟩ := haccepted.2 htable
    rw [hbad] at hj
    cases hj
  obtain ⟨fault, hfault, -, hfirst⟩ := hrefused hnot
  have hmessage : fault.message = "b: size has unexpected type bool" := by
    rw [hbad] at hfault
    obtain rfl := Except.error.inj hfault
    decide
  exact ⟨hkeys, hgood, ((hread good i rfl hkeys).1).1 hgood, hnot, fault, hfault, hmessage,
    hfirst bad rfl⟩

end Reconcile
