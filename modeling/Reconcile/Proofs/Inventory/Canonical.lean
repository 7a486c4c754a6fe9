import Reconcile.Proofs.Document.Codec
import Reconcile.Proofs.Inventory.File

/-!
# The file of an inventory is its normal form

Inventories that hold equal entries under the same paths can differ in the order of their
paths and in the offsets of their times. The table of an inventory knows neither: its paths
are sorted (`keys_sortedEntries_congr`), and its times are those of UTC. So there is one file
for all of them (`dump_congr`), and no other inventory has it (`same_of_dump_eq`). Main
statement: `dump_canonical`.
-/

namespace Reconcile

/-! ## Entries -/

namespace Entry

/-- What counts of an entry when it is compared: all of it, but of its time only the instant. -/
def content (e : Entry) : Text × Text × Int × Option Int × Bool × Option Text :=
  (e.name, e.path, e.size, e.modified.map Time.Timestamp.instant, e.isDir, e.checksum)

theorem beq_iff_content {e f : Entry} : (e == f) = true ↔ e.content = f.content := by
  have hmodified : (e.modified == f.modified) = true ↔
      e.modified.map Time.Timestamp.instant = f.modified.map Time.Timestamp.instant := by
    cases e.modified with
    | none => cases f.modified <;> simp
    | some t =>
      cases f.modified with
      | none => simp
      | some u => simpa using Time.Timestamp.beq_iff
  simp only [beq_iff, hmodified, content, Prod.mk.injEq]

theorem option_beq_iff_content {e f : Option Entry} :
    (e == f) = true ↔ e.map content = f.map content := by
  cases e with
  | none => cases f <;> simp
  | some e =>
    cases f with
    | none => simp
    | some f => simpa using beq_iff_content

end Entry

namespace Inventory

variable {i j k : Inventory} {text : String}

/-- The inventories hold equal entries under the same paths. Neither the order of the paths
nor the offsets of the times count. -/
def Same (i j : Inventory) : Prop := ∀ path, (i.get? path == j.get? path) = true

theorem same_iff : i.Same j ↔
    ∀ path, (i.get? path).map Entry.content = (j.get? path).map Entry.content :=
  forall_congr' fun _ => Entry.option_beq_iff_content

theorem Same.symm (h : i.Same j) : j.Same i :=
  same_iff.2 fun path => (same_iff.1 h path).symm

theorem Same.trans (h : i.Same j) (h' : j.Same k) : i.Same k :=
  same_iff.2 fun path => (same_iff.1 h path).trans (same_iff.1 h' path)

theorem Same.rel (h : i.Same j) (path : Text) :
    Option.Rel (fun e f => (e == f) = true) (i.get? path) (j.get? path) := by
  have hpath := h path
  generalize i.get? path = e, j.get? path = f at hpath ⊢
  cases e with
  | none =>
    cases f with
    | none => exact .none
    | some f => cases hpath
  | some e =>
    cases f with
    | none => cases hpath
    | some f => exact .some hpath

theorem Same.mem_paths_iff (h : i.Same j) {path : Text} : path ∈ i.paths ↔ path ∈ j.paths := by
  rw [Inventory.mem_paths_iff, Inventory.mem_paths_iff, ← Option.isSome_map, same_iff.1 h path,
    Option.isSome_map]

/-! ## The table -/

/-- A strictly increasing list is determined by its members. -/
theorem keys_sortedEntries_congr (h : i.Same j) :
    Keyed.keys i.sortedEntries = Keyed.keys j.sortedEntries := by
  have hi : (Keyed.keys i.sortedEntries).Perm i.paths := (sortedEntries_perm i).map _
  have hj : (Keyed.keys j.sortedEntries).Perm j.paths := (sortedEntries_perm j).map _
  have hperm : (Keyed.keys i.sortedEntries).Perm (Keyed.keys j.sortedEntries) := by
    refine (List.perm_ext_iff_of_nodup (nodup_keys_sortedEntries i)
      (nodup_keys_sortedEntries j)).2 fun path => ?_
    rw [hi.mem_iff, hj.mem_iff, h.mem_paths_iff]
  -- what has the same members is a permutation, and of those only one is increasing
  refine hperm.eq_of_pairwise ?_ (pairwise_sortedEntries i) (pairwise_sortedEntries j)
  exact fun a b _ _ hab hba => absurd hba (Text.lt_asymm hab)

/-- The sorted entries of the two go along with each other. -/
theorem forall₂_sortedEntries (h : i.Same j) :
    List.Forall₂ (fun p q => p.1 = q.1 ∧ (p.2 == q.2) = true) i.sortedEntries
      j.sortedEntries := by
  refine Keyed.forall₂_of_get? (R := fun e f => (e == f) = true) (keys_sortedEntries_congr h)
    (nodup_keys_sortedEntries i) fun path => ?_
  rw [Keyed.get?_eq_of_perm (nodup_keys_sortedEntries i) (sortedEntries_perm i),
    Keyed.get?_eq_of_perm (nodup_keys_sortedEntries j) (sortedEntries_perm j)]
  exact h.rel path

theorem toValue_congr (h : i.Same j) : i.toValue = j.toValue := by
  rw [toValue, toValue]
  refine congrArg (· >>= fun fields => pure (Value.table fields)) (Sequence.mapM_congr ?_)
  refine (forall₂_sortedEntries h).imp ?_
  rintro ⟨path, e⟩ ⟨_, f⟩ ⟨rfl, hef⟩
  exact congrArg (· >>= fun v => pure (path, v)) (Entry.isCodec.write_congr hef)

/-! ## The file -/

/-- **One file for all**: whether an inventory can be written, and as what, depends on its
content only. -/
theorem dump_congr (h : i.Same j) : i.dump = j.dump := by
  rw [dump, dump, toValue_congr h]

theorem isAscii_of_dump (h : i.dump = .ok text) : Text.IsAscii text.toList := by
  obtain ⟨v, hv, hwritable, rfl⟩ := dump_eq_ok_iff.1 h
  have hkept := isKept_toValue hv ((isWritable_toValue hv).1 hwritable) 0
  rw [String.toList_ofList]
  exact (Json.isPrinted_append.2 ⟨Json.isPrinted_written hkept 0, by decide⟩).isAscii

/-- The file of an inventory is read as the same inventory. -/
theorem exists_load_of_dump (h : i.dump = .ok text)
    (hsize : ∀ pair ∈ i.entries, 0 ≤ pair.2.size) (runtime : Runtime) (path : String) :
    ∃ k, load runtime path (.file (Utf8.encode text.toList)) = .ok k ∧ k.Same i := by
  obtain ⟨v, hv, hload⟩ := load_eq_of_dump h runtime path
  obtain ⟨k, hk, -, hsame⟩ := exists_ofValue_of_toValue hv hsize
  refine ⟨k, ?_, hsame⟩
  rw [hload, hk]
  rfl

/-- **No other inventory has the file**, because it is read as each of those that have it. -/
theorem same_of_dump_eq (hi : i.dump = .ok text) (hj : j.dump = .ok text)
    (hsizei : ∀ pair ∈ i.entries, 0 ≤ pair.2.size)
    (hsizej : ∀ pair ∈ j.entries, 0 ≤ pair.2.size) : i.Same j := by
  obtain ⟨k, hk, hki⟩ := exists_load_of_dump hi hsizei .usual ""
  obtain ⟨k', hk', hkj⟩ := exists_load_of_dump hj hsizej .usual ""
  obtain rfl : k = k' := Except.ok.inj (hk.symm.trans hk')
  exact hki.symm.trans hkj

/-- **The file is a normal form**: inventories with the same content are written as the same
bytes, in whatever order their entries were put in and whatever offsets their times have. The
bytes are ASCII, and what is read from them is written as the same bytes again. -/
theorem dump_canonical (hsame : i.Same j)
    (hi : ∀ pair ∈ i.entries, pair.2.IsWritable ∧ 0 ≤ pair.2.size) (runtime : Runtime)
    (path : String) :
    ∃ text, i.dump = .ok text ∧ j.dump = .ok text ∧
      (∀ byte ∈ Utf8.encode text.toList, byte < 0x80) ∧
      ∃ k, load runtime path (.file (Utf8.encode text.toList)) = .ok k ∧ k.dump = .ok text := by
  obtain ⟨text, htext⟩ := exists_dump_iff.2 fun pair hpair => (hi pair hpair).1
  obtain ⟨k, hload, hki⟩ :=
    exists_load_of_dump htext (fun pair hpair => (hi pair hpair).2) runtime path
  refine ⟨text, htext, (dump_congr hsame).symm.trans htext, ?_, k, hload,
    (dump_congr hki).trans htext⟩
  exact fun byte => Utf8.lt_of_mem_encode (isAscii_of_dump htext)

/-- A time without an offset and one east of UTC, in the one order of paths and in the other. -/
theorem dump_canonical_of_reversed_order :
    let file (wall : Nat) (h : wall < Time.wallLimit) (offset : Option Time.Offset) : Entry :=
      { name := "\"", path := "", size := 12, modified := some ⟨wall, h, offset⟩ }
    let east : Time.Offset := ⟨3600000000, by decide, by decide⟩
    let plain : Entry := { name := "a", path := "a", size := 0, isDir := true }
    let i := ofPairs [("é", file 1 (by decide) none), ("a", plain)]
    let j := ofPairs [("a", plain), ("é", file 3600000001 (by decide) (some east))]
    i.Same j ∧ (∀ pair ∈ i.entries, pair.2.IsWritable ∧ 0 ≤ pair.2.size) ∧
      ∃ text, i.dump = .ok text ∧ j.dump = .ok text ∧
        ∃ k, load .usual "i.json" (.file (Utf8.encode text.toList)) = .ok k ∧
          k.dump = .ok text := by
  intro file east plain i j
  have hentries : i.entries =
      ([("é", file 1 (by decide) none), ("a", plain)] : List (Text × Entry)) := rfl
  have hentries' : j.entries =
      ([("a", plain), ("é", file 3600000001 (by decide) (some east))] : List (Text × Entry)) := rfl
  have hsame : i.Same j := by
    intro path
    simp only [get?, hentries, hentries', Keyed.get?_cons, Keyed.get?_nil]
    by_cases ha : path = ("a" : Text)
    · subst ha
      decide
    · by_cases he : path = ("é" : Text)
      · subst he
        decide
      · simp [ha, he]
  have hi : ∀ pair ∈ i.entries, pair.2.IsWritable ∧ 0 ≤ pair.2.size := by
    rw [hentries]
    decide
  obtain ⟨text, hdump, hdump', -, hload⟩ := dump_canonical hsame hi .usual "i.json"
  exact ⟨hsame, hi, text, hdump, hdump', hload⟩

end Inventory

end Reconcile
