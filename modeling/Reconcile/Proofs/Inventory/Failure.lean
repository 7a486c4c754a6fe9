import Reconcile.Command
import Reconcile.Console.Terminal
import Reconcile.Proofs.Json.Limits
import Reconcile.Proofs.Text.Ascii

/-!
# How the loading of an inventory fails

Whatever stands where an inventory is looked for, its loading ends with the inventory,
with an error that is reported, or with a reader that was stopped by a text beyond its
limits. Main statement: `inventory_load_ends`.
-/

namespace Reconcile

/-- **The three ways in which loading ends.** Only a text with a whole number that is
too long, or with values nested too deep, keeps an error from being reported. -/
theorem inventory_load_ends (runtime : Runtime) (console : Console) (path : String)
    (state : FileState) :
    (∃ i, Inventory.load runtime path state = .ok i) ∨
    (∃ e, Inventory.load runtime path state = .error e ∧ e.isReported = true ∧
      Command.failInventory console e =
        Command.printError console "Invalid inventory" e.message) ∨
    ∃ text stop, state.readText = .ok text ∧ ¬Json.outline.Within runtime.jsonDepth text ∧
      Json.read runtime.jsonDepth text = .error stop ∧
      Inventory.load runtime path state = .error (.stopped stop) := by
  cases htext : state.readText with
  | error failure =>
    refine .inr (.inl ⟨.unreadable path failure, ?_, rfl, rfl⟩)
    rw [Inventory.load, htext]
    rfl
  | ok text =>
    cases hread : Json.read runtime.jsonDepth text with
    | error stop =>
      have hload : Inventory.load runtime path state = .error (.ofJson path stop) := by
        rw [Inventory.load, htext]
        simp only [Except.mapError, bind, Except.bind, hread]
      cases stop with
      | malformed fault => exact .inr (.inl ⟨.notJson path fault, hload, rfl, rfl⟩)
      | longInteger | tooDeep =>
        refine .inr (.inr ⟨text, _, rfl, ?_, hread, hload⟩)
        intro hlimits
        obtain ⟨fault, hfault⟩ := Json.exists_fault_of_read hlimits hread
        cases hfault
    | ok v =>
      have hload :
          Inventory.load runtime path state = (Inventory.ofValue v).mapError .malformed := by
        rw [Inventory.load, htext]
        simp only [Except.mapError, bind, Except.bind, hread]
      rw [hload]
      cases Inventory.ofValue v with
      | error fault => exact .inr (.inl ⟨.malformed fault, rfl, rfl, rfl⟩)
      | ok i => exact .inl ⟨i, rfl⟩

/-- A file of `n` digits. -/
theorem load_digits (runtime : Runtime) (path : String) {n : Nat} (h : maxIntegerDigits < n) :
    Inventory.load runtime path (.file (List.replicate n 0x31)) =
      .error (.stopped (.longInteger n)) := by
  obtain ⟨m, rfl⟩ : ∃ m, n = m + 1 := ⟨n - 1, by omega⟩
  have hones : ∀ d ∈ List.replicate (m + 1) '1', d = '1' := fun _ => List.eq_of_mem_replicate
  have hdigits : ∀ d ∈ List.replicate (m + 1) '1', d.isDigit = true := by
    intro d hd
    rw [hones d hd]
    rfl
  have hascii : Text.IsAscii (List.replicate (m + 1) '1') := by
    intro d hd
    rw [hones d hd]
    decide
  have hreturn : '\r' ∉ List.replicate (m + 1) '1' := fun hd => absurd (hones _ hd) (by decide)
  have htext : (FileState.file (List.replicate (m + 1) 0x31)).readText =
      .ok (List.replicate (m + 1) '1') := by
    have hencode := FileState.readText_encode hascii hreturn
    rwa [Utf8.encode_eq_map hascii, List.map_replicate] at hencode
  have hlength : ('1' :: List.replicate m '1').length = m + 1 := by
    rw [List.length_cons, List.length_replicate]
  have hread := Json.read_of_long hdigits (by decide) (by rwa [hlength]) runtime.jsonDepth
  rw [hlength, ← List.replicate_succ] at hread
  rw [Inventory.load, htext]
  simp only [Except.mapError, bind, Except.bind, hread]
  rfl

/-- A file with nothing but 4301 digits: the error is none of the inventory, and the
program ends without its line about an invalid one. -/
theorem stopped_by_long_number :
    let e := Inventory.LoadError.stopped (.longInteger 4301)
    Inventory.load .usual "i.json" (.file (List.replicate 4301 0x31)) = .error e ∧
      e.isReported = false ∧
      Command.failInventory (.terminal 80) e = Command.stopped "" .longInteger :=
  ⟨load_digits .usual "i.json" (by decide), rfl, rfl⟩

end Reconcile
