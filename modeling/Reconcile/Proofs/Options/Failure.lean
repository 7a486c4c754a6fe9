import Reconcile.Command
import Reconcile.Console.Terminal
import Reconcile.Proofs.Options.Validation
import Reconcile.Proofs.Text.Ascii
import Reconcile.Proofs.Toml.Limits

/-!
# How the loading of options fails

Whatever stands where options are looked for, their loading ends with options, with an
error that is reported, or with a reader that was stopped by a document beyond its
limits. That a valid table is then read leaves no room for another error, whatever the
document holds. Main statement: `options_load_ends`.
-/

namespace Reconcile

namespace Options

/-- What is loaded from a document that is read. -/
theorem load_of_read {runtime : Runtime} (console : Console) {path : String} {state : FileState}
    {text : List Char} {document : Fields} (htext : state.readText = .ok text)
    (hread : Toml.read runtime.tomlRoom text = .ok document) :
    (∃ o, load runtime path state = .ok o) ∨
    ∃ e, load runtime path state = .error e ∧ e.isReported = true ∧
      Command.failOptions console e = Command.printError console "Invalid config" e.message := by
  rw [load, htext]
  simp only [Except.mapError, bind, Except.bind, hread]
  split
  · rename_i fields _
    cases hvalid : validate fields with
    | error fault => exact .inr ⟨.table path fault, rfl, rfl, rfl⟩
    | ok _ =>
      -- what is valid can be read, so the last step leaves no error
      obtain ⟨o, ho⟩ := (validate_eq_ok_iff.1 hvalid).exists_ofFields
      refine .inl ⟨o, ?_⟩
      rw [ho]
  · exact .inr ⟨.notTable path, rfl, rfl, rfl⟩

end Options

/-- **The three ways in which loading ends.** Only a document with a whole number that is
too long, or with values nested too deep, keeps an error from being reported. -/
theorem options_load_ends (runtime : Runtime) (console : Console) (path : String)
    (state : FileState) :
    (∃ o, Options.load runtime path state = .ok o) ∨
    (∃ e, Options.load runtime path state = .error e ∧ e.isReported = true ∧
      Command.failOptions console e = Command.printError console "Invalid config" e.message) ∨
    ∃ text stop, state.readText = .ok text ∧ ¬Toml.outline.Within runtime.tomlRoom text ∧
      Toml.read runtime.tomlRoom text = .error stop ∧
      Options.load runtime path state =
        .error (.ofToml path (runtime.tomlRefusal text) stop) := by
  cases htext : state.readText with
  | error failure =>
    refine .inr (.inl ⟨.unreadable path failure, ?_, rfl, rfl⟩)
    rw [Options.load, htext]
    rfl
  | ok text =>
    cases hread : Toml.read runtime.tomlRoom text with
    | ok document => exact (Options.load_of_read console htext hread).imp_right .inl
    | error stop =>
      have hload : Options.load runtime path state =
          .error (.ofToml path (runtime.tomlRefusal text) stop) := by
        rw [Options.load, htext]
        simp only [Except.mapError, bind, Except.bind, hread]
      cases stop with
      | malformed => exact .inr (.inl ⟨.notToml path _, hload, rfl, rfl⟩)
      | longInteger | tooDeep =>
        refine .inr (.inr ⟨text, _, rfl, ?_, hread, hload⟩)
        intro hlimits
        cases Toml.eq_malformed_of_read runtime.le_tomlRoom hlimits hread

/-- The file `x = 11…1` with `n` digits. -/
def longNumberFile (n : Nat) : FileState :=
  .file ([0x78, 0x20, 0x3D, 0x20] ++ (List.replicate n 0x31 ++ [0x0A]))

theorem readText_longNumberFile (n : Nat) :
    (longNumberFile n).readText =
      .ok ('x' :: ' ' :: '=' :: ' ' :: (List.replicate n '1' ++ ['\n'])) := by
  have hascii : Text.IsAscii ('x' :: ' ' :: '=' :: ' ' :: (List.replicate n '1' ++ ['\n'])) := by
    simp only [Text.isAscii_cons, Text.isAscii_append]
    refine ⟨by decide, by decide, by decide, by decide, ?_, by decide⟩
    intro d hd
    rw [List.eq_of_mem_replicate hd]
    decide
  have hreturn : '\r' ∉ 'x' :: ' ' :: '=' :: ' ' :: (List.replicate n '1' ++ ['\n']) := by
    simp [List.mem_replicate]
  have hbytes := FileState.readText_encode hascii hreturn
  rw [Utf8.encode_eq_map hascii] at hbytes
  simp only [List.map_cons, List.map_append, List.map_replicate] at hbytes
  exact hbytes

theorem load_longNumberFile (runtime : Runtime) (path : String) {n : Nat}
    (h : maxIntegerDigits < n) :
    Options.load runtime path (longNumberFile n) = .error (.longInteger n) := by
  rw [Options.load, readText_longNumberFile]
  simp only [Except.mapError, bind, Except.bind, Toml.read_of_long h runtime.tomlRoom]
  rfl

/-- A whole number that is too long, in a field that nothing looks at, stops the reader:
the error is none of the configuration, and the program ends without its line about an
invalid one. -/
theorem stopped_by_unread_number :
    let e := Options.LoadError.longInteger 4301
    Options.load .usual "config.toml" (longNumberFile 4301) = .error e ∧ e.isReported = false ∧
      Command.failOptions (.terminal 80) e = Command.stopped "" .longInteger :=
  ⟨load_longNumberFile .usual "config.toml" (by decide), rfl, rfl⟩

end Reconcile
