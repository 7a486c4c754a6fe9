/-!
# What the readers of documents are run by

How deep a document may go depends on the stack that its reader has, and a TOML document
that breaks a rule is refused in its reader's own words. The program chooses neither.
-/

namespace Reconcile

/-- The limits and the wording of the readers of documents. -/
structure Runtime where
  /-- How many lists and tables of a JSON text may stand in one another. -/
  jsonDepth : Nat
  /-- The room for lists and tables of a TOML document that stand in one another. -/
  tomlRoom : Nat
  /-- The wording in which a TOML document is refused. -/
  tomlRefusal : List Char → String
  /-- What the program writes goes no deeper than five. -/
  le_jsonDepth : 5 ≤ jsonDepth
  /-- A header goes no deeper than two lists. -/
  le_tomlRoom : 4 ≤ tomlRoom

/-- The limits that the readers have where a program is started anew. Of a TOML document
that breaks a rule they say no more than that. -/
def Runtime.usual : Runtime where
  jsonDepth := 990
  tomlRoom := 988
  tomlRefusal _ := "the document breaks a rule"
  le_jsonDepth := by decide
  le_tomlRoom := by decide

theorem Runtime.exists_jsonDepth_eq (runtime : Runtime) : ∃ room, runtime.jsonDepth = room + 5 :=
  ⟨_, (Nat.sub_add_cancel runtime.le_jsonDepth).symm⟩

end Reconcile
