import Reconcile.Proofs.Comparison.Representation
import Reconcile.Proofs.Plan
import Reconcile.Proofs.Sequence
import Reconcile.Proofs.Tally
import Reconcile.Session

/-!
# What holds all through a session

A step replaces one part of a session, from what the others are, or none (`moves_of_step`).
So its comparisons always come from some merge, through journals and directions, and its
operations are the plan of such comparisons, although the inventories and the settings may
have changed since (`Sound`). One step keeps this (`Sound.of_moves`), and so do any number of
them, whether they fail or not. Main statements: `operations_of_run` and `tally_of_run`.
-/

namespace Reconcile

/-- What an operation may do, by the sides that its comparison has: nothing is taken from a
side that lacks the path, or deleted where the other side has it, and what needs review is
left to the user. -/
structure Operation.IsBacked (op : Operation) : Prop where
  upload : op.action = .upload → op.comparison.here.isSome = true
  download : op.action = .download → op.comparison.there.isSome = true
  deleteLocal : op.action = .deleteLocal →
    op.comparison.here.isSome = true ∧ op.comparison.there = none
  deleteRemote : op.action = .deleteRemote →
    op.comparison.there.isSome = true ∧ op.comparison.here = none
  askUser : op.action = .askUser ↔ op.comparison.status.needsReview = true

/-- The recommended action for what a merge and its refinements have left. -/
theorem Operation.IsBacked.of_represents {op : Operation} {d : Direction}
    {here there : Inventory} {steps : List Refinement}
    (h : op.comparison.Represents here there steps)
    (haction : op.action = .recommended op.comparison.status d) : op.IsBacked := by
  -- a side is missing only where the status says so
  have hhere : op.comparison.status ≠ .remoteOnly → op.comparison.here.isSome = true :=
    fun hne => Option.isSome_iff_ne_none.2 fun hnone => hne (h.remoteOnly_iff.2 hnone)
  have hthere : op.comparison.status ≠ .localOnly → op.comparison.there.isSome = true :=
    fun hne => Option.isSome_iff_ne_none.2 fun hnone => hne (h.localOnly_iff.2 hnone)
  constructor <;> rw [haction]
  case upload =>
    intro hup
    obtain ⟨hstatus | hstatus, -⟩ := Action.recommended_eq_upload_iff.1 hup <;>
      exact hhere (by rw [hstatus]; decide)
  case download =>
    intro hdown
    obtain ⟨hstatus | hstatus, -⟩ := Action.recommended_eq_download_iff.1 hdown <;>
      exact hthere (by rw [hstatus]; decide)
  case deleteLocal =>
    intro hdelete
    obtain ⟨hstatus, -⟩ := Action.recommended_eq_deleteLocal_iff.1 hdelete
    exact ⟨hhere (by rw [hstatus]; decide), h.localOnly_iff.1 hstatus⟩
  case deleteRemote =>
    intro hdelete
    obtain ⟨hstatus, -⟩ := Action.recommended_eq_deleteRemote_iff.1 hdelete
    exact ⟨hthere (by rw [hstatus]; decide), h.remoteOnly_iff.1 hstatus⟩
  case askUser => exact Action.recommended_eq_askUser_iff

/-- A tally has counted and noted all that an earlier one has. -/
structure Tally.Extends (t' t : Tally) : Prop where
  total : t.total ≤ t'.total
  errors : t.errors <+: t'.errors

namespace Tally.Extends

theorem refl (t : Tally) : t.Extends t := ⟨Int.le_refl _, List.prefix_rfl⟩

theorem trans {t t' t'' : Tally} (h : t'.Extends t) (h' : t''.Extends t') : t''.Extends t :=
  ⟨h.total.trans h'.total, h.errors.trans h'.errors⟩

theorem recordAll (t : Tally) (outcomes : List (Operation × Option Text)) :
    (t.recordAll outcomes).Extends t where
  total := by
    rw [total_recordAll]
    omega
  errors := by
    rw [errors_recordAll]
    exact List.prefix_append _ _

end Tally.Extends

namespace Session

variable {s s' : Session} {runtime : Runtime} {step : Step} {a : Answer} {op : Operation}

/-! ## Steps -/

/-- The session after a step. -/
def after (runtime : Runtime) (s : Session) (step : Step) : Session :=
  match s.step runtime step with
  | .ok (s', _) => s'
  | .error _ => s

/-- The session after some steps. -/
def run (runtime : Runtime) (s : Session) (steps : List Step) : Session :=
  steps.foldl (after runtime) s

/-- What a step makes of a session. -/
inductive Moves (s : Session) : Session → Prop
  | inventory (side : Side) (i : Inventory) : Moves s (s.withInventory side i).1
  | settings (settings : Settings) : Moves s { s with settings }
  | build {m : Merge} (hm : s.settings.merge s.here s.there = .ok m) :
    Moves s { s with comparisons := m.comparisons }
  | refine (r : Refinement) : Moves s { s with comparisons := r.apply s.comparisons }
  | plan (d : Direction) : Moves s { s with operations := plan d s.comparisons }
  | report (error : Operation → Option Text) :
    Moves s { s with tally := s.tally.recordAll (s.operations.map fun op => (op, error op)) }
  | look : Moves s s

theorem exists_plan_of_planGiven {direction : Value} {cs : List Comparison}
    {ops : List Operation} (h : planGiven direction cs = .ok ops) :
    ∃ d, ops = Reconcile.plan d cs := by
  rw [planGiven] at h
  split at h
  · rename_i hempty
    rw [List.isEmpty_iff.1 hempty]
    exact ⟨.bidirectional, (Except.ok.inj h).symm⟩
  · cases hd : direction.toDirection with
    | error fault =>
      rw [hd] at h
      cases h
    | ok d =>
      rw [hd] at h
      exact ⟨d, (Except.ok.inj h).symm⟩

/-- **What a step does** when it succeeds. -/
theorem moves_of_step (h : s.step runtime step = .ok (s', a)) : Moves s s' := by
  cases step with
  | load side json =>
    simp only [Session.step, Sequence.bind_eq_ok_iff, Sequence.mapError_eq_ok_iff] at h
    obtain ⟨v, -, i, -, h⟩ := h
    exact (Prod.mk.inj (Except.ok.inj h)).1 ▸ .inventory side i
  | put side path entry =>
    simp only [Session.step, Sequence.bind_eq_ok_iff, Sequence.mapError_eq_ok_iff] at h
    obtain ⟨key, -, e, -, h⟩ := h
    exact (Prod.mk.inj (Except.ok.inj h)).1 ▸ .inventory side _
  | remove side path =>
    simp only [Session.step, Sequence.bind_eq_ok_iff] at h
    obtain ⟨key, -, h⟩ := h
    split at h <;> exact (Prod.mk.inj (Except.ok.inj h)).1 ▸ .inventory side _
  | override overrides =>
    simp only [Session.step, Sequence.bind_eq_ok_iff, Sequence.mapError_eq_ok_iff] at h
    obtain ⟨settings, -, h⟩ := h
    exact (Prod.mk.inj (Except.ok.inj h)).1 ▸ .settings settings
  | build =>
    simp only [Session.step, Sequence.bind_eq_ok_iff, Sequence.mapError_eq_ok_iff] at h
    obtain ⟨m, hm, h⟩ := h
    exact (Prod.mk.inj (Except.ok.inj h)).1 ▸ .build hm
  | journal j => exact (Prod.mk.inj (Except.ok.inj h)).1 ▸ .refine (.journal j)
  | filter direction =>
    simp only [Session.step, Sequence.bind_eq_ok_iff, Sequence.mapError_eq_ok_iff] at h
    obtain ⟨r, -, h⟩ := h
    exact (Prod.mk.inj (Except.ok.inj h)).1 ▸ .refine r
  | select => exact (Prod.mk.inj (Except.ok.inj h)).1 ▸ .look
  | plan direction =>
    simp only [Session.step, Sequence.bind_eq_ok_iff, Sequence.mapError_eq_ok_iff] at h
    obtain ⟨ops, hops, h⟩ := h
    obtain ⟨d, rfl⟩ := exists_plan_of_planGiven hops
    exact (Prod.mk.inj (Except.ok.inj h)).1 ▸ .plan d
  | report errors => exact (Prod.mk.inj (Except.ok.inj h)).1 ▸ .report _

/-- A step that fails leaves the session as it was. -/
theorem moves_after (runtime : Runtime) (s : Session) (step : Step) :
    Moves s (s.after runtime step) := by
  rw [after]
  split
  · exact moves_of_step ‹_›
  · exact .look

/-- **What every step keeps holds after any number of steps.** -/
theorem run_induction {P : Session → Prop} (hmoves : ∀ s s', P s → Moves s s' → P s')
    (runtime : Runtime) (steps : List Step) (h : P s) : P (s.run runtime steps) := by
  induction steps generalizing s with
  | nil => exact h
  | cons step steps ih => exact ih (hmoves s _ h (moves_after runtime s step))

/-! ## Comparisons and operations -/

/-- Some comparisons go back to a merge of two inventories. -/
def Traced (cs : List Comparison) : Prop := ∃ here there steps, Represents here there steps cs

/-- What the comparisons and the operations of a session have to be. -/
structure Sound (s : Session) : Prop where
  comparisons : Traced s.comparisons
  operations : ∃ d cs, Traced cs ∧ s.operations = Reconcile.plan d cs

theorem traced_nil : Traced [] := ⟨.empty, .empty, [], .nil, List.forall_mem_nil _⟩

/-- A session begins without comparisons and operations. -/
theorem sound_start (settings : Settings) : Sound { settings } :=
  ⟨traced_nil, .bidirectional, [], traced_nil, rfl⟩

theorem traced_of_merge {settings : Settings} {here there : Inventory} {m : Merge}
    (h : settings.merge here there = .ok m) : Traced m.comparisons := by
  obtain ⟨_, -, hm⟩ := Sequence.bind_eq_ok_iff.1 h
  obtain rfl := Except.ok.inj hm
  exact ⟨here, there, [], represents_compare settings.options here there⟩

/-- **One step** keeps a session sound. -/
theorem Sound.of_moves (h : s.Sound) (hmoves : Moves s s') : s'.Sound := by
  cases hmoves with
  | inventory side i => cases side <;> exact ⟨h.comparisons, h.operations⟩
  | settings | report | look => exact ⟨h.comparisons, h.operations⟩
  | build hm => exact ⟨traced_of_merge hm, h.operations⟩
  | refine r =>
    obtain ⟨here, there, steps, hrepresents⟩ := h.comparisons
    exact ⟨⟨here, there, _, hrepresents.apply r⟩, h.operations⟩
  | plan d => exact ⟨h.comparisons, d, _, h.comparisons, rfl⟩

/-! ## What is planned -/

/-- A session that is sound plans each path once. -/
theorem Sound.nodup_paths (h : s.Sound) : (s.operations.map Operation.path).Nodup := by
  obtain ⟨d, cs, ⟨here, there, steps, hrepresents⟩, hops⟩ := h.operations
  rw [hops, map_path_plan]
  exact hrepresents.increasing.nodup_map

theorem Sound.isBacked (h : s.Sound) (hop : op ∈ s.operations) : op.IsBacked := by
  obtain ⟨d, cs, ⟨here, there, steps, hrepresents⟩, hops⟩ := h.operations
  obtain ⟨hmem, haction⟩ := mem_plan.1 (hops ▸ hop)
  exact .of_represents (hrepresents.each _ hmem) haction

/-- **Operations of a session**: whatever steps it goes through, and whichever of them fail,
it plans each path once, and no operation that its comparison does not back. -/
theorem operations_of_run (runtime : Runtime) (settings : Settings) (steps : List Step) :
    let s := run runtime { settings } steps
    (s.operations.map Operation.path).Nodup ∧ ∀ op ∈ s.operations, op.IsBacked := by
  have hsound : (run runtime { settings } steps).Sound :=
    run_induction (fun _ _ h hmoves => h.of_moves hmoves) runtime steps (sound_start settings)
  exact ⟨hsound.nodup_paths, fun _ hop => hsound.isBacked hop⟩

/-! ## The tally -/

/-- A report records each operation once. -/
theorem total_after_report (runtime : Runtime) (s : Session) (errors : Fields) :
    (s.after runtime (.report errors)).tally.total = s.tally.total + s.operations.length := by
  show (s.tally.recordAll _).total = _
  rw [Tally.total_recordAll, List.length_map]

theorem extends_of_moves (h : Moves s s') : s'.tally.Extends s.tally := by
  cases h with
  | inventory side i => cases side <;> exact .refl s.tally
  | settings | build | refine | plan | look => exact .refl s.tally
  | report error => exact .recordAll s.tally _

/-- **The tally of a session** loses nothing, whatever steps it goes through. -/
theorem tally_of_run (runtime : Runtime) (s : Session) (steps : List Step) :
    (s.run runtime steps).tally.Extends s.tally :=
  run_induction (P := fun s' => s'.tally.Extends s.tally)
    (fun _ _ h hmoves => h.trans (extends_of_moves hmoves)) runtime steps (.refl s.tally)

end Session

end Reconcile
