import Reconcile.Execution

/-!
# What operations do to one path

An operation reaches no path but its own. So operations on different paths can be
carried out in any order: what a path has afterwards is what its one operation makes
of it (`entries_afterAll`), and a path without an operation keeps what it has
(`entries_afterAll_of_not_mem`).
-/

namespace Reconcile

/-- What an action makes of the entries that the two sides have for its path. -/
def Action.effect : Action → Option Entry × Option Entry → Option Entry × Option Entry
  | .upload, (here, there) => (here, here.or there)
  | .download, (here, there) => (there.or here, there)
  | .deleteLocal, (_, there) => (none, there)
  | .deleteRemote, (here, _) => (here, none)
  | .skip, entries | .askUser, entries => entries

theorem Action.effect_eq_self {a : Action} (h : a.changesFiles = false)
    (entries : Option Entry × Option Entry) : a.effect entries = entries := by
  cases a with
  | skip | askUser => rfl
  | upload | download | deleteLocal | deleteRemote => cases h

namespace Sides

/-- The entries of a path on the two sides. -/
def entries (s : Sides) (path : Text) : Option Entry × Option Entry :=
  (s.here.get? path, s.there.get? path)

variable {s : Sides} {ops : List Operation} {path path' : Text} {a : Action}

/-! ## One operation -/

theorem get?_copied (source target : Inventory) :
    (copied path source target).get? path' =
      if path' = path then (source.get? path).or (target.get? path) else target.get? path' := by
  rw [copied]
  cases source.get? path with
  | some e => exact Inventory.get?_put path e target path'
  | none =>
    by_cases h : path' = path
    · subst h
      simp
    · simp [h]

/-- **One step**: an action works on its own path only. -/
theorem entries_after :
    (s.after path a).entries path' =
      if path' = path then a.effect (s.entries path) else s.entries path' := by
  by_cases h : path' = path
  · subst h
    cases a <;> simp [after, entries, Action.effect, get?_copied, Inventory.get?_erase]
  · cases a <;> simp [after, entries, get?_copied, Inventory.get?_erase, h]

theorem here_after (h : a ≠ .download ∧ a ≠ .deleteLocal) : (s.after path a).here = s.here := by
  cases a with
  | download => exact absurd rfl h.1
  | deleteLocal => exact absurd rfl h.2
  | upload | deleteRemote | skip | askUser => rfl

theorem there_after (h : a ≠ .upload ∧ a ≠ .deleteRemote) : (s.after path a).there = s.there := by
  cases a with
  | upload => exact absurd rfl h.1
  | deleteRemote => exact absurd rfl h.2
  | download | deleteLocal | skip | askUser => rfl

/-! ## Any number of operations -/

theorem afterAll_cons (op : Operation) (ops : List Operation) :
    s.afterAll (op :: ops) = (s.after op.path op.action).afterAll ops := rfl

theorem entries_afterAll_of_not_mem (h : ∀ op ∈ ops, op.path ≠ path) :
    (s.afterAll ops).entries path = s.entries path := by
  induction ops generalizing s with
  | nil => rfl
  | cons op rest ih =>
    obtain ⟨hop, hrest⟩ := List.forall_mem_cons.1 h
    rw [afterAll_cons, ih hrest, entries_after, if_neg (Ne.symm hop)]

/-- **A run of steps**: if the operations have different paths, each has its own
effect on its path, wherever in the run it stands. -/
theorem entries_afterAll (hnodup : (ops.map Operation.path).Nodup) {op : Operation}
    (hop : op ∈ ops) :
    (s.afterAll ops).entries op.path = op.action.effect (s.entries op.path) := by
  induction ops generalizing s with
  | nil => cases hop
  | cons first rest ih =>
    obtain ⟨hfirst, hrest⟩ := List.nodup_cons.1 hnodup
    rw [afterAll_cons]
    rcases List.mem_cons.1 hop with rfl | hop
    · -- what comes after has other paths
      have hother : ∀ op' ∈ rest, op'.path ≠ op.path := by
        intro op' hop' heq
        exact hfirst (heq ▸ List.mem_map_of_mem hop')
      rw [entries_afterAll_of_not_mem hother, entries_after, if_pos rfl]
    · -- the first operation leaves the path of `op` as it finds it
      have hne : op.path ≠ first.path := by
        intro heq
        exact hfirst (heq ▸ List.mem_map_of_mem hop)
      rw [ih hrest hop, entries_after, if_neg hne]

theorem here_afterAll (h : ∀ op ∈ ops, op.action ≠ .download ∧ op.action ≠ .deleteLocal) :
    (s.afterAll ops).here = s.here := by
  induction ops generalizing s with
  | nil => rfl
  | cons op rest ih =>
    obtain ⟨hop, hrest⟩ := List.forall_mem_cons.1 h
    rw [afterAll_cons, ih hrest, here_after hop]

theorem there_afterAll (h : ∀ op ∈ ops, op.action ≠ .upload ∧ op.action ≠ .deleteRemote) :
    (s.afterAll ops).there = s.there := by
  induction ops generalizing s with
  | nil => rfl
  | cons op rest ih =>
    obtain ⟨hop, hrest⟩ := List.forall_mem_cons.1 h
    rw [afterAll_cons, ih hrest, there_after hop]

end Sides

end Reconcile
