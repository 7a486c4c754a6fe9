import Reconcile.Proofs.Comparison.Merge
import Reconcile.Proofs.Execution
import Reconcile.Proofs.Plan
import Reconcile.Proofs.Status

/-!
# Carrying out a plan settles the two sides

Once a plan has been carried out, a second merge finds nothing more to do. For one
path this is so because an action that changes a side makes both sides equal
(`effect_recommended`). Since the operations of a plan do not get in each other's
way, every path that is not excluded ends up as its own action leaves it
(`entries_afterAll_plan`). Main statement: `settled_afterAll`.
-/

namespace Reconcile

variable {o : Options} {d : Direction}

/-! ## One path -/

namespace Action

variable {here there : Option Entry}

/-- **One path**: an action that changes files makes the two sides equal. -/
theorem effect_recommended (h : (recommended (.ofSides o here there) d).changesFiles = true) :
    let after := (recommended (.ofSides o here there) d).effect (here, there)
    after.1 = after.2 := by
  cases here with
  | none =>
    cases there with
    | none => cases h
    | some e => cases d <;> rfl
  | some e =>
    cases there with
    | none => cases d <;> rfl
    | some e' =>
      rw [Status.ofSides] at h ⊢
      rcases Status.ofEntries_present o e e' with hs | hs | hs | hs
      · rw [hs] at h ⊢
        cases d with
        | localToRemote | bidirectional => rfl
        | remoteToLocal => cases h
      · rw [hs] at h ⊢
        cases d with
        | remoteToLocal | bidirectional => rfl
        | localToRemote => cases h
      · rw [hs] at h
        cases h
      · rw [hs] at h
        cases h

/-- A path that only one side has is never left alone. -/
theorem isSome_eq_of_changesFiles_eq_false
    (h : (recommended (.ofSides o here there) d).changesFiles = false) :
    here.isSome = there.isSome := by
  cases here with
  | none =>
    cases there with
    | none => rfl
    | some e => cases d <;> cases h
  | some e =>
    cases there with
    | none => cases d <;> cases h
    | some e' => rfl

end Action

/-! ## The whole plan -/

namespace Sides

/-- The plan that a merge of the two sides leads to. -/
def plan (o : Options) (d : Direction) (s : Sides) : List Operation :=
  Reconcile.plan d (s.here.compare o s.there)

/-- The action that the sides call for at a path. -/
def actionAt (o : Options) (d : Direction) (s : Sides) (path : Text) : Action :=
  .recommended (.ofSides o (s.here.get? path) (s.there.get? path)) d

variable {s s' : Sides} {ops : List Operation} {op : Operation} {path : Text}

theorem mem_plan :
    op ∈ s.plan o d ↔
      op.comparison ∈ s.here.compare o s.there ∧ op.action = s.actionAt o d op.path := by
  rw [plan, Reconcile.mem_plan]
  refine and_congr_right fun hmem => ?_
  obtain ⟨-, -, -, heq⟩ := mem_compare.1 hmem
  have hstatus : op.comparison.status =
      .ofSides o (s.here.get? op.path) (s.there.get? op.path) := congrArg Comparison.status heq
  rw [hstatus, actionAt]

theorem increasing_plan (o : Options) (d : Direction) (s : Sides) :
    Utf8.Increasing Operation.path (s.plan o d) :=
  Utf8.increasing_map.2 (increasing_compare o s.here s.there)

/-- A path where something has to be done has an operation. -/
theorem exists_mem_plan (hkept : Exclusion.excludes o.excludePatterns path = false)
    (h : (s.actionAt o d path).changesFiles = true) : ∃ op ∈ s.plan o d, op.path = path := by
  have hstatus : Status.ofSides o (s.here.get? path) (s.there.get? path) ≠ .identical := by
    intro hidentical
    rw [actionAt, hidentical] at h
    cases h
  refine ⟨⟨Comparison.ofPath o s.here s.there path, s.actionAt o d path⟩, ?_, rfl⟩
  refine mem_plan.2 ⟨mem_compare.2 ⟨?_, hkept, ?_, rfl⟩, rfl⟩
  · rw [Inventory.mem_paths_iff, Inventory.mem_paths_iff]
    exact Status.isSome_of_ofSides_ne_identical hstatus
  · exact isReported_ofPath_iff.2 (.inl hstatus)

/-- **What a path ends up with** is what its own action makes of it, in whatever order
the operations are carried out. -/
theorem entries_afterAll_plan (hperm : ops.Perm (s.plan o d))
    (hkept : Exclusion.excludes o.excludePatterns path = false) :
    (s.afterAll ops).entries path = (s.actionAt o d path).effect (s.entries path) := by
  by_cases hop : ∃ op ∈ ops, op.path = path
  · obtain ⟨op, hop, rfl⟩ := hop
    have hnodup : (ops.map Operation.path).Nodup :=
      (hperm.map _).nodup_iff.2 (increasing_plan o d s).nodup_map
    rw [entries_afterAll hnodup hop, (mem_plan.1 (hperm.mem_iff.1 hop)).2]
  · -- a path without an operation called for none
    have hidle : (s.actionAt o d path).changesFiles = false := by
      rw [← Bool.not_eq_true]
      intro hchanges
      obtain ⟨op, hmem, hpath⟩ := exists_mem_plan hkept hchanges
      exact hop ⟨op, hperm.mem_iff.2 hmem, hpath⟩
    rw [Action.effect_eq_self hidle]
    refine entries_afterAll_of_not_mem ?_
    intro op hmem hpath
    exact hop ⟨op, hmem, hpath⟩

/-- Afterwards a path is as it was and called for nothing, or its sides are equal. -/
theorem settled_path (hperm : ops.Perm (s.plan o d))
    (hkept : Exclusion.excludes o.excludePatterns path = false) :
    (s.actionAt o d path).changesFiles = false ∧
        (s.afterAll ops).entries path = s.entries path ∨
      (s.actionAt o d path).changesFiles = true ∧
        (s.afterAll ops).here.get? path = (s.afterAll ops).there.get? path := by
  have hentries := entries_afterAll_plan hperm hkept
  cases hchanges : (s.actionAt o d path).changesFiles with
  | false => exact .inl ⟨rfl, by rw [hentries, Action.effect_eq_self hchanges]⟩
  | true =>
    refine .inr ⟨rfl, ?_⟩
    have hequal : ((s.actionAt o d path).effect (s.entries path)).1 =
        ((s.actionAt o d path).effect (s.entries path)).2 := Action.effect_recommended hchanges
    rw [← hentries] at hequal
    exact hequal

/-! ## The plan after that -/

theorem kept_of_mem_plan (h : op ∈ s.plan o d) :
    Exclusion.excludes o.excludePatterns op.path = false :=
  (mem_compare.1 (mem_plan.1 h).1).2.1

theorem actionAt_congr (h : s'.entries path = s.entries path) :
    s'.actionAt o d path = s.actionAt o d path := by
  obtain ⟨hhere, hthere⟩ := Prod.mk.inj h
  rw [actionAt, actionAt, hhere, hthere]

theorem mem_plan_congr (h : s'.entries op.path = s.entries op.path) :
    op ∈ s'.plan o d ↔ op ∈ s.plan o d := by
  obtain ⟨hhere, hthere⟩ := Prod.mk.inj h
  rw [mem_plan, mem_plan, actionAt_congr h, mem_compare_congr hhere hthere]

theorem actionAt_of_equal (h : s.here.get? path = s.there.get? path) :
    s.actionAt o d path = .skip := by
  rw [actionAt, h, Status.ofSides_self]
  rfl

theorem idle_of_mem_plan_afterAll (hperm : ops.Perm (s.plan o d))
    (h : op ∈ (s.afterAll ops).plan o d) : op.action.changesFiles = false := by
  rw [(mem_plan.1 h).2]
  rcases settled_path hperm (kept_of_mem_plan h) with ⟨hidle, hsame⟩ | ⟨-, hequal⟩
  · rw [actionAt_congr hsame]
    exact hidle
  · rw [actionAt_of_equal hequal]
    rfl

theorem mem_plan_afterAll_iff (hperm : ops.Perm (s.plan o d)) (hask : op.action = .askUser) :
    op ∈ (s.afterAll ops).plan o d ↔ op ∈ s.plan o d := by
  suffices h : Exclusion.excludes o.excludePatterns op.path = false →
      (op ∈ (s.afterAll ops).plan o d ↔ op ∈ s.plan o d) from
    ⟨fun hop => (h (kept_of_mem_plan hop)).1 hop, fun hop => (h (kept_of_mem_plan hop)).2 hop⟩
  intro hkept
  rcases settled_path hperm hkept with ⟨-, hsame⟩ | ⟨hchanges, hequal⟩
  · exact mem_plan_congr hsame
  · -- the path was acted on, so neither plan leaves it to the user
    rw [mem_plan, mem_plan, actionAt_of_equal hequal, hask]
    constructor
    · rintro ⟨-, hskip⟩
      cases hskip
    · rintro ⟨-, haction⟩
      rw [← haction] at hchanges
      cases hchanges

theorem isSome_afterAll (hperm : ops.Perm (s.plan o d))
    (hkept : Exclusion.excludes o.excludePatterns path = false) :
    ((s.afterAll ops).here.get? path).isSome = ((s.afterAll ops).there.get? path).isSome := by
  rcases settled_path hperm hkept with ⟨hidle, hsame⟩ | ⟨-, hequal⟩
  · obtain ⟨hhere, hthere⟩ := Prod.mk.inj hsame
    rw [hhere, hthere]
    exact Action.isSome_eq_of_changesFiles_eq_false hidle
  · rw [hequal]

end Sides

/-- What carrying out a plan towards `d` has to make of the two sides. -/
structure Settled (o : Options) (d : Direction) (before after : Sides) : Prop where
  actionable : (Summary.ofOperations (plan d (after.here.compare o after.there))).actionable = 0
  askUser : (plan d (after.here.compare o after.there)).filter (·.action = .askUser) =
    (plan d (before.here.compare o before.there)).filter (·.action = .askUser)
  paths : ∀ path, Exclusion.excludes o.excludePatterns path = false →
    (path ∈ after.here.paths ↔ path ∈ after.there.paths)
  localToRemote : d = .localToRemote → after.here = before.here
  remoteToLocal : d = .remoteToLocal → after.there = before.there

/-- **Carrying out a plan settles the two sides**, in whatever order its operations
are carried out. -/
theorem settled_afterAll (o : Options) (d : Direction) (here there : Inventory)
    (ops : List Operation) (hperm : ops.Perm (plan d (here.compare o there))) :
    Settled o d ⟨here, there⟩ ((Sides.mk here there).afterAll ops) := by
  have haction : ∀ op ∈ ops, op.action = .recommended op.comparison.status d :=
    fun op hop => (mem_plan.1 (hperm.mem_iff.1 hop)).2
  have hplan : ops.Perm ((Sides.mk here there).plan o d) := hperm
  constructor
  case actionable =>
    exact Summary.actionable_eq_zero_iff.2 fun op => Sides.idle_of_mem_plan_afterAll hplan
  case askUser =>
    refine ((Sides.increasing_plan o d _).sublist List.filter_sublist).eq_of_mem_iff
      ((Sides.increasing_plan o d _).sublist List.filter_sublist) ?_
    intro op
    rw [List.mem_filter, List.mem_filter, decide_eq_true_iff]
    exact and_congr_left (Sides.mem_plan_afterAll_iff hplan)
  case paths =>
    intro path hkept
    rw [Inventory.mem_paths_iff, Inventory.mem_paths_iff, Sides.isSome_afterAll hplan hkept]
  case localToRemote =>
    rintro rfl
    refine Sides.here_afterAll ?_
    intro op hop
    exact haction op hop ▸ Action.recommended_localToRemote_ne _
  case remoteToLocal =>
    rintro rfl
    refine Sides.there_afterAll ?_
    intro op hop
    exact haction op hop ▸ Action.recommended_remoteToLocal_ne _

/-- A file that only one side has, another that only the other has, and one of two
sizes, carried out from the last to the first. -/
theorem settled_of_reversed_order :
    let file (name : Text) (size : Int) : Entry := { name, path := name, size }
    let here := Inventory.ofPairs [("a", file "a" 1), ("b", file "b" 2)]
    let there := Inventory.ofPairs [("b", file "b" 3), ("c", file "c" 4)]
    let comparison := Comparison.ofPath {} here there
    let ops : List Operation :=
      [⟨comparison "c", .download⟩, ⟨comparison "b", .askUser⟩, ⟨comparison "a", .upload⟩]
    let after := (Sides.mk here there).afterAll ops
    ops.Perm (plan .bidirectional (here.compare {} there)) ∧
      Settled {} .bidirectional ⟨here, there⟩ after ∧
      after.here.paths = (["a", "b", "c"] : List Text) ∧
      after.there.paths = (["b", "c", "a"] : List Text) := by
  intro file here there comparison ops after
  have hcompare : here.compare {} there = [comparison "a", comparison "b", comparison "c"] := by
    have hunion : here.unionPaths there = (["a", "b", "c"] : List Text) := rfl
    have hfound : ((["a", "b", "c"] : List Text).map
        (Finding.ofPath {} here there)).filterMap Finding.comparison? =
          [comparison "a", comparison "b", comparison "c"] := rfl
    rw [Inventory.compare, Inventory.merge, hunion, hfound]
    exact List.mergeSort_of_pairwise (by decide)
  have hperm : ops.Perm (plan .bidirectional (here.compare {} there)) := by
    rw [hcompare]
    exact (List.reverse_perm ops).symm
  exact ⟨hperm, settled_afterAll {} .bidirectional here there ops hperm, by decide, by decide⟩

end Reconcile
