import Reconcile.Proofs.Comparison.Refinement
import Reconcile.Proofs.Plan
import Reconcile.Proofs.Status

/-!
# Plans are safe

Whatever journals and directions a merge goes through before it is planned, no
operation overwrites an entry that is not older, and none deletes an entry but the
one that only the destination of a one-way direction has. Main statement:
`plan_refine_safe`.
-/

namespace Reconcile

/-- What an operation of a plan towards `d` must not go beyond. -/
structure Operation.Safe (o : Options) (here there : Inventory) (d : Direction)
    (op : Operation) : Prop where
  known : op.path ∈ here.paths ∨ op.path ∈ there.paths
  kept : Exclusion.excludes o.excludePatterns op.path = false
  upload : op.action = .upload →
    ∃ e, here.get? op.path = some e ∧
      ∀ e', there.get? op.path = some e' → o.compareTimestamp = true ∧ e.LaterThan e'
  download : op.action = .download →
    ∃ e, there.get? op.path = some e ∧
      ∀ e', here.get? op.path = some e' → o.compareTimestamp = true ∧ e.LaterThan e'
  deleteLocal : op.action = .deleteLocal →
    d = .remoteToLocal ∧ op.path ∈ here.paths ∧ op.path ∉ there.paths
  deleteRemote : op.action = .deleteRemote →
    d = .localToRemote ∧ op.path ∈ there.paths ∧ op.path ∉ here.paths
  bidirectional : d = .bidirectional → op.action ≠ .deleteLocal ∧ op.action ≠ .deleteRemote
  localToRemote : d = .localToRemote → op.action ≠ .download ∧ op.action ≠ .deleteLocal
  remoteToLocal : d = .remoteToLocal → op.action ≠ .upload ∧ op.action ≠ .deleteRemote

variable {o : Options} {d : Direction} {s : Status}

namespace Status

variable {here there : Option Entry}

/-- A side that is newer or alone has the path, and beats the other side if that has
it too. -/
theorem newer_of_ofSides (h : ofSides o here there = s) (hs : s = .localNewer ∨ s = .localOnly) :
    ∃ e, here = some e ∧ ∀ e', there = some e' → o.compareTimestamp = true ∧ e.LaterThan e' := by
  rcases hs with rfl | rfl
  · obtain ⟨e, e', rfl, rfl, hnewer⟩ := ofSides_eq_localNewer_iff.1 h
    refine ⟨e, rfl, ?_⟩
    rintro _ ⟨⟩
    exact hnewer
  · obtain ⟨hhere, rfl⟩ := ofSides_eq_localOnly_iff.1 h
    obtain ⟨e, rfl⟩ := Option.isSome_iff_exists.1 hhere
    refine ⟨e, rfl, ?_⟩
    rintro _ ⟨⟩

theorem newer_of_ofSides' (h : ofSides o here there = s)
    (hs : s = .remoteNewer ∨ s = .remoteOnly) :
    ∃ e, there = some e ∧ ∀ e', here = some e' → o.compareTimestamp = true ∧ e.LaterThan e' := by
  refine newer_of_ofSides (s := s.swap) (by rw [ofSides_swap o here there, h]) ?_
  rcases hs with rfl | rfl
  · exact .inl rfl
  · exact .inr rfl

end Status

variable {here there : Inventory}

/-- **Plan safety**: after any journals and directions, in any order, every operation
of the plan is safe. -/
theorem plan_refine_safe (o : Options) (here there : Inventory) (steps : List Refinement)
    (d : Direction) :
    ∀ op ∈ plan d (refine steps (here.compare o there)), op.Safe o here there d := by
  intro op hop
  obtain ⟨hmem, haction⟩ := mem_plan.1 hop
  obtain ⟨hknown, hkept, -, hleft⟩ := mem_refine_compare hmem
  -- a conflict is left to the user, so any other action goes back to the two entries
  have hstatus : ∀ s, op.comparison.status = s → s ≠ .conflict →
      Status.ofSides o (here.get? op.path) (there.get? op.path) = s := by
    rintro s rfl hne
    exact (hleft.status_eq_ofSides hne).symm
  constructor
  case known => exact hknown
  case kept => exact hkept
  case upload =>
    intro hup
    obtain ⟨hs, -⟩ := Action.recommended_eq_upload_iff.1 (haction ▸ hup)
    exact Status.newer_of_ofSides (hstatus _ rfl (by rcases hs with h | h <;> simp [h])) hs
  case download =>
    intro hdown
    obtain ⟨hs, -⟩ := Action.recommended_eq_download_iff.1 (haction ▸ hdown)
    exact Status.newer_of_ofSides' (hstatus _ rfl (by rcases hs with h | h <;> simp [h])) hs
  case deleteLocal =>
    intro hdel
    obtain ⟨hs, hd⟩ := Action.recommended_eq_deleteLocal_iff.1 (haction ▸ hdel)
    obtain ⟨hhere, hthere⟩ := Status.ofSides_eq_localOnly_iff.1 (hstatus _ hs (by decide))
    rw [Inventory.mem_paths_iff, Inventory.mem_paths_iff, hthere]
    exact ⟨hd, hhere, by decide⟩
  case deleteRemote =>
    intro hdel
    obtain ⟨hs, hd⟩ := Action.recommended_eq_deleteRemote_iff.1 (haction ▸ hdel)
    obtain ⟨hhere, hthere⟩ := Status.ofSides_eq_remoteOnly_iff.1 (hstatus _ hs (by decide))
    rw [Inventory.mem_paths_iff, Inventory.mem_paths_iff, hhere]
    exact ⟨hd, hthere, by decide⟩
  case bidirectional =>
    rintro rfl
    exact haction ▸ Action.recommended_bidirectional_ne _
  case localToRemote =>
    rintro rfl
    exact haction ▸ Action.recommended_localToRemote_ne _
  case remoteToLocal =>
    rintro rfl
    exact haction ▸ Action.recommended_remoteToLocal_ne _

/-- A newer file that a journal and a direction leave in the plan. -/
theorem upload_of_newer_safe :
    let file (time : Nat) (h : time < Time.wallLimit) : Entry :=
      { name := "a", path := "a", size := 1, modified := some ⟨time, h, none⟩ }
    let newer := file 3000000 (by decide)
    let older := file 0 (by decide)
    let here := Inventory.ofPairs [("a", newer)]
    let there := Inventory.ofPairs [("a", older)]
    let steps := [.journal ⟨["a", "b"], ["b"]⟩, .towards .localToRemote]
    let op : Operation := ⟨Comparison.ofPath {} here there "a", .upload⟩
    op ∈ plan .localToRemote (refine steps (here.compare {} there)) ∧
      op.Safe {} here there .localToRemote := by
  intro file newer older here there steps op
  have hstatus : op.comparison.status = .localNewer := by
    show Status.ofEntries {} newer older = .localNewer
    exact Status.ofEntries_eq_localNewer_iff.2 ⟨rfl, _, _, rfl, rfl, by decide⟩
  have hcompare : op.comparison ∈ here.compare {} there :=
    mem_compare.2 ⟨.inl (by decide), by decide, by rw [Comparison.isReported, hstatus]; rfl, rfl⟩
  have hrefine : op.comparison ∈ refine steps (here.compare {} there) :=
    List.mem_filter.2 ⟨List.mem_map.2 ⟨op.comparison, hcompare, rfl⟩, by rw [hstatus]; rfl⟩
  have hop : op ∈ plan .localToRemote (refine steps (here.compare {} there)) :=
    mem_plan.2 ⟨hrefine, by rw [hstatus]; rfl⟩
  exact ⟨hop, plan_refine_safe {} here there steps .localToRemote op hop⟩

end Reconcile
