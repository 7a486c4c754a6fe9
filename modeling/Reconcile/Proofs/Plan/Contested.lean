import Reconcile.Comparison.Selection
import Reconcile.Proofs.Comparison.Representation
import Reconcile.Proofs.Plan

/-!
# What changed on both sides is left to the user

A path is contested in a list when every comparison of it is a conflict. A journal that
knows it changed on both sides makes it so (`isContested_apply_journal`), and from then
on no step undoes it (`IsContested.refine`), because a conflict stays one under every
journal (`Journal.mark_of_conflict`). A contested path is neither selected nor acted on.
Main statement: `contested_of_journal`.
-/

namespace Reconcile

variable {o : Options} {here there : Inventory} {steps : List Refinement}
  {cs : List Comparison} {c : Comparison} {path : Text} {d : Direction}

/-! ## Conflicts under a journal -/

namespace Journal

variable {j : Journal}

theorem mark_of_conflict (h : c.status = .conflict) : j.mark c = c := by
  rw [mark, ← h, ite_self]

theorem mark_of_bothChanged (hboth : c.onBothSides = true) (h : j.bothChanged c.path = true) :
    j.mark c = { c with status := .conflict } := by
  rw [mark, hboth, h]
  rfl

end Journal

/-- A conflict keeps its place under any journals, as it is. -/
theorem getElem?_refine_journals (js : List Journal) {i : Nat} (hc : cs[i]? = some c)
    (h : c.status = .conflict) : (refine (js.map .journal) cs)[i]? = some c := by
  induction js generalizing cs with
  | nil => exact hc
  | cons j rest ih =>
    rw [List.map_cons, refine_cons]
    refine ih ?_
    show (cs.map j.mark)[i]? = some c
    rw [List.getElem?_map, hc, Option.map_some, Journal.mark_of_conflict h]

/-! ## Contested paths -/

/-- Every comparison of the path is a conflict. -/
def IsContested (path : Text) (cs : List Comparison) : Prop :=
  ∀ c ∈ cs, c.path = path → c.status = .conflict

/-- **How a path becomes contested**: both sides have it, and a journal knows that it
changed on both. -/
theorem isContested_apply_journal {j : Journal} (hboth : ∀ c ∈ cs, c.path = path →
    c.onBothSides = true) (hchanged : j.bothChanged path = true) :
    IsContested path ((Refinement.journal j).apply cs) := by
  intro c hc hpath
  obtain ⟨c₀, hc₀, rfl⟩ := List.mem_map.1 hc
  rw [Journal.path_mark] at hpath
  rw [Journal.mark_of_bothChanged (hboth c₀ hc₀ hpath) (hpath ▸ hchanged)]

/-- **One step** leaves a contested path contested. -/
theorem IsContested.apply (h : IsContested path cs) (step : Refinement) :
    IsContested path (step.apply cs) := by
  intro c hc hpath
  cases step with
  | journal j =>
    obtain ⟨c₀, hc₀, rfl⟩ := List.mem_map.1 hc
    rw [Journal.path_mark] at hpath
    have hconflict := h c₀ hc₀ hpath
    rwa [Journal.mark_of_conflict hconflict]
  | towards d => exact h c (List.mem_filter.1 hc).1 hpath

/-- **Any number of steps**, in any order. -/
theorem IsContested.refine (h : IsContested path cs) (steps : List Refinement) :
    IsContested path (refine steps cs) := by
  induction steps generalizing cs with
  | nil => exact h
  | cons step rest ih =>
    rw [refine_cons]
    exact ih (h.apply step)

/-- Once the journal has been applied, the path is contested to the end. -/
theorem isContested_refine {j : Journal} (hj : .journal j ∈ steps)
    (hchanged : j.bothChanged path = true) (hhere : path ∈ here.paths)
    (hthere : path ∈ there.paths) :
    IsContested path (refine steps (here.compare o there)) := by
  obtain ⟨before, after, rfl⟩ := List.append_of_mem hj
  rw [refine_append, refine_cons]
  refine (isContested_apply_journal ?_ hchanged).refine after
  intro c hc hpath
  have hc' := ((represents_compare o here there).refine before).each c hc
  rw [Comparison.onBothSides_iff, hc'.here_eq, hc'.there_eq, hpath]
  exact ⟨Inventory.mem_paths_iff.1 hhere, Inventory.mem_paths_iff.1 hthere⟩

/-! ## Plans and selections -/

theorem IsContested.askUser (h : IsContested path cs) {op : Operation} (hop : op ∈ plan d cs)
    (hpath : op.path = path) : op.action = .askUser := by
  obtain ⟨hc, haction⟩ := mem_plan.1 hop
  rw [haction, h op.comparison hc hpath]
  rfl

theorem mem_selectedPaths :
    path ∈ selectedPaths cs ↔ ∃ c ∈ cs, c.status.needsReview = false ∧ c.path = path := by
  simp only [selectedPaths, List.mem_mergeSort, List.mem_eraseDups, List.mem_map, List.mem_filter,
    Bool.not_eq_true', and_assoc]

theorem IsContested.not_mem_selectedPaths (h : IsContested path cs) :
    path ∉ selectedPaths cs := by
  rw [mem_selectedPaths]
  rintro ⟨c, hc, hreview, hpath⟩
  rw [h c hc hpath] at hreview
  cases hreview

/-- **What changed on both sides is left to the user**: if a path is in both inventories
and some journal among the steps knows that it changed on both sides, then whatever comes
before and after that journal, every operation for the path asks the user, the path is
not selected, and what is left of it is a conflict with both entries as the merge had
them. A conflict stays one under any further journals. -/
theorem contested_of_journal (o : Options) (here there : Inventory) (steps : List Refinement)
    (d : Direction) (j : Journal) (path : Text) (hj : .journal j ∈ steps)
    (hlocal : path ∈ j.localChanged) (hremote : path ∈ j.remoteChanged)
    (hhere : path ∈ here.paths) (hthere : path ∈ there.paths) :
    let cs := refine steps (here.compare o there)
    (∀ op ∈ plan d cs, op.path = path → op.action = .askUser) ∧
    path ∉ selectedPaths cs ∧
    (∀ c ∈ cs, c.path = path → c.status = .conflict ∧ c.onBothSides = true ∧
      c.here = here.get? path ∧ c.there = there.get? path ∧
      ∃ c₀ ∈ here.compare o there, c = { c₀ with status := .conflict }) ∧
    ∀ (js : List Journal) (cs' : List Comparison) (i : Nat) (c : Comparison),
      cs'[i]? = some c → c.status = .conflict → (refine (js.map .journal) cs')[i]? = some c := by
  intro cs
  have hchanged : j.bothChanged path = true := Journal.bothChanged_iff.2 ⟨hlocal, hremote⟩
  have hcontested : IsContested path cs := isContested_refine hj hchanged hhere hthere
  refine ⟨fun op hop => hcontested.askUser hop, hcontested.not_mem_selectedPaths, ?_,
    fun js cs' i c => getElem?_refine_journals js⟩
  intro c hc hpath
  have hconflict := hcontested c hc hpath
  have hc' := ((represents_compare o here there).refine steps).each c hc
  obtain ⟨c₀, hc₀, hleft⟩ := mem_refine hc
  refine ⟨hconflict, (hc'.conflict hconflict).1, hpath ▸ hc'.here_eq, hpath ▸ hc'.there_eq,
    c₀, hc₀, ?_⟩
  obtain ⟨path', status, entry, entry', isDir⟩ := c
  obtain ⟨rfl, rfl, rfl, rfl, -⟩ := hleft
  rw [← hconflict]

/-- A directory that is the same on both sides, which a direction would have dropped before
the journal. -/
theorem contested_directory :
    let path : Text := "d"
    let dir : Entry := { name := path, path, size := 0, isDir := true }
    let side := Inventory.ofPairs [(path, dir)]
    let j : Journal := ⟨[path], ["e", path]⟩
    let steps := [.journal j, .towards .bidirectional, .journal ⟨[], [path]⟩]
    let cs := refine steps (side.compare {} side)
    .journal j ∈ steps ∧ path ∈ j.localChanged ∧ path ∈ j.remoteChanged ∧ path ∈ side.paths ∧
      (∃ c ∈ cs, c.path = path) ∧
      (∀ op ∈ plan .localToRemote cs, op.path = path → op.action = .askUser) ∧
      path ∉ selectedPaths cs := by
  intro path dir side j steps cs
  let c₀ := Comparison.ofPath {} side side path
  let c : Comparison := { c₀ with status := .conflict }
  have hcompare : c₀ ∈ side.compare {} side :=
    mem_compare.2 ⟨.inl (by decide), by decide, rfl, rfl⟩
  have hmarked : c ∈ j.apply (side.compare {} side) := List.mem_map.2 ⟨c₀, hcompare, rfl⟩
  have hkept : c ∈ cs := List.mem_map.2 ⟨c, List.mem_filter.2 ⟨hmarked, rfl⟩, rfl⟩
  have hj : .journal j ∈ steps := List.mem_cons_self
  have hside : path ∈ side.paths := by decide
  obtain ⟨hplan, hselected, -⟩ := contested_of_journal {} side side steps .localToRemote j path
    hj (by decide) (by decide) hside hside
  exact ⟨hj, by decide, by decide, hside, ⟨c, hkept, rfl⟩, hplan, hselected⟩

end Reconcile
