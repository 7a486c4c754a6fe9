import Reconcile.Proofs.Comparison.Representation
import Reconcile.Proofs.Sequence

/-!
# Journals one after the other

A journal marks a comparison by what it says itself: that one journal has a path on the local
side and another on the remote side makes no conflict. So some journals mark a comparison
exactly if one of them does (`markAll`), which is what they come to one after the other
(`refine_journals`). Neither their order matters nor that of the paths in them, nor how often
any of them comes (`refine_journals_congr`). Main statement: `journals_compose`.
-/

namespace Reconcile

variable {js js' : List Journal} {j j' : Journal} {cs : List Comparison} {c : Comparison}

namespace Journal

/-- The journals have the same paths on each side, in whatever order and however often. -/
structure Agrees (j j' : Journal) : Prop where
  localChanged : ∀ path, path ∈ j.localChanged ↔ path ∈ j'.localChanged
  remoteChanged : ∀ path, path ∈ j.remoteChanged ↔ path ∈ j'.remoteChanged

theorem Agrees.refl (j : Journal) : j.Agrees j := ⟨fun _ => .rfl, fun _ => .rfl⟩

theorem Agrees.bothChanged_eq (h : j.Agrees j') (path : Text) :
    j.bothChanged path = j'.bothChanged path := by
  rw [Bool.eq_iff_iff, bothChanged_iff, bothChanged_iff, h.localChanged, h.remoteChanged]

/-- A comparison in the light of some journals: a conflict if both sides have the path and one
of the journals knows that it changed on both. -/
def markAll (js : List Journal) (c : Comparison) : Comparison :=
  if c.onBothSides && js.any (·.bothChanged c.path) then { c with status := .conflict } else c

theorem markAll_nil (c : Comparison) : markAll [] c = c := by
  rw [markAll, List.any_nil, Bool.and_false]
  rfl

/-- **One journal before the others**: what it marks, the others leave as it is. -/
theorem markAll_cons (j : Journal) (js : List Journal) (c : Comparison) :
    markAll (j :: js) c = markAll js (j.mark c) := by
  by_cases hmark : (c.onBothSides && j.bothChanged c.path) = true
  · have hall : (c.onBothSides && (j :: js).any (·.bothChanged c.path)) = true := by
      rw [Bool.and_eq_true] at hmark ⊢
      rw [List.any_cons, hmark.2]
      exact ⟨hmark.1, rfl⟩
    -- whether or not the others mark it again, it is the same conflict
    rw [mark, if_pos hmark, markAll, if_pos hall, markAll, ite_self]
  · have hany : (c.onBothSides && (j :: js).any (·.bothChanged c.path)) =
        (c.onBothSides && js.any (·.bothChanged c.path)) := by
      rw [Bool.not_eq_true] at hmark
      rw [List.any_cons, Bool.and_or_distrib_left, hmark, Bool.false_or]
    rw [mark, if_neg hmark, markAll, hany, markAll]

theorem markAll_congr (h : ∀ path, js.any (·.bothChanged path) = js'.any (·.bothChanged path)) :
    markAll js c = markAll js' c := by
  rw [markAll, markAll, h]

theorem any_bothChanged_iff {path : Text} :
    js.any (·.bothChanged path) = true ↔
      ∃ j ∈ js, path ∈ j.localChanged ∧ path ∈ j.remoteChanged := by
  simp only [List.any_eq_true, bothChanged_iff]

end Journal

/-! ## Any number of journals -/

/-- What the journals make of the comparisons one after the other. -/
theorem refine_journals (js : List Journal) (cs : List Comparison) :
    refine (js.map .journal) cs = cs.map (Journal.markAll js) := by
  -- over the journals, for every list, since the first of them changes it for the rest
  induction js generalizing cs with
  | nil =>
    rw [List.map_nil, refine_nil]
    exact (List.map_id'' Journal.markAll_nil cs).symm
  | cons j rest ih =>
    rw [List.map_cons, refine_cons, ih]
    show (cs.map j.mark).map (Journal.markAll rest) = _
    rw [List.map_map]
    exact List.map_congr_left fun c _ => (Journal.markAll_cons j rest c).symm

/-- **Only what the journals say counts**: journals do the same if each of them agrees with one
of the others, and the other way round. -/
theorem refine_journals_congr (h : ∀ j ∈ js, ∃ j' ∈ js', j.Agrees j')
    (h' : ∀ j' ∈ js', ∃ j ∈ js, j.Agrees j') (cs : List Comparison) :
    refine (js.map .journal) cs = refine (js'.map .journal) cs := by
  rw [refine_journals, refine_journals]
  refine List.map_congr_left fun c _ => Journal.markAll_congr fun path => ?_
  rw [Bool.eq_iff_iff, List.any_eq_true, List.any_eq_true]
  constructor
  · rintro ⟨j, hj, hchanged⟩
    obtain ⟨j', hj', hagrees⟩ := h j hj
    exact ⟨j', hj', hagrees.bothChanged_eq path ▸ hchanged⟩
  · rintro ⟨j', hj', hchanged⟩
    obtain ⟨j, hj, hagrees⟩ := h' j' hj'
    exact ⟨j, hj, hagrees.bothChanged_eq path ▸ hchanged⟩

theorem refine_journals_of_mem_iff (h : ∀ j, j ∈ js' ↔ j ∈ js) (cs : List Comparison) :
    refine (js'.map .journal) cs = refine (js.map .journal) cs :=
  refine_journals_congr (fun j hj => ⟨j, (h j).1 hj, .refl j⟩)
    (fun j hj => ⟨j, (h j).2 hj, .refl j⟩) cs

/-! ## What becomes of a comparison -/

/-- `c'` is what the journals have to make of `c`: it differs at most in being a conflict, and
it is a new one exactly if both sides have the path and a single one of the journals has it on
both. -/
structure Comparison.MarkedBy (js : List Journal) (c c' : Comparison) : Prop where
  path : c'.path = c.path
  here : c'.here = c.here
  there : c'.there = c.there
  isDir : c'.isDir = c.isDir
  conflict_iff : c'.status = .conflict ↔ c.status = .conflict ∨
    (c.here.isSome = true ∧ c.there.isSome = true) ∧
      ∃ j ∈ js, c.path ∈ j.localChanged ∧ c.path ∈ j.remoteChanged
  kept : c'.status ≠ .conflict → c'.status = c.status

theorem Journal.markedBy_markAll (js : List Journal) (c : Comparison) :
    c.MarkedBy js (markAll js c) := by
  have hmark : (c.onBothSides && js.any (·.bothChanged c.path)) = true ↔
      (c.here.isSome = true ∧ c.there.isSome = true) ∧
        ∃ j ∈ js, c.path ∈ j.localChanged ∧ c.path ∈ j.remoteChanged := by
    rw [Bool.and_eq_true, Comparison.onBothSides_iff, any_bothChanged_iff]
  rw [markAll]
  split
  · rename_i h
    exact ⟨rfl, rfl, rfl, rfl, iff_of_true rfl (.inr (hmark.1 h)), fun hne => absurd rfl hne⟩
  · rename_i h
    rw [hmark] at h
    exact ⟨rfl, rfl, rfl, rfl, (or_iff_left h).symm, fun _ => rfl⟩

/-- **Journals compose in any order**: one after the other they leave the comparisons in their
places, mark those that a single one of them marks, and change nothing else. They come to the
same in any order and with any repetitions, and so do journals whose paths are in another order
or repeated. -/
theorem journals_compose (js : List Journal) (cs : List Comparison) :
    let after := refine (js.map .journal) cs
    after.length = cs.length ∧
    List.Forall₂ (Comparison.MarkedBy js) cs after ∧
    (∀ js' : List Journal, js.Perm js' → refine (js'.map .journal) cs = after) ∧
    (∀ js' : List Journal, (∀ j, j ∈ js' ↔ j ∈ js) → refine (js'.map .journal) cs = after) ∧
    ∀ js' : List Journal, List.Forall₂ Journal.Agrees js js' →
      refine (js'.map .journal) cs = after := by
  intro after
  have hafter : after = cs.map (Journal.markAll js) := refine_journals js cs
  refine ⟨?_, ?_, ?_, fun js' h => refine_journals_of_mem_iff h cs, ?_⟩
  · rw [hafter, List.length_map]
  · rw [hafter, List.forall₂_map_right_iff, List.forall₂_same]
    exact fun c _ => Journal.markedBy_markAll js c
  · exact fun js' hperm => refine_journals_of_mem_iff (fun j => hperm.mem_iff.symm) cs
  · intro js' hagree
    refine (refine_journals_congr ?_ ?_ cs).symm
    · exact fun j hj => Sequence.exists_of_mem_left hagree hj
    · exact fun j' hj' => Sequence.exists_of_mem_right hagree hj'

/-- Paths that two journals have on one side each, and one that a third has on both, where a
comparison of it lacks a side. -/
theorem journals_compose_of_crossed_paths :
    let e : Entry := { name := "e", path := "e", size := 1 }
    let c (path : Text) (there : Option Entry) (s : Status) : Comparison :=
      { path, status := s, here := some e, there }
    let cs := [c "a" e .sizeMismatch, c "b" e .identical, c "b" none .localOnly,
      c "b" e .remoteNewer]
    let left : Journal := ⟨["a"], ["b"]⟩
    let right : Journal := ⟨["c"], ["a"]⟩
    let both : Journal := ⟨["b", "a"], ["b"]⟩
    let marked := [c "a" e .sizeMismatch, c "b" e .conflict, c "b" none .localOnly,
      c "b" e .conflict]
    [left, right, both].Perm [both, left, right] ∧
      refine [.journal both, .journal left, .journal right] cs = marked ∧
      (∀ j, j ∈ [both, right, left, both] ↔ j ∈ [left, right, both]) ∧
      refine [.journal both, .journal right, .journal left, .journal both] cs = marked ∧
      List.Forall₂ Journal.Agrees [left, right, both] [left, right, ⟨["a", "b", "a"], ["b"]⟩] ∧
      refine [.journal left, .journal right, .journal ⟨["a", "b", "a"], ["b"]⟩] cs = marked := by
  intro e c cs left right both marked
  obtain ⟨-, -, hperm, hmem, hagree⟩ := journals_compose [left, right, both] cs
  have hmarked : refine ([left, right, both].map .journal) cs = marked := rfl
  rw [hmarked] at hperm hmem hagree
  have hcycle : [left, right, both].Perm [both, left, right] :=
    List.perm_append_singleton both [left, right]
  have hsame : ∀ j, j ∈ [both, right, left, both] ↔ j ∈ [left, right, both] := by
    intro j
    simp only [List.mem_cons, List.not_mem_nil, or_false]
    grind
  have hpaths : both.Agrees ⟨["a", "b", "a"], ["b"]⟩ := by
    refine ⟨fun path => ?_, fun path => .rfl⟩
    simp only [both, List.mem_cons, List.not_mem_nil, or_false]
    grind
  have hlists : List.Forall₂ Journal.Agrees [left, right, both]
      [left, right, ⟨["a", "b", "a"], ["b"]⟩] :=
    .cons (.refl left) (.cons (.refl right) (.cons hpaths .nil))
  exact ⟨hcycle, hperm _ hcycle, hsame, hmem _ hsame, hlists, hagree _ hlists⟩

end Reconcile
