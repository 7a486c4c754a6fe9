import Mathlib.Data.List.Forall2
import Reconcile.Proofs.Text.Order

/-!
# Each item of a list in turn

Something that may fail is done with each item of a list. It succeeds as a whole
exactly when it does for each item, with their results in the same order
(`mapM_eq_ok_iff`). Steps that each look at some items, one step after the other, fail at
the first item with a fault (`Reports.bind`), and so does a search
(`isFirst_iff_find?`).
-/

namespace Reconcile.Sequence

variable {ε α β : Type} {f : α → Except ε β} {l : List α} {bs : List β}

/-! ## One step and the next -/

theorem bind_eq_ok_iff {x : Except ε α} {b : β} :
    x >>= f = .ok b ↔ ∃ a, x = .ok a ∧ f a = .ok b := by
  cases x <;> simp [bind, Except.bind]

theorem mapError_eq_ok_iff {ε' : Type} {x : Except ε α} {g : ε → ε'} {a : α} :
    x.mapError g = .ok a ↔ x = .ok a := by
  cases x <;> simp [Except.mapError]

theorem pure_eq_ok_iff {a b : α} : (pure a : Except ε α) = .ok b ↔ a = b :=
  ⟨Except.ok.inj, congrArg Except.ok⟩

/-! ## Each item in turn -/

theorem mapM_eq_ok_of_forall₂ (h : List.Forall₂ (fun a b => f a = .ok b) l bs) :
    l.mapM f = .ok bs := by
  induction h with
  | nil => rfl
  | cons ha _ ih =>
    rw [List.mapM_cons, ha, ih]
    rfl

theorem forall₂_of_mapM_eq_ok (h : l.mapM f = .ok bs) :
    List.Forall₂ (fun a b => f a = .ok b) l bs := by
  induction l generalizing bs with
  | nil =>
    obtain rfl : [] = bs := Except.ok.inj h
    exact .nil
  | cons a l ih =>
    rw [List.mapM_cons] at h
    cases ha : f a with
    | error e =>
      rw [ha] at h
      cases h
    | ok b =>
      cases hl : l.mapM f with
      | error e =>
        rw [ha, hl] at h
        cases h
      | ok bs' =>
        rw [ha, hl] at h
        obtain rfl : b :: bs' = bs := Except.ok.inj h
        exact .cons ha (ih hl)

theorem mapM_eq_ok_iff : l.mapM f = .ok bs ↔ List.Forall₂ (fun a b => f a = .ok b) l bs :=
  ⟨forall₂_of_mapM_eq_ok, mapM_eq_ok_of_forall₂⟩

/-- What takes each item back takes the list back. -/
theorem mapM_map_eq_ok {f : β → Except ε α} {g : α → β} (h : ∀ a, f (g a) = .ok a) :
    (l.map g).mapM f = .ok l :=
  mapM_eq_ok_iff.2 (List.forall₂_map_left_iff.2 (List.forall₂_same.2 fun a _ => h a))

/-- Where the result for each item is known, so is that for the list. -/
theorem eq_map_of_mapM_eq_ok {g : α → β} (h : ∀ a ∈ l, ∀ b, f a = .ok b → b = g a)
    (hl : l.mapM f = .ok bs) : bs = l.map g := by
  have hall := forall₂_of_mapM_eq_ok hl
  clear hl
  induction hall with
  | nil => rfl
  | cons ha _ ih =>
    obtain ⟨hhead, htail⟩ := List.forall_mem_cons.1 h
    rw [hhead _ ha, ih htail, List.map_cons]

theorem forM_eq_ok_iff {f : α → Except ε PUnit} : l.forM f = .ok () ↔ ∀ a ∈ l, f a = .ok () := by
  induction l with
  | nil => exact iff_of_true rfl (List.forall_mem_nil _)
  | cons a l ih =>
    have hcons : (a :: l).forM f = (do f a; l.forM f) := rfl
    rw [hcons, bind_eq_ok_iff, List.forall_mem_cons, ih]
    exact ⟨fun ⟨_, h⟩ => h, fun h => ⟨(), h⟩⟩

/-! ## Lists that go along with another -/

variable {R : α → β → Prop}

/-- A list goes along with `l` as soon as each item has something to go with it. -/
theorem exists_forall₂_iff : (∃ bs, List.Forall₂ R l bs) ↔ ∀ a ∈ l, ∃ b, R a b := by
  constructor
  · rintro ⟨bs, h⟩
    induction h with
    | nil => exact List.forall_mem_nil _
    | cons ha _ ih => exact List.forall_mem_cons.2 ⟨⟨_, ha⟩, ih⟩
  · intro h
    induction l with
    | nil => exact ⟨[], .nil⟩
    | cons a l ih =>
      obtain ⟨⟨b, ha⟩, hl⟩ := List.forall_mem_cons.1 h
      obtain ⟨bs, hbs⟩ := ih hl
      exact ⟨b :: bs, .cons ha hbs⟩

/-- Each item can be done with as soon as each can by itself. -/
theorem exists_mapM_eq_ok (h : ∀ a ∈ l, ∃ b, f a = .ok b) : ∃ bs, l.mapM f = .ok bs :=
  (exists_forall₂_iff.2 h).imp fun _ => mapM_eq_ok_of_forall₂

theorem exists_of_mem_right (h : List.Forall₂ R l bs) {b : β} (hb : b ∈ bs) :
    ∃ a ∈ l, R a b := by
  induction h with
  | nil => cases hb
  | @cons a b' l bs hab _ ih =>
    rcases List.mem_cons.1 hb with rfl | hb
    · exact ⟨a, List.mem_cons_self, hab⟩
    · obtain ⟨a, ha, hab⟩ := ih hb
      exact ⟨a, List.mem_cons_of_mem _ ha, hab⟩

theorem exists_of_mem_left (h : List.Forall₂ R l bs) {a : α} (ha : a ∈ l) : ∃ b ∈ bs, R a b :=
  exists_of_mem_right h.flip ha

/-- What can be done with each item that goes along with one of `l` gives a list that
goes along with both. -/
theorem exists_forall₂_of_forall₂ {γ : Type} {S : β → γ → Prop} {T : γ → α → Prop}
    (h : List.Forall₂ R l bs) (hstep : ∀ a ∈ l, ∀ b, R a b → ∃ c, S b c ∧ T c a) :
    ∃ cs, List.Forall₂ S bs cs ∧ List.Forall₂ T cs l := by
  induction h with
  | nil => exact ⟨[], .nil, .nil⟩
  | cons hab _ ih =>
    obtain ⟨c, hbc, hca⟩ := hstep _ List.mem_cons_self _ hab
    obtain ⟨cs, hbcs, hcas⟩ := ih fun a ha => hstep a (List.mem_cons_of_mem _ ha)
    exact ⟨c :: cs, .cons hbc hbcs, .cons hca hcas⟩

/-- Steps that do the same with the items of two lists in turn do the same with the lists. -/
theorem mapM_congr {α' : Type} {g : α' → Except ε β} {l' : List α'}
    (h : List.Forall₂ (fun a a' => f a = g a') l l') : l.mapM f = l'.mapM g := by
  induction h with
  | nil => rfl
  | cons ha _ ih => rw [List.mapM_cons, List.mapM_cons, ha, ih]

/-- A list without repetitions has none to leave out. -/
theorem eraseDups_eq_self [BEq α] [LawfulBEq α] (h : l.Nodup) : l.eraseDups = l := by
  induction l with
  | nil => exact List.eraseDups_nil
  | cons a l ih =>
    obtain ⟨ha, hl⟩ := List.nodup_cons.1 h
    have hkept : (l.filter fun b => !b == a) = l := by
      refine List.filter_eq_self.2 fun b hb => ?_
      rw [Bool.not_eq_true', beq_eq_false_iff_ne]
      rintro rfl
      exact ha hb
    rw [List.eraseDups_cons, hkept, ih hl]

/-! ## Sorted lists -/

/-- Items that are sorted by a text each are in the order of the code points of the texts. -/
theorem pairwise_mergeSort_text (text : α → Text) (l : List α) :
    (l.mergeSort fun a b => text a ≤ text b).Pairwise (text · ≤ text ·) := by
  refine (List.pairwise_mergeSort ?_ ?_ l).imp fun h => of_decide_eq_true h
  · intro a b c hab hbc
    exact decide_eq_true (Text.le_trans (of_decide_eq_true hab) (of_decide_eq_true hbc))
  · intro a b
    rw [Bool.or_eq_true]
    exact (Text.le_total (text a) (text b)).imp decide_eq_true decide_eq_true

/-! ## The first fault -/

/-- The first of some items that has a fault has the fault `b`. -/
def IsFirst (R : α → β → Prop) (items : List α) (b : β) : Prop :=
  ∃ before a after, items = before ++ a :: after ∧ (∀ x ∈ before, ∀ b, ¬R x b) ∧ R a b

theorem isFirst_singleton {a : α} {b : β} (h : R a b) : IsFirst R [a] b :=
  ⟨[], a, [], rfl, fun _ hx => absurd hx List.not_mem_nil, h⟩

theorem IsFirst.exists_mem {items : List α} {b : β} (h : IsFirst R items b) :
    ∃ a ∈ items, R a b := by
  obtain ⟨before, a, after, rfl, -, ha⟩ := h
  exact ⟨a, List.mem_append_right before List.mem_cons_self, ha⟩

theorem IsFirst.append_right {items : List α} {b : β} (h : IsFirst R items b) (more : List α) :
    IsFirst R (items ++ more) b := by
  obtain ⟨before, a, after, rfl, hbefore, ha⟩ := h
  exact ⟨before, a, after ++ more, by simp, hbefore, ha⟩

theorem IsFirst.append_left {items more : List α} {b : β} (hitems : ∀ a ∈ items, ∀ b, ¬R a b)
    (h : IsFirst R more b) : IsFirst R (items ++ more) b := by
  obtain ⟨before, a, after, rfl, hbefore, ha⟩ := h
  refine ⟨items ++ before, a, after, by simp, ?_, ha⟩
  intro x hx
  exact (List.mem_append.1 hx).elim (hitems x) (hbefore x)

/-- Where a test tells which items have a fault, the first is found by a search. -/
theorem isFirst_iff_find? {p : α → Bool} {g : α → β} (hR : ∀ a b, R a b ↔ p a = true ∧ g a = b)
    {items : List α} {b : β} :
    IsFirst R items b ↔ ∃ a, items.find? p = some a ∧ g a = b := by
  have hnone : ∀ x, (∀ b, ¬(p x = true ∧ g x = b)) ↔ (!p x) = true := by simp
  simp only [IsFirst, hR, hnone, List.find?_eq_some_iff_append]
  constructor
  · rintro ⟨before, a, after, hitems, hbefore, ha, hb⟩
    exact ⟨a, ⟨ha, before, after, hitems, hbefore⟩, hb⟩
  · rintro ⟨a, ⟨ha, before, after, hitems, hbefore⟩, hb⟩
    exact ⟨before, a, after, hitems, hbefore, ha, hb⟩

/-- The outcome `r` reports the first of the items that has a fault, in the words of
`describe`, and is no error if none of them has one. -/
structure Reports {γ : Type} (R : α → β → Prop) (describe : ε → β) (items : List α)
    (r : Except ε γ) : Prop where
  first : ∀ e, r = .error e → IsFirst R items (describe e)
  none : ∀ c, r = .ok c → ∀ a ∈ items, ∀ b, ¬R a b

variable {γ δ : Type} {describe : ε → β} {items more : List α}

theorem reports_singleton {a : α} {r : Except ε γ} (herror : ∀ e, r = .error e → R a (describe e))
    (hok : ∀ c, r = .ok c → ∀ b, ¬R a b) : Reports R describe [a] r := by
  refine ⟨fun e he => isFirst_singleton (herror e he), ?_⟩
  intro c hc a' ha'
  rw [List.mem_singleton.1 ha']
  exact hok c hc

/-- An error that is the fault of the one item. -/
theorem reports_error {a : α} {e : ε} (h : R a (describe e)) :
    Reports R describe [a] (.error e : Except ε γ) := by
  refine reports_singleton ?_ ?_
  · rintro e' heq
    obtain rfl : e = e' := Except.error.inj heq
    exact h
  · rintro c ⟨⟩

theorem reports_ok (c : γ) : Reports R describe [] (.ok c : Except ε γ) :=
  ⟨fun _ h => (nomatch h), fun _ _ _ ha => absurd ha List.not_mem_nil⟩

/-- One step after the other: the second looks at its items only if those of the first
have no fault. -/
theorem Reports.bind {x : Except ε γ} {k : γ → Except ε δ} (hx : Reports R describe items x)
    (hk : ∀ c, x = .ok c → Reports R describe more (k c)) :
    Reports R describe (items ++ more) (x >>= k) := by
  cases x with
  | error e =>
    refine ⟨?_, fun _ h => (nomatch h)⟩
    rintro e' heq
    obtain rfl : e = e' := Except.error.inj heq
    exact (hx.first e rfl).append_right more
  | ok c =>
    have hitems := hx.none c rfl
    have hmore := hk c rfl
    refine ⟨fun e he => (hmore.first e he).append_left hitems, ?_⟩
    intro d hd a ha
    exact (List.mem_append.1 ha).elim (hitems a) (hmore.none d hd a)

theorem Reports.bind_pure {x : Except ε γ} (h : Reports R describe items x) (g : γ → δ) :
    Reports R describe items (x >>= fun c => pure (g c)) := by
  have hbind : Reports R describe (items ++ []) (x >>= fun c => pure (g c)) :=
    h.bind fun c _ => reports_ok (g c)
  rwa [List.append_nil] at hbind

/-- The same step for each item in turn. -/
theorem Reports.mapM {f : α → Except ε γ} {l : List α}
    (h : ∀ a, Reports R describe [a] (f a)) : Reports R describe l (l.mapM f) := by
  induction l with
  | nil => exact reports_ok []
  | cons a l ih =>
    rw [List.mapM_cons, ← List.singleton_append]
    exact (h a).bind fun c _ => ih.bind_pure (c :: ·)

end Reconcile.Sequence
