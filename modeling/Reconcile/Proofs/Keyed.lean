import Mathlib.Data.List.Forall2
import Mathlib.Tactic.Tauto
import Reconcile.Keyed

/-!
# Keyed lists as they are read and sorted

A list of pairs is kept as it is by putting its pairs in one after the other, if no
key occurs twice. Such a list is determined by its pairs up to their order
(`get?_eq_of_perm`), and the value of a key is found at the same place in two lists
with the same keys (`get?_of_forall₂`, `forall₂_of_get?`).
-/

namespace Reconcile.Keyed

variable {α : Type}

theorem put_of_not_mem {key : Text} {value : α} {l : List (Text × α)} (h : key ∉ keys l) :
    put key value l = l ++ [(key, value)] := by
  induction l with
  | nil => rfl
  | cons pair l ih =>
    obtain ⟨k, v⟩ := pair
    obtain ⟨hk, hl⟩ := not_or.1 fun hmem => h (List.mem_cons.2 hmem)
    rw [put, if_neg (Ne.symm hk), ih hl, List.cons_append]

/-- Pairs of different keys stay as they are. -/
theorem ofPairs_eq_self {pairs : List (Text × α)} (h : (keys pairs).Nodup) :
    ofPairs pairs = pairs := by
  suffices hfold : ∀ l : List (Text × α), (keys (l ++ pairs)).Nodup →
      pairs.foldl (fun l pair => put pair.1 pair.2 l) l = l ++ pairs from hfold [] h
  clear h
  induction pairs with
  | nil =>
    intro l _
    exact (List.append_nil l).symm
  | cons pair pairs ih =>
    intro l hl
    have hnew : pair.1 ∉ keys l := by
      intro hmem
      rw [keys, List.map_append] at hl
      exact (List.nodup_append.1 hl).2.2 _ hmem _ List.mem_cons_self rfl
    have happend : l ++ pair :: pairs = l ++ [pair] ++ pairs := by
      rw [List.append_assoc, List.singleton_append]
    rw [List.foldl_cons, put_of_not_mem hnew, happend]
    exact ih (l ++ [pair]) (happend ▸ hl)

theorem mem_of_mem_put {key : Text} {value : α} {l : List (Text × α)} {pair : Text × α}
    (h : pair ∈ put key value l) : pair = (key, value) ∨ pair ∈ l := by
  induction l with
  | nil => exact .inl (List.mem_singleton.1 h)
  | cons first l ih =>
    obtain ⟨k, v⟩ := first
    rw [put] at h
    split at h
    · exact (List.mem_cons.1 h).imp_right (List.mem_cons_of_mem _)
    · rcases List.mem_cons.1 h with rfl | h
      · exact .inr List.mem_cons_self
      · exact (ih h).imp_right (List.mem_cons_of_mem _)

/-- Putting pairs in makes up no pair. -/
theorem mem_of_mem_foldl_put {pairs l : List (Text × α)} {pair : Text × α}
    (h : pair ∈ pairs.foldl (fun l pair => put pair.1 pair.2 l) l) : pair ∈ pairs ∨ pair ∈ l := by
  induction pairs generalizing l with
  | nil => exact .inr h
  | cons first pairs ih =>
    rcases ih h with h | h
    · exact .inl (List.mem_cons_of_mem _ h)
    · rcases mem_of_mem_put h with rfl | h
      · exact .inl List.mem_cons_self
      · exact .inr h

theorem mem_of_mem_ofPairs {pairs : List (Text × α)} {pair : Text × α}
    (h : pair ∈ ofPairs pairs) : pair ∈ pairs :=
  (mem_of_mem_foldl_put h).resolve_right List.not_mem_nil

theorem mem_of_get?_eq_some {l : List (Text × α)} {key : Text} {value : α}
    (h : get? l key = some value) : (key, value) ∈ l := by
  induction l with
  | nil => cases h
  | cons pair l ih =>
    obtain ⟨k, v⟩ := pair
    rw [get?_cons] at h
    split at h
    · obtain rfl := Option.some.inj h
      exact ‹key = k› ▸ List.mem_cons_self
    · exact List.mem_cons_of_mem _ (ih h)

theorem get?_eq_none_iff {l : List (Text × α)} {key : Text} :
    get? l key = none ↔ key ∉ keys l := by
  rw [mem_keys_iff, Option.not_isSome_iff_eq_none]

/-! ## Lists without repeated keys -/

theorem get?_eq_some_iff {l : List (Text × α)} (h : (keys l).Nodup) {key : Text} {value : α} :
    get? l key = some value ↔ (key, value) ∈ l := by
  induction l with
  | nil => simp
  | cons pair l ih =>
    obtain ⟨k, v⟩ := pair
    obtain ⟨hk, hl⟩ := List.nodup_cons.1 h
    rw [get?_cons, List.mem_cons]
    by_cases hkey : key = k
    · subst hkey
      have hnot : (key, value) ∉ l := fun hmem => hk (List.mem_map.2 ⟨_, hmem, rfl⟩)
      simp [hnot, eq_comm]
    · simp [hkey, ih hl]

/-- The order of the pairs does not matter. -/
theorem get?_eq_of_perm {l l' : List (Text × α)} (h : (keys l).Nodup) (hperm : l.Perm l')
    (key : Text) : get? l key = get? l' key := by
  have h' : (keys l').Nodup := (hperm.map Prod.fst).nodup_iff.1 h
  refine Option.ext fun value => ?_
  rw [get?_eq_some_iff h, get?_eq_some_iff h', hperm.mem_iff]

/-- Leaving out pairs by their values leaves out the values. -/
theorem get?_filter {l : List (Text × α)} (h : (keys l).Nodup) (p : α → Bool) (key : Text) :
    get? (l.filter fun pair => p pair.2) key = (get? l key).filter p := by
  have hkeys : (keys (l.filter fun pair => p pair.2)).Nodup :=
    h.sublist (List.filter_sublist.map Prod.fst)
  refine Option.ext fun value => ?_
  rw [get?_eq_some_iff hkeys, List.mem_filter, Option.filter_eq_some_iff, get?_eq_some_iff h]

/-- After some pairs are put in, the value of a key is the one that they have for it. -/
theorem get?_foldl_put {pairs : List (Text × α)} (h : (keys pairs).Nodup)
    (l : List (Text × α)) (key : Text) :
    get? (pairs.foldl (fun l pair => put pair.1 pair.2 l) l) key =
      (get? pairs key).or (get? l key) := by
  induction pairs generalizing l with
  | nil => rfl
  | cons pair pairs ih =>
    obtain ⟨k, v⟩ := pair
    obtain ⟨hk, hpairs⟩ := List.nodup_cons.1 h
    rw [List.foldl_cons, ih hpairs, get?_put, get?_cons]
    by_cases hkey : key = k
    · -- the key comes in no later pair
      subst hkey
      rw [get?_eq_none_iff.2 hk, if_pos rfl, if_pos rfl]
      rfl
    · rw [if_neg hkey, if_neg hkey]

theorem mem_keys_foldl_put {pairs l : List (Text × α)} {key : Text} :
    key ∈ keys (pairs.foldl (fun l pair => put pair.1 pair.2 l) l) ↔
      key ∈ keys pairs ∨ key ∈ keys l := by
  induction pairs generalizing l with
  | nil => simp [keys]
  | cons pair pairs ih =>
    have hcons : keys (pair :: pairs) = pair.1 :: keys pairs := rfl
    rw [List.foldl_cons, ih, mem_keys_put, hcons, List.mem_cons]
    tauto

theorem nodup_foldl_put {pairs l : List (Text × α)} (h : (keys l).Nodup) :
    (keys (pairs.foldl (fun l pair => put pair.1 pair.2 l) l)).Nodup := by
  induction pairs generalizing l with
  | nil => exact h
  | cons pair pairs ih => exact ih (nodup_put h)

/-! ## Two lists with the same keys -/

variable {β : Type} {R : α → β → Prop} {l : List (Text × α)} {l' : List (Text × β)}

theorem keys_eq_of_forall₂ (h : List.Forall₂ (fun p q => p.1 = q.1 ∧ R p.2 q.2) l l') :
    keys l = keys l' := by
  induction h with
  | nil => rfl
  | cons hpair _ ih => exact congrArg₂ List.cons hpair.1 ih

/-- What a relation says of the pairs in turn, it says of the values of each key. -/
theorem get?_of_forall₂ (h : List.Forall₂ (fun p q => p.1 = q.1 ∧ R p.2 q.2) l l')
    (key : Text) : Option.Rel R (get? l key) (get? l' key) := by
  induction h with
  | nil => exact .none
  | @cons p q l l' hpair _ ih =>
    obtain ⟨k, v⟩ := p
    obtain ⟨k', v'⟩ := q
    obtain ⟨rfl, hvalue⟩ : k = k' ∧ R v v' := hpair
    rw [get?_cons, get?_cons]
    by_cases hkey : key = k
    · rw [if_pos hkey, if_pos hkey]
      exact .some hvalue
    · rw [if_neg hkey, if_neg hkey]
      exact ih

/-- The other way round: lists with the same keys, each once, go along with each other as the
values of each key do. -/
theorem forall₂_of_get? (hkeys : keys l = keys l') (hnodup : (keys l).Nodup)
    (h : ∀ key, Option.Rel R (get? l key) (get? l' key)) :
    List.Forall₂ (fun p q => p.1 = q.1 ∧ R p.2 q.2) l l' := by
  induction l generalizing l' with
  | nil =>
    obtain rfl : l' = [] := List.map_eq_nil_iff.1 hkeys.symm
    exact .nil
  | cons p l ih =>
    obtain ⟨k, v⟩ := p
    cases l' with
    | nil => cases hkeys
    | cons q l' =>
      obtain ⟨k', v'⟩ := q
      obtain ⟨rfl, hrest⟩ : k = k' ∧ keys l = keys l' := List.cons.inj hkeys
      obtain ⟨hk, hl⟩ := List.nodup_cons.1 hnodup
      have hfirst := h k
      rw [get?_cons, get?_cons, if_pos rfl, if_pos rfl] at hfirst
      refine .cons ⟨rfl, ?_⟩ (ih hrest hl fun key => ?_)
      · cases hfirst with
        | some hvalue => exact hvalue
      · by_cases hkey : key = k
        · -- the first key comes in neither rest
          subst hkey
          rw [get?_eq_none_iff.2 hk, get?_eq_none_iff.2 (hrest ▸ hk)]
          exact .none
        · have hother := h key
          rwa [get?_cons, get?_cons, if_neg hkey, if_neg hkey] at hother

end Reconcile.Keyed
