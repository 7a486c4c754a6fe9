import Reconcile.Text

/-!
# Keyed lists

Lists of pairs in which each key stands for at most one value. A new key goes to
the end; a key that is there keeps its place and takes the new value.
-/

namespace Reconcile.Keyed

variable {α : Type}

/-- The keys in order. -/
def keys (l : List (Text × α)) : List Text := l.map Prod.fst

/-- The value of a key. -/
def get? (l : List (Text × α)) (key : Text) : Option α := l.lookup key

/-- The list with `value` under `key`. -/
def put (key : Text) (value : α) : List (Text × α) → List (Text × α)
  | [] => [(key, value)]
  | (k, v) :: rest => if k = key then (key, value) :: rest else (k, v) :: put key value rest

/-- The list without `key`. -/
def erase (key : Text) (l : List (Text × α)) : List (Text × α) :=
  l.filter fun pair => pair.1 ≠ key

/-- The list that results from putting the pairs in one after the other. -/
def ofPairs (pairs : List (Text × α)) : List (Text × α) :=
  pairs.foldl (fun l pair => put pair.1 pair.2 l) []

@[simp] theorem get?_nil (key : Text) : get? ([] : List (Text × α)) key = none := rfl

theorem get?_cons (k : Text) (v : α) (l : List (Text × α)) (key : Text) :
    get? ((k, v) :: l) key = if key = k then some v else get? l key := by
  by_cases h : key = k
  · simp [get?, h]
  · simp [get?, List.lookup_cons, beq_eq_false_iff_ne.2 h, h]

theorem get?_put (key : Text) (value : α) (l : List (Text × α)) (key' : Text) :
    get? (put key value l) key' = if key' = key then some value else get? l key' := by
  induction l with
  | nil => simp [put, get?_cons]
  | cons pair l ih =>
    obtain ⟨k, v⟩ := pair
    by_cases h : k = key
    · subst h
      by_cases h' : key' = k <;> simp [put, get?_cons, h']
    · by_cases h' : key' = k
      · subst h'
        simp [put, get?_cons, h]
      · simp [put, h, get?_cons, h', ih]

theorem get?_erase (key : Text) (l : List (Text × α)) (key' : Text) :
    get? (erase key l) key' = if key' = key then none else get? l key' := by
  induction l with
  | nil => simp [erase]
  | cons pair l ih =>
    obtain ⟨k, v⟩ := pair
    by_cases h : k = key
    · subst h
      rw [erase, List.filter_cons_of_neg (by simp), ← erase, ih, get?_cons]
      by_cases h' : key' = k <;> simp [h']
    · rw [erase, List.filter_cons_of_pos (by simpa using h), ← erase, get?_cons, get?_cons, ih]
      by_cases h' : key' = k
      · subst h'
        simp [h]
      · simp [h']

theorem mem_keys_put {key key' : Text} {value : α} {l : List (Text × α)} :
    key' ∈ keys (put key value l) ↔ key' = key ∨ key' ∈ keys l := by
  induction l with
  | nil => simp [put, keys]
  | cons pair l ih =>
    obtain ⟨k, v⟩ := pair
    by_cases h : k = key
    · subst h; simp [put, keys]
    · have ih' : key' ∈ List.map Prod.fst (put key value l) ↔
          key' = key ∨ key' ∈ List.map Prod.fst l := ih
      simp only [put, h, if_false, keys, List.map_cons, List.mem_cons, ih']
      constructor
      · rintro (rfl | rfl | h')
        · exact .inr (.inl rfl)
        · exact .inl rfl
        · exact .inr (.inr h')
      · rintro (rfl | rfl | h')
        · exact .inr (.inl rfl)
        · exact .inl rfl
        · exact .inr (.inr h')

theorem nodup_put {key : Text} {value : α} {l : List (Text × α)} (h : (keys l).Nodup) :
    (keys (put key value l)).Nodup := by
  induction l with
  | nil => simp [put, keys]
  | cons pair l ih =>
    obtain ⟨k, v⟩ := pair
    obtain ⟨hk, hl⟩ := List.nodup_cons.1 h
    by_cases hkey : k = key
    · subst hkey
      simpa [put, keys] using h
    · simp only [put, hkey, if_false]
      refine List.nodup_cons.2 ⟨?_, ih hl⟩
      intro hmem
      rcases mem_keys_put.1 hmem with rfl | hmem
      · exact hkey rfl
      · exact hk hmem

theorem nodup_erase {key : Text} {l : List (Text × α)} (h : (keys l).Nodup) :
    (keys (erase key l)).Nodup :=
  h.sublist ((List.filter_sublist).map Prod.fst)

theorem nodup_ofPairs (pairs : List (Text × α)) : (keys (ofPairs pairs)).Nodup := by
  suffices h : ∀ l : List (Text × α), (keys l).Nodup →
      (keys (pairs.foldl (fun l pair => put pair.1 pair.2 l) l)).Nodup from h [] List.nodup_nil
  induction pairs with
  | nil => exact fun l hl => hl
  | cons pair pairs ih => exact fun l hl => ih _ (nodup_put hl)

theorem mem_keys_iff {key : Text} {l : List (Text × α)} :
    key ∈ keys l ↔ (get? l key).isSome = true := by
  induction l with
  | nil => simp [keys]
  | cons pair l ih =>
    obtain ⟨k, v⟩ := pair
    by_cases h : key = k
    · simp [keys, get?_cons, h]
    · simpa [keys, get?_cons, h] using ih

end Reconcile.Keyed
