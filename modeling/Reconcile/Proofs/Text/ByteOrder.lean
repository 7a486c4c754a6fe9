import Reconcile.Proofs.Text.CharacterOrder

/-!
# The order of texts by their bytes

The order of the bytes is the linear order of the texts by their code points, so that no
two texts have the same bytes. A list of things whose names strictly increase in it is
determined by its members alone (`Increasing.eq_of_mem_iff`).
-/

namespace Reconcile.Utf8

/-- The bytes of `a` come before those of `b`. -/
def BytesLt (a b : Text) : Prop := bytes a < bytes b

variable {a b c : Text}

theorem bytesLt_iff_lt : BytesLt a b ↔ a < b := bytes_lt_iff

theorem bytesLe_iff_le : bytesLe a b = true ↔ a ≤ b := decide_eq_true_iff.trans bytes_le_iff

theorem bytes_injective (h : bytes a = bytes b) : a = b :=
  Text.le_antisymm (bytes_le_iff.1 (Std.le_of_eq h)) (bytes_le_iff.1 (Std.le_of_eq h.symm))

/-- The bytes of a string are those of its characters. -/
theorem bytes_ofString (s : String) : bytes (.ofString s) = encode s.toList := by
  rw [bytes, Text.points_ofString, List.flatMap_map]
  rfl

theorem bytesLe_trans (h : bytesLe a b = true) (h' : bytesLe b c = true) :
    bytesLe a c = true := by
  rw [bytesLe_iff_le] at *
  exact Text.le_trans h h'

theorem bytesLe_total (a b : Text) : (bytesLe a b || bytesLe b a) = true := by
  rw [Bool.or_eq_true, bytesLe_iff_le, bytesLe_iff_le]
  exact Text.le_total a b

theorem bytesLt_of_bytesLe (h : bytesLe a b = true) (hne : a ≠ b) : BytesLt a b := by
  rw [bytesLe_iff_le] at h
  rw [bytesLt_iff_lt, ← Text.not_le]
  exact fun hba => hne (Text.le_antisymm h hba)

theorem BytesLt.ne (h : BytesLt a b) : a ≠ b := by
  rintro rfl
  exact List.lt_irrefl _ h

theorem BytesLt.asymm (h : BytesLt a b) : ¬BytesLt b a := List.lt_asymm h

/-- A character of three bytes comes before one of four, though not by their 16-bit units. -/
example : bytesLe "～" "😀" = true ∧ bytesLe "😀" "～" = false := by decide

/-! ## Lists in strictly increasing order -/

variable {α : Type}

/-- The names of a list strictly increase in the order of their bytes. -/
def Increasing (name : α → Text) (l : List α) : Prop :=
  l.Pairwise fun a b => BytesLt (name a) (name b)

variable {name : α → Text} {l l' : List α}

theorem Increasing.nodup_map (h : Increasing name l) : (l.map name).Nodup := by
  rw [List.Nodup, List.pairwise_map]
  exact h.imp BytesLt.ne

theorem Increasing.nodup (h : Increasing name l) : l.Nodup :=
  h.imp fun hlt heq => hlt.ne (congrArg name heq)

/-- **The members determine the list**: two lists of strictly increasing names
with the same members are the same list. -/
theorem Increasing.eq_of_mem_iff (h : Increasing name l) (h' : Increasing name l')
    (hmem : ∀ a, a ∈ l ↔ a ∈ l') : l = l' := by
  have hperm : l.Perm l' := (List.perm_ext_iff_of_nodup h.nodup h'.nodup).2 hmem
  refine hperm.eq_of_pairwise ?_ h h'
  intro a b _ _ hab hba
  exact absurd hba hab.asymm

theorem Increasing.sublist (h : Increasing name l') (hsub : l.Sublist l') : Increasing name l :=
  List.Pairwise.sublist hsub h

theorem increasing_map {β : Type} {f : β → α} {m : List β} :
    Increasing name (m.map f) ↔ Increasing (name ∘ f) m := List.pairwise_map

end Reconcile.Utf8
