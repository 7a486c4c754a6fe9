import Reconcile.Text

/-!
# The order of texts by their code points

A text is known by the numbers of its code points (`codes_inj`), so that their order is a
linear order of the texts.
-/

namespace Reconcile

namespace Point

/-- No character has the number of a half. -/
theorem toNat_ne_code (c : Char) (h : Half) : c.toNat ≠ h.code := by
  have hvalid : c.toNat.isValidChar := c.valid
  have hle := h.le_code
  have hlt := h.code_lt
  rcases hvalid with hc | hc <;> omega

theorem code_inj {p q : Point} : p.code = q.code ↔ p = q := by
  refine ⟨fun h => ?_, congrArg code⟩
  cases p with
  | char c =>
    cases q with
    | char d => exact congrArg char (Char.toNat_inj.1 h)
    | half b => exact absurd h (toNat_ne_code c b)
  | half a =>
    cases q with
    | char d => exact absurd h.symm (toNat_ne_code d a)
    | half b =>
      cases a
      cases b
      cases h
      rfl

/-- The number of a code point gives it back. -/
theorem ofCode_code (p : Point) : ofCode p.code = p := by
  cases p with
  | char c =>
    have hvalid : c.toNat.isValidChar := c.valid
    rw [code, ofCode, dif_neg, Char.ofNat_toNat]
    rcases hvalid with hc | hc <;> omega
  | half h => exact dif_pos ⟨h.le_code, h.code_lt⟩

end Point

namespace Text

variable {a b c : Text}

theorem codes_inj : a.codes = b.codes ↔ a = b :=
  (List.map_inj_right fun _ _ => Point.code_inj.1).trans points_inj

theorem not_lt : ¬a < b ↔ b ≤ a := Iff.rfl

theorem not_le : ¬a ≤ b ↔ b < a := Decidable.not_not

theorem lt_irrefl (a : Text) : ¬a < a := List.lt_irrefl a.codes

theorem lt_asymm (h : a < b) : ¬b < a :=
  show ¬b.codes < a.codes from List.lt_asymm h

instance : Std.Asymm (fun a b : Text => a < b) := ⟨fun _ _ => lt_asymm⟩

theorem le_trans (h : a ≤ b) (h' : b ≤ c) : a ≤ c :=
  show ¬c.codes < a.codes from List.le_trans h h'

theorem le_total (a b : Text) : a ≤ b ∨ b ≤ a := by
  by_cases h : b < a
  · exact .inr (lt_asymm h)
  · exact .inl h

theorem le_antisymm (h : a ≤ b) (h' : b ≤ a) : a = b := by
  refine codes_inj.1 (List.le_antisymm ?_ ?_)
  · exact h
  · exact h'

end Text

end Reconcile
