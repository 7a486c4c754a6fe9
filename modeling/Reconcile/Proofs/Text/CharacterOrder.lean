import Mathlib.Algebra.GroupWithZero.Nat
import Reconcile.Proofs.Text.Order
import Reconcile.Text.Utf8

/-!
# Bytes and code points put texts in one order

A merge sorts paths by their bytes, the table of an inventory by their code points. The bytes
of a code point are a first byte and up to three tail bytes (`encodePoint_eq`): the first one
tells how many of the others there are and has the high digits of the code point, the others
have the low ones. First bytes grow with the code points, also from one length to the next,
and code points with the same first byte have equally many tail bytes, which tell them apart
(`firstByte_lt_or`, `ltWithin_tailBytes`). So the bytes of two code points differ at a place
that both of them have (`ltWithin_encodePoint`), and what comes after them no longer counts.
Main statement: `bytes_lt_iff`.
-/

namespace Reconcile.Utf8

/-! ## Lists told apart within their lengths -/

section Within

variable {α : Type} [LT α]

/-- At the first place where the lists differ, both have an item, and `l` the smaller one. -/
inductive LtWithin : (l m : List α) → Prop
  | head {a b : α} {l m : List α} (h : a < b) : LtWithin (a :: l) (b :: m)
  | tail {a : α} {l m : List α} (h : LtWithin l m) : LtWithin (a :: l) (a :: m)

/-- Whatever comes after such lists leaves them in their order. That is not so if one is the
beginning of the other. -/
theorem LtWithin.append_lt {l m : List α} (h : LtWithin l m) (l' m' : List α) :
    l ++ l' < m ++ m' := by
  induction h with
  | head h => exact .rel h
  | tail _ ih => exact .cons ih

end Within

/-! ## The bytes of a code point -/

/-- How many tail bytes the code point `v` takes. -/
def tailCount (v : Nat) : Nat :=
  if v < 0x80 then 0 else if v < 0x800 then 1 else if v < 0x10000 then 2 else 3

/-- The first byte of the code point `v`. -/
def firstByte (v : Nat) : Nat :=
  if v < 0x80 then v
  else if v < 0x800 then v / 0x40 + 0xC0
  else if v < 0x10000 then v / 0x1000 + 0xE0
  else v / 0x40000 + 0xF0

/-- The last `n` digits of `v` in base 64 as tail bytes. -/
def tailBytes : (n v : Nat) → List UInt8
  | 0, _ => []
  | n + 1, v => UInt8.ofNat (v / 64 ^ n % 64 + 0x80) :: tailBytes n v

variable {v w n : Nat}

/-- The four lengths of an encoded code point. -/
theorem length_cases (v : Nat) :
    v < 0x80 ∧ tailCount v = 0 ∧ firstByte v = v ∨
    (0x80 ≤ v ∧ v < 0x800) ∧ tailCount v = 1 ∧ firstByte v = v / 0x40 + 0xC0 ∨
    (0x800 ≤ v ∧ v < 0x10000) ∧ tailCount v = 2 ∧ firstByte v = v / 0x1000 + 0xE0 ∨
    0x10000 ≤ v ∧ tailCount v = 3 ∧ firstByte v = v / 0x40000 + 0xF0 := by
  rw [tailCount, firstByte]
  split
  · omega
  · split
    · omega
    · split <;> omega

theorem toNat_lt (c : Char) : c.toNat < 0x110000 := by
  have hvalid : c.toNat.isValidChar := c.valid
  rcases hvalid with h | h
  · omega
  · exact h.2

theorem code_lt (p : Point) : p.code < 0x110000 := by
  cases p with
  | char c => exact toNat_lt c
  | half h => exact Nat.lt_trans h.code_lt (by decide)

theorem firstByte_lt_size (h : v < 0x110000) : firstByte v < UInt8.size := by
  have hsize : UInt8.size = 256 := rfl
  have hcases := length_cases v
  omega

/-- The bytes of a character are its first byte and its tail bytes. -/
theorem encodeChar_eq (c : Char) :
    String.utf8EncodeChar c =
      UInt8.ofNat (firstByte c.toNat) :: tailBytes (tailCount c.toNat) c.toNat := by
  have hlt := toNat_lt c
  have hval : c.val.toNat = c.toNat := rfl
  rw [String.utf8EncodeChar, hval]
  generalize c.toNat = v at hlt
  -- the digits in the first byte are few enough for the mark above them
  rcases length_cases v with ⟨hv, hcount, hfirst⟩ | ⟨hv, hcount, hfirst⟩ |
    ⟨hv, hcount, hfirst⟩ | ⟨hv, hcount, hfirst⟩
  · rw [hcount, hfirst, if_pos (by omega)]
    rfl
  · have hhigh : v / 64 % 32 = v / 64 := Nat.mod_eq_of_lt (by omega)
    rw [hcount, hfirst, if_neg (by omega), if_pos (by omega), hhigh]
    simp [tailBytes]
  · have hhigh : v / 4096 % 16 = v / 4096 := Nat.mod_eq_of_lt (by omega)
    rw [hcount, hfirst, if_neg (by omega), if_neg (by omega), if_pos (by omega), hhigh]
    simp [tailBytes]
  · have hhigh : v / 262144 % 8 = v / 262144 := Nat.mod_eq_of_lt (by omega)
    rw [hcount, hfirst, if_neg (by omega), if_neg (by omega), if_neg (by omega), hhigh]
    simp [tailBytes]

/-- The bytes of a code point are its first byte and its tail bytes. -/
theorem encodePoint_eq (p : Point) :
    encodePoint p = UInt8.ofNat (firstByte p.code) :: tailBytes (tailCount p.code) p.code := by
  cases p with
  | char c => exact encodeChar_eq c
  | half h =>
    have hle := h.le_code
    have hlt := h.code_lt
    have hcases := length_cases h.code
    obtain ⟨hcount, hfirst⟩ : tailCount h.code = 2 ∧ firstByte h.code = h.code / 0x1000 + 0xE0 := by
      omega
    rw [Point.code, hcount, hfirst]
    simp [encodePoint, tailBytes]

/-- **First bytes grow with the code points.** Where they do not, the code points have equally
many tail bytes, and the digits that differ are among those. -/
theorem firstByte_lt_or (h : v < w) :
    firstByte v < firstByte w ∨
      firstByte v = firstByte w ∧ tailCount v = tailCount w ∧
        v / 64 ^ tailCount w = w / 64 ^ tailCount w := by
  -- each length starts above where the shorter one ends, and within a length the quotients count
  rcases length_cases v with hv | hv | hv | hv <;>
    rcases length_cases w with hw | hw | hw | hw <;>
    rw [hw.2.1] <;> omega

theorem ofNat_lt_ofNat (h : v < w) (hw : w < UInt8.size) : UInt8.ofNat v < UInt8.ofNat w :=
  (UInt8.ofNat_lt_iff_lt (Nat.lt_trans h hw) hw).2 h

/-- Numbers that differ in their last `n` digits only are told apart by the tail bytes. -/
theorem ltWithin_tailBytes (h : v < w) (hhigh : v / 64 ^ n = w / 64 ^ n) :
    LtWithin (tailBytes n v) (tailBytes n w) := by
  induction n with
  | zero => omega
  | succ n ih =>
    have hsize : UInt8.size = 256 := rfl
    have hle : v / 64 ^ n ≤ w / 64 ^ n := Nat.div_le_div_right (Nat.le_of_lt h)
    rw [Nat.pow_succ, ← Nat.div_div_eq_div_mul, ← Nat.div_div_eq_div_mul] at hhigh
    rcases Nat.lt_or_eq_of_le hle with hlt | heq
    · -- the higher digits are the same, so this one is smaller
      exact .head (ofNat_lt_ofNat (by omega) (by omega))
    · rw [tailBytes, tailBytes, heq]
      exact .tail (ih heq)

/-- **The bytes of two code points differ at a place that both have.** -/
theorem ltWithin_encodePoint {p q : Point} (h : p.code < q.code) :
    LtWithin (encodePoint p) (encodePoint q) := by
  rw [encodePoint_eq, encodePoint_eq]
  rcases firstByte_lt_or h with hfirst | ⟨hfirst, hcount, hhigh⟩
  · exact .head (ofNat_lt_ofNat hfirst (firstByte_lt_size (code_lt q)))
  · rw [hfirst, hcount]
    exact .tail (ltWithin_tailBytes h hhigh)

/-! ## Texts -/

/-- The induction is on the code points of the first: the texts part at the first of them, or
go on after one they share. -/
theorem flatMap_lt_of_lt {s t : List Point} (h : s.map Point.code < t.map Point.code) :
    s.flatMap encodePoint < t.flatMap encodePoint := by
  induction s generalizing t with
  | nil =>
    cases t with
    | nil => exact absurd h (List.lt_irrefl _)
    | cons q t =>
      rw [List.flatMap_cons, encodePoint_eq]
      exact .nil
  | cons p s ih =>
    cases t with
    | nil => exact absurd h (List.not_lt_nil _)
    | cons q t =>
      rw [List.flatMap_cons, List.flatMap_cons]
      rcases List.cons_lt_cons_iff.1 h with hlt | ⟨hcode, hlt⟩
      · exact (ltWithin_encodePoint hlt).append_lt _ _
      · rw [Point.code_inj.1 hcode]
        exact List.append_left_lt (ih hlt)

variable {a b : Text}

/-- **The order of the bytes is the order of the code points.** -/
theorem bytes_lt_iff : bytes a < bytes b ↔ a < b := by
  refine ⟨fun h => Decidable.byContradiction fun hnot => ?_, flatMap_lt_of_lt⟩
  by_cases hgt : b < a
  · exact List.lt_asymm h (flatMap_lt_of_lt hgt)
  · obtain rfl : a = b := Text.le_antisymm hgt hnot
    exact List.lt_irrefl _ h

theorem bytes_le_iff : bytes a ≤ bytes b ↔ a ≤ b := by
  rw [← List.not_lt, ← Text.not_lt]
  exact not_congr bytes_lt_iff

end Reconcile.Utf8
