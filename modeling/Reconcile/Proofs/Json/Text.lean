import Mathlib.Tactic.SplitIfs
import Reconcile.Json.Reader
import Reconcile.Json.Writer
import Reconcile.Proofs.Text.Order

/-!
# Texts between quotes are read as they were written

A code point is written as one or two code units, escaped or not, and read as the same
units (`unitsTail_writtenPoint`); joining the halves of surrogate pairs gives the code
points back, since no text has a pair in halves (`join_units`). Main statement:
`textTail_writtenText`.
-/

namespace Reconcile.Json

/-! ## Hexadecimal digits -/

theorem hexValue?_hexDigit {n : Nat} (h : n < 16) : hexValue? (Text.hexDigit n) = some n := by
  have hall : ∀ n : Fin 16, hexValue? (Text.hexDigit n) = some n.val := by decide
  exact hall ⟨n, h⟩

theorem ofHexDigits?_append_singleton (ds : List Char) (c : Char) :
    ofHexDigits? (ds ++ [c]) =
      (ofHexDigits? ds).bind fun n => (hexValue? c).map fun d => 16 * n + d := by
  rw [ofHexDigits?, List.foldlM_append]
  simp [ofHexDigits?]

/-- The hexadecimal digits that are written stand for the number, if they are enough. -/
theorem ofHexDigits?_hexDigits {width n : Nat} (h : n < Nat.pow 16 width) :
    ofHexDigits? (Text.hexDigits width n) = some n := by
  induction width generalizing n with
  | zero =>
    have hn : n < 1 := h
    rw [Nat.lt_one_iff.1 hn]
    rfl
  | succ width ih =>
    have hn : n < Nat.pow 16 width * 16 := h
    rw [Text.hexDigits, ofHexDigits?_append_singleton, ih (by omega),
      hexValue?_hexDigit (Nat.mod_lt n (by decide))]
    exact congrArg some (Nat.div_add_mod n 16)

/-! ## Code units -/

/-- The UTF-16 code units of a character. -/
def charUnits (c : Char) : List Nat :=
  if c.toNat < 0x10000 then [c.toNat]
  else [0xD800 + (c.toNat - 0x10000) / 0x400, 0xDC00 + (c.toNat - 0x10000) % 0x400]

theorem toNat_valid (c : Char) : c.toNat < 0xD800 ∨ (0xDFFF < c.toNat ∧ c.toNat < 0x110000) :=
  c.valid

/-- The UTF-16 code units of a code point. -/
def pointUnits : Point → List Nat
  | .char c => charUnits c
  | .half h => [h.code]

/-- What is no pair with a code point is none with its first code unit. -/
theorem isPair_ofCode_head {p q r : Point} {ps : List Point} (h : Point.isPair p q = false)
    (hr : r ∈ (((q :: ps).flatMap pointUnits).map Point.ofCode).head?) :
    Point.isPair p r = false := by
  cases q with
  | half b =>
    obtain rfl : Point.ofCode b.code = r := Option.some.inj hr
    rwa [show Point.ofCode b.code = .half b from Point.ofCode_code (.half b)]
  | char c =>
    rw [List.flatMap_cons, pointUnits, charUnits] at hr
    split_ifs at hr with hsmall
    · obtain rfl : Point.ofCode c.toNat = r := Option.some.inj hr
      rw [show Point.ofCode c.toNat = .char c from Point.ofCode_code (.char c)]
      exact Point.isPair_char p c
    · -- the first of two units is no second half
      obtain rfl := Option.some.inj hr
      have hvalid := toNat_valid c
      rw [Point.ofCode, dif_pos (by omega)]
      cases p with
      | char d => rfl
      | half a =>
        simp only [Point.isPair, Half.isFirst, Bool.and_eq_false_imp, Bool.not_eq_false',
          decide_eq_true_iff]
        omega

/-- The two code units of a large character are the halves of a pair, which join to it. -/
theorem join_charUnits {c : Char} (hlarge : ¬c.toNat < 0x10000) (ps : List Point) :
    Point.join ((charUnits c).map Point.ofCode ++ ps) = .char c :: Point.join ps := by
  have hvalid := toNat_valid c
  rw [charUnits, if_neg hlarge, List.map_cons, List.map_singleton, Point.ofCode,
    dif_pos (by omega), Point.ofCode, dif_pos (by omega), List.cons_append,
    List.singleton_append, Point.join, if_pos]
  · refine congrArg (Point.char · :: Point.join ps)
      ((congrArg Char.ofNat ?_).trans (Char.ofNat_toNat c))
    show 0x10000 + (0xD800 + (c.toNat - 0x10000) / 0x400 - 0xD800) * 0x400 +
      (0xDC00 + (c.toNat - 0x10000) % 0x400 - 0xDC00) = c.toNat
    omega
  · simp only [Half.isFirst, Bool.and_eq_true, Bool.not_eq_true', decide_eq_true_iff,
      decide_eq_false_iff_not]
    omega

/-- **The code units of a text** give its code points. -/
theorem join_units {ps : List Point} (h : Point.isJoined ps = true) :
    Point.join ((ps.flatMap pointUnits).map Point.ofCode) = ps := by
  induction ps with
  | nil => rfl
  | cons p ps ih =>
    obtain ⟨hhead, hps⟩ := Point.isJoined_cons_iff.1 h
    have hunit : ∀ r ∈ ((ps.flatMap pointUnits).map Point.ofCode).head?,
        Point.isPair p r = false := by
      cases ps with
      | nil => exact fun r hr => nomatch hr
      | cons q ps => exact fun r => isPair_ofCode_head (hhead q rfl)
    rw [List.flatMap_cons, List.map_append]
    by_cases hunits : pointUnits p = [p.code]
    · rw [hunits, List.map_singleton, Point.ofCode_code, List.singleton_append,
        Point.join_cons hunit, ih hps]
    · cases p with
      | half a => exact absurd rfl hunits
      | char c =>
        rw [pointUnits, join_charUnits (fun hsmall => hunits (if_pos hsmall)), ih hps]

/-! ## Reading what was written -/

variable {rest after : List Char} {units : List Nat} {next : Char}

/-- An escape that does not end the input is read as its code unit. -/
theorem unitsTail_unitEscape {unit : Nat} (hunit : unit < 0x10000)
    (h : unitsTail (next :: rest) = .ok (units, after)) :
    unitsTail (unitEscape unit ++ next :: rest) = .ok (unit :: units, after) := by
  have hdigits : codeUnit? (Text.hexDigit (unit / 16 / 16 / 16 % 16))
      (Text.hexDigit (unit / 16 / 16 % 16)) (Text.hexDigit (unit / 16 % 16))
      (Text.hexDigit (unit % 16)) = some unit :=
    ofHexDigits?_hexDigits (show unit < Nat.pow 16 4 from hunit)
  have hescape : unitEscape unit ++ next :: rest =
      '\\' :: 'u' :: Text.hexDigit (unit / 16 / 16 / 16 % 16) ::
        Text.hexDigit (unit / 16 / 16 % 16) :: Text.hexDigit (unit / 16 % 16) ::
        Text.hexDigit (unit % 16) :: next :: rest := rfl
  rw [hescape, unitsTail, hdigits]
  simp only [h]
  rfl

theorem unitsTail_escapedChar {e d : Char} (hd : escapedChar? e = some d)
    (h : unitsTail rest = .ok (units, after)) :
    unitsTail ('\\' :: e :: rest) = .ok (d.toNat :: units, after) := by
  have hu : e ≠ 'u' := by
    rintro rfl
    cases hd
  rw [unitsTail, hd]
  · simp only [h]
    rfl
  · intro _ _ _ _ _ _ heq _
    exact hu heq
  · exact hu

theorem unitsTail_plain {c : Char} (hquote : c ≠ '"') (hslash : c ≠ '\\') (hc : 0x20 ≤ c.toNat)
    (h : unitsTail rest = .ok (units, after)) :
    unitsTail (c :: rest) = .ok (c.toNat :: units, after) := by
  rw [unitsTail, if_neg (Nat.not_lt.2 hc), h]
  · rfl
  · exact hquote
  -- the other forms of input begin with a backslash
  · exact fun _ _ _ _ _ _ heq _ => hslash heq
  · exact fun _ heq _ => hslash heq
  · exact fun _ _ heq _ => hslash heq
  · exact fun heq _ => hslash heq

/-- **One character** is read as the code units it was written for. -/
theorem unitsTail_writtenChar (c : Char) (h : unitsTail (next :: rest) = .ok (units, after)) :
    unitsTail (writtenChar c ++ next :: rest) = .ok (charUnits c ++ units, after) := by
  have hvalid := toNat_valid c
  -- an escape of one letter stands for a character below U+0080
  have hletter : ∀ e, escapedChar? e = some c → c.toNat < 0x10000 →
      unitsTail (['\\', e] ++ next :: rest) = .ok (charUnits c ++ units, after) := by
    intro e he hc
    rw [charUnits, if_pos hc]
    exact unitsTail_escapedChar he h
  rw [writtenChar]
  split_ifs with hmark hn hr ht hf hb hprint hsmall
  · rcases hmark with rfl | rfl
    · exact hletter _ rfl (by decide)
    · exact hletter _ rfl (by decide)
  · subst hn
    exact hletter _ rfl (by decide)
  · subst hr
    exact hletter _ rfl (by decide)
  · subst ht
    exact hletter _ rfl (by decide)
  · subst hf
    exact hletter _ rfl (by decide)
  · subst hb
    exact hletter _ rfl (by decide)
  · have hge : 0x20 ≤ c.toNat := hprint.1
    have hle : c.toNat ≤ 0x7E := hprint.2
    rw [charUnits, if_pos (by omega)]
    exact unitsTail_plain (fun hc => hmark (.inl hc)) (fun hc => hmark (.inr hc)) hge h
  · rw [charUnits, if_pos hsmall]
    exact unitsTail_unitEscape hsmall h
  · rw [charUnits, if_neg hsmall, List.append_assoc]
    exact unitsTail_unitEscape (by omega) (unitsTail_unitEscape (by omega) h)

/-- **One code point** is read as the code units it was written for. -/
theorem unitsTail_writtenPoint (p : Point) (h : unitsTail (next :: rest) = .ok (units, after)) :
    unitsTail (writtenPoint p ++ next :: rest) = .ok (pointUnits p ++ units, after) := by
  cases p with
  | char c => exact unitsTail_writtenChar c h
  | half a =>
    have hlt := a.code_lt
    exact unitsTail_unitEscape (by omega) h

theorem unitsTail_written (ps : List Point) (rest : List Char) :
    unitsTail (ps.flatMap writtenPoint ++ '"' :: rest) = .ok (ps.flatMap pointUnits, rest) := by
  induction ps with
  | nil => rfl
  | cons p ps ih =>
    obtain ⟨next, tail, htail⟩ :=
      List.exists_cons_of_ne_nil (List.append_ne_nil_of_right_ne_nil (ps.flatMap writtenPoint)
        (List.cons_ne_nil '"' rest))
    rw [htail] at ih
    rw [List.flatMap_cons, List.flatMap_cons, List.append_assoc, htail]
    exact unitsTail_writtenPoint p ih

/-- **A text between quotes** is read as it was written. -/
theorem textTail_writtenText (t : Text) (rest : List Char) :
    textTail (t.points.flatMap writtenPoint ++ '"' :: rest) = .ok (t, rest) := by
  rw [textTail, unitsTail_written]
  refine congrArg (fun read => Except.ok (read, rest)) (Text.points_inj.1 ?_)
  exact join_units t.isJoined

end Reconcile.Json
