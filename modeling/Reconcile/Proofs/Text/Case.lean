import Mathlib.Tactic.ByContra
import Reconcile.Text.Case

/-!
# The lower-case form of a part of a text

Of all characters only the capital sigma has a lower-case form that depends on what
stands around it. The part of a text is therefore written in lower case as it would be
alone, as long as each of its sigmas ends a word in the text exactly if it does in the
part (`lowerIn_eq_lower_iff`). Only a sigma that stands at an end of the part, next to a
letter of the text, can break this (`exists_of_not_keepsSigmas`).
-/

namespace Reconcile.Text

/-- Whether the last code point of `s` that is not passed over is a cased letter; `inWord`
tells it where there is none. -/
def inWordAfter (inWord : Bool) (s : List Point) : Bool :=
  s.foldl (fun inWord c => if c.isCaseIgnorable then inWord else c.isCased) inWord

/-- Whether a capital sigma that stands between two texts is at the end of a word. -/
def endsWord (before after : List Point) : Bool := inWordAfter false before && !startsCased after

/-- The lower-case form of a part of a text that stands between `before` and `after`. -/
def lowerIn (before after : List Point) : (part : List Point) → List Point
  | [] => []
  | c :: rest =>
    (if c = .sigma then (if endsWord before (rest ++ after) then [.char 'ς'] else [.char 'σ'])
      else c.lower) ++
      lowerIn (before ++ [c]) after rest

/-- Each capital sigma of a part of a text ends a word exactly if it does in the part
alone. -/
def KeepsSigmas (before part after : List Point) : Prop :=
  ∀ front back, part = front ++ .sigma :: back →
    endsWord (before ++ front) (back ++ after) = endsWord front back

/-! ## Words -/

theorem inWordAfter_append (inWord : Bool) (s t : List Point) :
    inWordAfter inWord (s ++ t) = inWordAfter (inWordAfter inWord s) t :=
  List.foldl_append

/-- A code point that is not passed over hides what stands before it. -/
theorem inWordAfter_congr (v w : Bool) {s : List Point} (h : s.all Point.isCaseIgnorable = false) :
    inWordAfter v s = inWordAfter w s := by
  induction s generalizing v w with
  | nil => cases h
  | cons c s ih =>
    show inWordAfter (if c.isCaseIgnorable then v else c.isCased) s =
      inWordAfter (if c.isCaseIgnorable then w else c.isCased) s
    by_cases hc : c.isCaseIgnorable = true
    · rw [if_pos hc, if_pos hc]
      refine ih v w ?_
      rwa [List.all_cons, hc, Bool.true_and] at h
    · rw [if_neg hc, if_neg hc]

/-- A code point that is not passed over hides what stands after it. -/
theorem startsCased_append {s : List Point} (t : List Point)
    (h : s.all Point.isCaseIgnorable = false) :
    startsCased (s ++ t) = startsCased s := by
  induction s with
  | nil => cases h
  | cons c s ih =>
    by_cases hc : c.isCaseIgnorable = true
    · have hs : s.all Point.isCaseIgnorable = false := by
        rwa [List.all_cons, hc, Bool.true_and] at h
      simpa only [startsCased, List.cons_append, List.dropWhile_cons_of_pos hc] using ih hs
    · simp only [startsCased, List.cons_append, List.dropWhile_cons_of_neg hc, List.head?_cons]

theorem startsCased_append_of_ignorable {s : List Point} (t : List Point)
    (h : s.all Point.isCaseIgnorable = true) : startsCased (s ++ t) = startsCased t := by
  rw [startsCased, List.dropWhile_append_of_pos (List.all_eq_true.1 h), startsCased]

/-! ## Parts of a text -/

/-- The part of a text is followed by the lower-case form of the rest. -/
theorem lowerFrom_append (before part after : List Point) :
    lowerFrom (inWordAfter false before) (part ++ after) =
      lowerIn before after part ++ lowerFrom (inWordAfter false (before ++ part)) after := by
  induction part generalizing before with
  | nil => rw [List.nil_append, List.append_nil, lowerIn, List.nil_append]
  | cons c rest ih =>
    have hnext : (if c.isCaseIgnorable then inWordAfter false before else c.isCased) =
        inWordAfter false (before ++ [c]) := by
      rw [inWordAfter_append]
      rfl
    rw [List.cons_append, lowerFrom, hnext, ih, lowerIn, endsWord, List.append_assoc,
      List.append_assoc, List.singleton_append]

theorem lower_eq_lowerIn (s : List Point) : lower s = lowerIn [] [] s := by
  have h := lowerFrom_append [] s []
  rwa [List.append_nil, List.nil_append, lowerFrom, List.append_nil] at h

/-- The lower-case form of a text, put together from those of three parts of it. -/
theorem lower_append (before part after : List Point) :
    lower (before ++ part ++ after) = lowerIn [] (part ++ after) before ++
      lowerIn before after part ++ lowerFrom (inWordAfter false (before ++ part)) after := by
  have hbefore := lowerFrom_append [] before (part ++ after)
  rw [List.nil_append, lowerFrom_append before part after] at hbefore
  rw [List.append_assoc, List.append_assoc]
  exact hbefore

/-- Two contexts give a part the same lower-case form if they agree about its sigmas. -/
theorem lowerIn_eq_iff {before before' after after' part : List Point} :
    lowerIn before after part = lowerIn before' after' part ↔
      ∀ front back, part = front ++ .sigma :: back →
        endsWord (before ++ front) (back ++ after) =
          endsWord (before' ++ front) (back ++ after') := by
  induction part generalizing before before' with
  | nil => simp [lowerIn]
  | cons c rest ih =>
    -- the sigma is `c` itself or one of the rest
    have hsplit : (∀ front back, c :: rest = front ++ .sigma :: back →
          endsWord (before ++ front) (back ++ after) =
            endsWord (before' ++ front) (back ++ after')) ↔
        (c = .sigma → endsWord before (rest ++ after) = endsWord before' (rest ++ after')) ∧
          lowerIn (before ++ [c]) after rest = lowerIn (before' ++ [c]) after' rest := by
      rw [ih]
      constructor
      · intro h
        refine ⟨?_, ?_⟩
        · rintro rfl
          simpa using h [] rest rfl
        · rintro front back rfl
          simpa using h (c :: front) back rfl
      · rintro ⟨hc, hrest⟩ front back heq
        cases front with
        | nil =>
          obtain ⟨rfl, rfl⟩ := List.cons.inj heq
          simpa using hc rfl
        | cons d front =>
          obtain ⟨rfl, rfl⟩ := List.cons.inj heq
          simpa using hrest front back rfl
    rw [hsplit, lowerIn, lowerIn]
    by_cases hc : c = .sigma
    · rw [if_pos hc, if_pos hc]
      cases endsWord before (rest ++ after) <;> cases endsWord before' (rest ++ after') <;>
        simp [hc]
    · simp [hc]

/-- **A part keeps its lower-case form** exactly if its sigmas stay what they are. -/
theorem lowerIn_eq_lower_iff {before part after : List Point} :
    lowerIn before after part = lower part ↔ KeepsSigmas before part after := by
  simp only [lower_eq_lowerIn, lowerIn_eq_iff, KeepsSigmas, List.nil_append, List.append_nil]

instance (before part after : List Point) : Decidable (KeepsSigmas before part after) :=
  decidable_of_iff _ lowerIn_eq_lower_iff

/-- A part whose sigmas do not stay what they are has one that is next to a cased letter
of the text, with only such characters between them as are passed over. -/
theorem exists_of_not_keepsSigmas {before part after : List Point}
    (h : ¬KeepsSigmas before part after) :
    ∃ front back, part = front ++ .sigma :: back ∧
      (front.all Point.isCaseIgnorable = true ∧ inWordAfter false before = true ∨
        back.all Point.isCaseIgnorable = true ∧ startsCased after = true) := by
  simp only [KeepsSigmas, not_forall] at h
  obtain ⟨front, back, hpart, hends⟩ := h
  refine ⟨front, back, hpart, ?_⟩
  rw [endsWord, endsWord, inWordAfter_append] at hends
  by_contra hfar
  obtain ⟨hfront, hback⟩ := not_or.1 hfar
  have hword : inWordAfter (inWordAfter false before) front = inWordAfter false front := by
    cases hall : front.all Point.isCaseIgnorable with
    | false => exact inWordAfter_congr _ _ hall
    | true =>
      have hbefore : inWordAfter false before = false :=
        Bool.eq_false_iff.2 fun hbefore => hfront ⟨hall, hbefore⟩
      rw [hbefore]
  have hnext : startsCased (back ++ after) = startsCased back := by
    cases hall : back.all Point.isCaseIgnorable with
    | false => exact startsCased_append after hall
    | true =>
      have hafter : startsCased after = false :=
        Bool.eq_false_iff.2 fun hafter => hback ⟨hall, hafter⟩
      have hnone := startsCased_append_of_ignorable [] hall
      rw [List.append_nil] at hnone
      rw [startsCased_append_of_ignorable after hall, hafter, hnone]
      rfl
  rw [hword, hnext] at hends
  exact hends rfl

end Reconcile.Text
