import Mathlib.Data.List.TakeWhile
import Reconcile.Console.Markup
import Reconcile.Proofs.Sequence
import Reconcile.Proofs.Text.Printable

/-!
# Texts that show as they are

What a text with markup shows is part of it: tags are left out, and so are backslashes
before brackets. A text that has neither is plain, and shows as it is. Any other text loses
a bracket or a backslash that it had, whatever else it shows. Main statements:
`chars_of_render`, `visible_of_isPlain` and `isPlain_or_marks_visible_lt`.
-/

namespace Reconcile.Console.Markup

open Text (IsPrintable isPrintable)

/-! ## Tags in a text -/

/-- The inside of a tag: it begins like one, and there is no bracket in it. -/
def IsTag : List Char → Prop
  | [] => False
  | c :: rest => isTagStart c = true ∧ '[' ∉ rest ∧ ']' ∉ rest

/-- A text without markup: it has no tag and no bracket after a backslash. -/
structure IsPlain (s : List Char) : Prop where
  noTag : ∀ inner, IsTag inner → ¬('[' :: inner ++ [']'] <:+: s)
  noEscape : ¬['\\', '['] <:+: s

variable {s inner after rest : List Char} {c : Char} {n : Nat}

/-- Whether a character may stand inside a tag, after its first one. -/
def isWithin (c : Char) : Bool := !(c = '[' || c = ']')

theorem isWithin_iff : isWithin c = true ↔ c ≠ '[' ∧ c ≠ ']' := by
  simp [isWithin]

theorem tag?_eq_some_iff :
    tag? s = some (inner, after) ↔ IsTag inner ∧ s = inner ++ ']' :: after := by
  constructor
  · intro h
    cases s with
    | nil => cases h
    | cons c rest =>
      simp only [tag?] at h
      split at h
      · cases h
      · rename_i hstart
        split at h
        · rename_i after' hdrop
          obtain ⟨rfl, rfl⟩ := Prod.mk.inj (Option.some.inj h)
          have hwithin : ∀ d ∈ rest.takeWhile isWithin, d ≠ '[' ∧ d ≠ ']' := fun d hd =>
            isWithin_iff.1 (List.mem_takeWhile_imp hd)
          refine ⟨⟨by simpa using hstart, fun hd => (hwithin _ hd).1 rfl,
            fun hd => (hwithin _ hd).2 rfl⟩, ?_⟩
          rw [List.cons_append, ← hdrop]
          exact congrArg (c :: ·) List.takeWhile_append_dropWhile.symm
        · cases h
  · rintro ⟨htag, rfl⟩
    cases inner with
    | nil => exact htag.elim
    | cons c rest =>
      obtain ⟨hstart, hopening, hclosing⟩ := htag
      have hwithin : ∀ d ∈ rest, isWithin d = true := fun d hd =>
        isWithin_iff.2 ⟨fun h => hopening (h ▸ hd), fun h => hclosing (h ▸ hd)⟩
      have htake : (rest ++ ']' :: after).takeWhile isWithin = rest := by
        rw [List.takeWhile_append_of_pos hwithin]
        exact List.append_nil rest
      have hdrop : (rest ++ ']' :: after).dropWhile isWithin = ']' :: after := by
        rw [List.dropWhile_append_of_pos hwithin]
        rfl
      unfold isWithin at htake hdrop
      rw [List.cons_append]
      simp only [tag?, hstart, Bool.not_true, Bool.false_eq_true, if_false, hdrop, htake]

/-- A text from its backslashes on. -/
theorem exists_backslashes (s : List Char) : ∃ n t, s = List.replicate n '\\' ++ t ∧
    s.takeWhile (· = '\\') = List.replicate n '\\' ∧
      s.drop (s.takeWhile (· = '\\')).length = t := by
  have hsplit : s.takeWhile (· = '\\') ++ s.dropWhile (· = '\\') = s :=
    List.takeWhile_append_dropWhile
  have hbackslashes : s.takeWhile (· = '\\') =
      List.replicate (s.takeWhile (· = '\\')).length '\\' :=
    List.eq_replicate_of_mem fun d hd => by simpa using List.mem_takeWhile_imp hd
  have hdrop := congrArg (List.drop (s.takeWhile (· = '\\')).length) hsplit
  rw [List.drop_left] at hdrop
  exact ⟨_, _, by rw [← hbackslashes, hsplit], hbackslashes, hdrop.symm⟩

theorem escapedTag?_eq_some_iff : escapedTag? s = some (n, inner, after) ↔
    IsTag inner ∧ s = List.replicate n '\\' ++ '[' :: (inner ++ ']' :: after) := by
  constructor
  · intro h
    obtain ⟨m, t, hs, htake, hdrop⟩ := exists_backslashes s
    simp only [escapedTag?] at h
    rw [hdrop, htake, List.length_replicate] at h
    split at h
    · rename_i rest
      obtain ⟨⟨inner', after'⟩, htag, heq⟩ := Option.map_eq_some_iff.1 h
      obtain ⟨rfl, rfl, rfl⟩ : m = n ∧ inner' = inner ∧ after' = after := by simpa using heq
      obtain ⟨hinner, rfl⟩ := tag?_eq_some_iff.1 htag
      exact ⟨hinner, hs⟩
    · cases h
  · rintro ⟨htag, rfl⟩
    have htake : (List.replicate n '\\' ++ '[' :: (inner ++ ']' :: after)).takeWhile (· = '\\') =
        List.replicate n '\\' := by
      rw [List.takeWhile_append_of_pos (fun d hd => by simpa using List.eq_of_mem_replicate hd)]
      exact List.append_nil _
    have hdrop : (List.replicate n '\\' ++ '[' :: (inner ++ ']' :: after)).drop
        (List.replicate n '\\').length = '[' :: (inner ++ ']' :: after) := List.drop_left
    rw [List.length_replicate] at hdrop
    simp only [escapedTag?, htake, List.length_replicate, hdrop,
      tag?_eq_some_iff.2 ⟨htag, rfl⟩, Option.map_some]

theorem escapedTag?_tag (htag : IsTag inner) (n : Nat) (after : List Char) :
    escapedTag? (List.replicate n '\\' ++ '[' :: (inner ++ ']' :: after)) =
      some (n, inner, after) :=
  escapedTag?_eq_some_iff.2 ⟨htag, rfl⟩

/-- No markup begins at a character that is neither a bracket nor a backslash. -/
theorem escapedTag?_of_ne (hbracket : c ≠ '[') (hbackslash : c ≠ '\\') (rest : List Char) :
    escapedTag? (c :: rest) = none := by
  cases hfound : escapedTag? (c :: rest) with
  | none => rfl
  | some found =>
    obtain ⟨n, inner, after⟩ := found
    have hs := (escapedTag?_eq_some_iff.1 hfound).2
    cases n with
    | zero => exact absurd (List.cons.inj hs).1 hbracket
    | succ n => exact absurd (List.cons.inj hs).1 hbackslash

/-! ## The pieces of a text -/

theorem piecesWithin_nil (fuel : Nat) : piecesWithin fuel [] = [] := by cases fuel <;> rfl

/-- Each step takes a character or more, so that more fuel than characters changes nothing. -/
theorem piecesWithin_eq {fuel more : Nat} (h : s.length ≤ fuel) (hmore : s.length ≤ more) :
    piecesWithin fuel s = piecesWithin more s := by
  induction fuel generalizing s more with
  | zero =>
    obtain rfl := List.eq_nil_of_length_eq_zero (Nat.le_zero.1 h)
    exact (piecesWithin_nil more).symm
  | succ fuel ih =>
    cases more with
    | zero =>
      obtain rfl := List.eq_nil_of_length_eq_zero (Nat.le_zero.1 hmore)
      rfl
    | succ more =>
      cases s with
      | nil => rfl
      | cons c rest =>
        rw [List.length_cons] at h hmore
        simp only [piecesWithin]
        cases htag : escapedTag? (c :: rest) with
        | none => exact congrArg (withChar c) (ih (by omega) (by omega))
        | some found =>
          obtain ⟨n, inner, after⟩ := found
          have hlength := congrArg List.length (escapedTag?_eq_some_iff.1 htag).2
          simp only [List.length_cons, List.length_append, List.length_replicate] at hlength
          have hafter : piecesWithin fuel after = piecesWithin more after :=
            ih (by omega) (by omega)
          simp only [hafter]

theorem pieces_cons (h : escapedTag? (c :: rest) = none) :
    pieces (c :: rest) = withChar c (pieces rest) := by
  rw [pieces, List.length_cons, piecesWithin, h]
  rfl

/-- The pieces of a text that begins with a tag and the backslashes before it. -/
theorem pieces_tag (htag : IsTag inner) (n : Nat) (after : List Char) :
    pieces (List.replicate n '\\' ++ '[' :: (inner ++ ']' :: after)) =
      .plain [] :: .plain (List.replicate (n / 2) '\\') ::
        (if n % 2 = 1 then .plain ('[' :: inner ++ [']']) else .tag inner) ::
        .plain [] :: pieces after := by
  have hfound := escapedTag?_tag htag n after
  generalize hs : List.replicate n '\\' ++ '[' :: (inner ++ ']' :: after) = s at hfound ⊢
  have hlength := congrArg List.length hs
  simp only [List.length_cons, List.length_append, List.length_replicate] at hlength
  cases s with
  | nil => cases hfound
  | cons c rest =>
    rw [List.length_cons] at hlength
    have hafter : piecesWithin rest.length after = pieces after :=
      piecesWithin_eq (by omega) (Nat.le_refl _)
    rw [pieces, List.length_cons, piecesWithin, hfound]
    simp only [hafter]

/-- The pieces of a text with a tag after characters of no markup. -/
theorem pieces_before_tag (hbracket : '[' ∉ s) (hbackslash : '\\' ∉ s) (htag : IsTag inner)
    (after : List Char) : pieces (s ++ '[' :: (inner ++ ']' :: after)) =
      .plain s :: .plain [] :: .tag inner :: .plain [] :: pieces after := by
  induction s with
  | nil => exact pieces_tag htag 0 after
  | cons c s ih =>
    have hc : c ≠ '[' ∧ c ≠ '\\' :=
      ⟨fun h => hbracket (h ▸ List.mem_cons_self), fun h => hbackslash (h ▸ List.mem_cons_self)⟩
    rw [List.cons_append, pieces_cons (escapedTag?_of_ne hc.1 hc.2 _),
      ih (fun h => hbracket (List.mem_cons_of_mem c h))
        (fun h => hbackslash (List.mem_cons_of_mem c h))]
    rfl

/-- To prove something of all texts, prove it from what follows the first character, or
the tag that is at the front. -/
theorem induction_on_tags {P : List Char → Prop} (s : List Char) (nil : P [])
    (char : ∀ c rest, escapedTag? (c :: rest) = none → P rest → P (c :: rest))
    (tag : ∀ n inner after, IsTag inner → P after →
      P (List.replicate n '\\' ++ '[' :: (inner ++ ']' :: after))) : P s := by
  induction hlength : s.length using Nat.strongRecOn generalizing s with
  | ind length ih =>
    subst hlength
    cases s with
    | nil => exact nil
    | cons c rest =>
      cases hfound : escapedTag? (c :: rest) with
      | none => exact char c rest hfound (ih rest.length (Nat.lt_succ_self _) rest rfl)
      | some found =>
        obtain ⟨n, inner, after⟩ := found
        obtain ⟨htag, hs⟩ := escapedTag?_eq_some_iff.1 hfound
        have hshorter : after.length < (c :: rest).length := by
          rw [hs]
          simp only [List.length_cons, List.length_append, List.length_replicate]
          omega
        rw [hs]
        exact tag n inner after htag (ih after.length hshorter after rfl)

/-! ## What shows -/

/-- What a piece shows. -/
def shownOf : Piece → List Char
  | .plain s => (unescaped s).filter (!Progress.isStripped ·)
  | .tag _ => []

/-- What a text with markup shows. -/
def visible (s : List Char) : List Char := (pieces s).flatMap shownOf

theorem unescaped_cons (c : Char) (s : List Char) :
    unescaped (c :: s) =
      if c = '\\' ∧ s.head? = some '[' then unescaped s else c :: unescaped s := by
  split
  · rename_i h
    obtain ⟨rfl, hs⟩ := h
    obtain ⟨rest, rfl⟩ : ∃ rest, s = '[' :: rest := List.head?_eq_some_iff.1 hs
    rfl
  · rename_i h
    rw [unescaped.eq_def]
    split
    · rename_i heq
      cases heq
    · rename_i rest heq
      obtain ⟨rfl, rfl⟩ := List.cons.inj heq
      exact absurd ⟨rfl, rfl⟩ h
    · rename_i d rest _ heq
      obtain ⟨rfl, rfl⟩ := List.cons.inj heq
      rfl

theorem unescaped_sublist (s : List Char) : (unescaped s).Sublist s := by
  induction s with
  | nil => exact List.Sublist.slnil
  | cons c s ih =>
    rw [unescaped_cons]
    split
    · exact ih.cons c
    · exact ih.cons_cons c

/-- A character goes in front of the first plain piece. -/
theorem withChar_eq (c : Char) (ps : List Piece) :
    ∃ s ps', withChar c ps = .plain (c :: s) :: ps' ∧
      ps.flatMap shownOf = shownOf (.plain s) ++ ps'.flatMap shownOf := by
  cases ps with
  | nil => exact ⟨[], [], rfl, rfl⟩
  | cons piece ps =>
    cases piece with
    | plain s => exact ⟨s, ps, rfl, rfl⟩
    | tag inner => exact ⟨[], .tag inner :: ps, rfl, rfl⟩

/-- There is no tag after a backslash that is before none. -/
theorem escapedTag?_of_backslash (h : escapedTag? ('\\' :: rest) = none) :
    escapedTag? rest = none := by
  cases hfound : escapedTag? rest with
  | none => rfl
  | some found =>
    obtain ⟨n, inner, after⟩ := found
    obtain ⟨htag, rfl⟩ := escapedTag?_eq_some_iff.1 hfound
    have hmore := escapedTag?_tag htag (n + 1) after
    rw [List.replicate_succ, List.cons_append, h] at hmore
    cases hmore

/-- What shows of a character that is in no tag: a backslash before a bracket does not. -/
theorem visible_cons (h : escapedTag? (c :: rest) = none) :
    visible (c :: rest) =
      if c = '\\' ∧ rest.head? = some '[' then visible rest
      else [c].filter (!Progress.isStripped ·) ++ visible rest := by
  obtain ⟨s, ps, hpieces, hrest⟩ := withChar_eq c (pieces rest)
  have hhead : c = '\\' → s.head? = rest.head? := by
    rintro rfl
    cases rest with
    | nil =>
      obtain ⟨hs, -⟩ := List.cons.inj hpieces
      obtain rfl : [] = s := (List.cons.inj (Piece.plain.inj hs)).2
      rfl
    | cons d rest =>
      obtain ⟨s', ps', hpieces', -⟩ := withChar_eq d (pieces rest)
      rw [pieces_cons (escapedTag?_of_backslash h), hpieces'] at hpieces
      obtain ⟨hs, -⟩ := List.cons.inj hpieces
      obtain rfl : d :: s' = s := (List.cons.inj (Piece.plain.inj hs)).2
      rfl
  have hvisible : visible (c :: rest) =
      (unescaped (c :: s)).filter (!Progress.isStripped ·) ++ ps.flatMap shownOf := by
    rw [visible, pieces_cons h, hpieces]
    rfl
  have hcondition : (c = '\\' ∧ s.head? = some '[') ↔ (c = '\\' ∧ rest.head? = some '[') :=
    and_congr_right fun hc => by rw [hhead hc]
  rw [hvisible, unescaped_cons, visible, hrest]
  simp only [hcondition]
  split
  · rfl
  · show ([c] ++ unescaped s).filter (!Progress.isStripped ·) ++ ps.flatMap shownOf = _
    rw [List.filter_append, List.append_assoc]
    rfl

/-- What shows of a text that begins with a tag and the backslashes before it. -/
theorem visible_tag (htag : IsTag inner) (n : Nat) (after : List Char) :
    visible (List.replicate n '\\' ++ '[' :: (inner ++ ']' :: after)) =
      shownOf (.plain (List.replicate (n / 2) '\\')) ++
        (shownOf (if n % 2 = 1 then .plain ('[' :: inner ++ [']']) else .tag inner) ++
          visible after) := by
  rw [visible, pieces_tag htag]
  rfl

theorem shownOf_plain_sublist (s : List Char) : (shownOf (.plain s)).Sublist s :=
  List.filter_sublist.trans (unescaped_sublist s)

/-- What shows of a text is part of it. -/
theorem visible_sublist (s : List Char) : (visible s).Sublist s := by
  induction s using induction_on_tags with
  | nil => exact List.Sublist.slnil
  | char c rest h ih =>
    rw [visible_cons h]
    split
    · exact ih.cons c
    · exact List.filter_sublist.append ih
  | tag n inner after htag ih =>
    have hbackslashes : (List.replicate (n / 2) '\\').Sublist (List.replicate n '\\') :=
      (List.replicate_sublist_replicate '\\').2 (Nat.div_le_self n 2)
    have hinner : (shownOf (if n % 2 = 1 then .plain ('[' :: inner ++ [']'])
        else .tag inner)).Sublist ('[' :: inner ++ [']']) := by
      split
      · exact shownOf_plain_sublist _
      · exact List.nil_sublist _
    have hsplit : '[' :: (inner ++ ']' :: after) = ('[' :: inner ++ [']']) ++ after := by simp
    rw [visible_tag htag, hsplit]
    exact ((shownOf_plain_sublist _).trans hbackslashes).append (hinner.append ih)

/-! ## Plain texts -/

/-- A text is plain from a character on if it is after it, and no markup begins there. -/
theorem isPlain_cons_iff : IsPlain (c :: rest) ↔
    escapedTag? (c :: rest) = none ∧ ¬(c = '\\' ∧ rest.head? = some '[') ∧ IsPlain rest := by
  constructor
  · intro h
    refine ⟨?_, ?_, ?_⟩
    · cases hfound : escapedTag? (c :: rest) with
      | none => rfl
      | some found =>
        obtain ⟨n, inner, after⟩ := found
        obtain ⟨htag, hs⟩ := escapedTag?_eq_some_iff.1 hfound
        exact absurd ⟨List.replicate n '\\', after, by rw [hs]; simp⟩ (h.noTag inner htag)
    · rintro ⟨rfl, hrest⟩
      obtain ⟨more, rfl⟩ := List.head?_eq_some_iff.1 hrest
      exact h.noEscape ⟨[], more, rfl⟩
    · exact ⟨fun inner htag hpart => h.noTag inner htag (List.infix_cons hpart),
        fun hpart => h.noEscape (List.infix_cons hpart)⟩
  · rintro ⟨htag, hescape, hrest⟩
    refine ⟨fun inner hinner hpart => ?_, fun hpart => ?_⟩
    · rcases List.infix_cons_iff.1 hpart with ⟨after, hs⟩ | hpart
      · have hfound := escapedTag?_tag hinner 0 after
        have hfront : '[' :: (inner ++ ']' :: after) = c :: rest := by rw [← hs]; simp
        rw [List.replicate_zero, List.nil_append, hfront, htag] at hfound
        cases hfound
      · exact hrest.noTag inner hinner hpart
    · rcases List.infix_cons_iff.1 hpart with ⟨after, hs⟩ | hpart
      · obtain ⟨rfl, rfl⟩ := List.cons.inj hs
        exact hescape ⟨rfl, rfl⟩
      · exact hrest.noEscape hpart

theorem isPlain_cons_of_ne (hbracket : c ≠ '[') (hbackslash : c ≠ '\\') :
    IsPlain (c :: rest) ↔ IsPlain rest := by
  rw [isPlain_cons_iff]
  exact ⟨fun h => h.2.2, fun h =>
    ⟨escapedTag?_of_ne hbracket hbackslash rest, fun hescape => hbackslash hescape.1, h⟩⟩

/-- Markup ends with a bracket, so that other characters after a text make none. -/
theorem isPlain_concat_of_ne (hopening : c ≠ '[') (hclosing : c ≠ ']') :
    IsPlain (s ++ [c]) ↔ IsPlain s := by
  have hpart : ∀ t d, d ≠ c → (t ++ [d] <:+: s ++ [c] ↔ t ++ [d] <:+: s) := by
    intro t d hd
    rw [List.infix_concat_iff]
    refine or_iff_right fun ⟨before, hs⟩ => hd ?_
    rw [← List.append_assoc] at hs
    exact (List.append_inj_right' hs rfl |> List.cons.inj).1
  constructor
  · exact fun h => ⟨fun inner htag hin => h.noTag inner htag ((hpart _ _ hclosing.symm).2 hin),
      fun hin => h.noEscape ((hpart ['\\'] _ hopening.symm).2 hin)⟩
  · exact fun h => ⟨fun inner htag hin => h.noTag inner htag ((hpart _ _ hclosing.symm).1 hin),
      fun hin => h.noEscape ((hpart ['\\'] _ hopening.symm).1 hin)⟩

theorem isPlain_nil : IsPlain [] := by
  refine ⟨fun inner _ hpart => ?_, fun hpart => ?_⟩ <;>
    exact List.cons_ne_nil _ _ (List.infix_nil.1 hpart)

/-- A text without opening brackets is plain. -/
theorem isPlain_of_notMem (h : '[' ∉ s) : IsPlain s :=
  ⟨fun _ _ hpart => h (hpart.subset List.mem_cons_self), fun hpart => h (hpart.subset (by decide))⟩

instance decidableIsPlain : (s : List Char) → Decidable (IsPlain s)
  | [] => isTrue isPlain_nil
  | _ :: rest =>
    have := decidableIsPlain rest
    decidable_of_iff _ isPlain_cons_iff.symm

/-- A plain text is one piece. -/
theorem pieces_of_isPlain (h : IsPlain s) (hs : s ≠ []) : pieces s = [.plain s] := by
  induction s with
  | nil => exact absurd rfl hs
  | cons c rest ih =>
    obtain ⟨htag, -, hrest⟩ := isPlain_cons_iff.1 h
    rw [pieces_cons htag]
    cases rest with
    | nil => rfl
    | cons d rest => rw [ih hrest (List.cons_ne_nil _ _), withChar]

theorem unescaped_of_isPlain (h : IsPlain s) : unescaped s = s := by
  induction s with
  | nil => rfl
  | cons c rest ih =>
    obtain ⟨-, hescape, hrest⟩ := isPlain_cons_iff.1 h
    rw [unescaped_cons, if_neg hescape, ih hrest]

/-- The number of the brackets and backslashes in a text that may belong to markup. -/
def marks (s : List Char) : Nat := s.countP fun c => c = '[' || c = '\\'

theorem marks_le_of_sublist {t : List Char} (h : s.Sublist t) : marks s ≤ marks t := h.countP_le

theorem marks_append (s t : List Char) : marks (s ++ t) = marks s + marks t := List.countP_append

theorem marks_backslashes (n : Nat) : marks (List.replicate n '\\') = n := by
  rw [marks, List.countP_replicate]
  rfl

/-- A text that is not plain loses one of its brackets and backslashes. -/
theorem isPlain_or_marks_visible_lt (s : List Char) : IsPlain s ∨ marks (visible s) < marks s := by
  induction s using induction_on_tags with
  | nil => exact .inl isPlain_nil
  | char c rest h ih =>
    rw [visible_cons h]
    split
    · rename_i hescape
      obtain ⟨rfl, -⟩ := hescape
      have hrest := marks_le_of_sublist (visible_sublist rest)
      have hcons : marks ('\\' :: rest) = 1 + marks rest := marks_append ['\\'] rest
      exact .inr (by omega)
    · rename_i hescape
      rcases ih with hplain | hlost
      · exact .inl (isPlain_cons_iff.2 ⟨h, hescape, hplain⟩)
      · have hc := marks_le_of_sublist
          (List.filter_sublist (l := [c]) (p := (!Progress.isStripped ·)))
        have hcons : marks (c :: rest) = marks [c] + marks rest := marks_append [c] rest
        rw [marks_append]
        exact .inr (by omega)
  | tag n inner after htag ih =>
    right
    have hbackslashes := marks_le_of_sublist (shownOf_plain_sublist (List.replicate (n / 2) '\\'))
    have hafter := marks_le_of_sublist (visible_sublist after)
    have hsplit : '[' :: (inner ++ ']' :: after) = ('[' :: inner ++ [']']) ++ after := by simp
    have hopening : marks ('[' :: inner ++ [']']) = 1 + marks (inner ++ [']']) :=
      marks_append ['['] _
    rw [visible_tag htag, hsplit, marks_append, marks_append, marks_append, marks_append,
      marks_backslashes]
    rw [marks_backslashes] at hbackslashes
    split
    · -- an odd number of backslashes: the tag shows, and half of them are lost
      have hinner := marks_le_of_sublist (shownOf_plain_sublist ('[' :: inner ++ [']']))
      omega
    · -- an even number, or none: the tag is lost
      have hinner : marks (shownOf (.tag inner)) = 0 := rfl
      omega

/-! ## Reading a text -/

theorem chars_of_closed {p q : Progress} {tag : OpenTag} {opened : List OpenTag}
    (h : p.closed tag opened = .ok q) : q.shown.chars = p.shown.chars := by
  obtain ⟨_, -, hq⟩ := Sequence.bind_eq_ok_iff.1 h
  exact Except.ok.inj hq ▸ rfl

/-- A tag shows nothing. -/
theorem chars_of_addTag {p q : Progress} (h : p.addTag inner = .ok q) :
    q.shown.chars = p.shown.chars := by
  simp only [Progress.addTag] at h
  split at h
  · split at h
    · split at h
      · cases h
      · exact chars_of_closed h
    · obtain ⟨_, -, h⟩ := Sequence.bind_eq_ok_iff.1 h
      split at h
      · cases h
      · exact chars_of_closed h
  · obtain ⟨_, -, hq⟩ := Sequence.bind_eq_ok_iff.1 h
    exact Except.ok.inj hq ▸ rfl

theorem chars_of_foldlM {p q : Progress} {ps : List Piece} (h : ps.foldlM Progress.add p = .ok q) :
    q.shown.chars = p.shown.chars ++ ps.flatMap shownOf := by
  induction ps generalizing p with
  | nil =>
    obtain rfl : p = q := Except.ok.inj h
    exact (List.append_nil _).symm
  | cons piece ps ih =>
    rw [List.foldlM_cons] at h
    obtain ⟨r, hr, hq⟩ := Sequence.bind_eq_ok_iff.1 h
    have hpiece : r.shown.chars = p.shown.chars ++ shownOf piece := by
      cases piece with
      | plain s => exact Except.ok.inj hr ▸ rfl
      | tag inner => rw [chars_of_addTag hr, shownOf, List.append_nil]
    rw [ih hq, hpiece, List.flatMap_cons, List.append_assoc]

/-- A text that can be read shows what is visible of it. -/
theorem chars_of_render {s : String} {t : Styled} (h : render s = .ok t) :
    t.chars = visible s.toList := by
  rw [render] at h
  cases hfold : (pieces s.toList).foldlM Progress.add {} with
  | error fault =>
    rw [hfold] at h
    cases h
  | ok q =>
    rw [hfold] at h
    obtain rfl : q.finish = t := Except.ok.inj h
    exact (chars_of_foldlM hfold).trans (List.nil_append _)

/-- No printable character is one that a console text is cleared of. -/
theorem shownOf_plain_of_isPlain (h : IsPlain s) (hs : IsPrintable s) : shownOf (.plain s) = s := by
  rw [shownOf, unescaped_of_isPlain h, List.filter_eq_self]
  intro c hc
  have hcontrols : ∀ n ∈ [0x07, 0x08, 0x0B, 0x0C, 0x0D], n < 0x20 := by decide
  rw [Bool.not_eq_true', Progress.isStripped, decide_eq_false_iff_not]
  exact fun hcode => Nat.not_lt.2 (Text.le_toNat_of_isPrintable (hs c hc)) (hcontrols _ hcode)

/-- What is visible of a plain text is all of it. -/
theorem visible_of_isPlain (h : IsPlain s) (hs : IsPrintable s) : visible s = s := by
  cases s with
  | nil => rfl
  | cons c rest =>
    rw [visible, pieces_of_isPlain h (List.cons_ne_nil _ _), List.flatMap_singleton]
    exact shownOf_plain_of_isPlain h hs

end Reconcile.Console.Markup
