import Reconcile.Proofs.Console.Layout

/-!
# What is relied on of a console

A console reads what it prints as markup. Of its texts no more is known than this: what is
shown of a text is what is visible of it (`Markup.visible`), a table is laid out as `framed`
says, and a text with one coloured part, or none, has no fault (`ReadsMarkup`). This holds of
the texts that a console shows character by character (`Admits`): names of pictures, and
characters that take two columns, are left out.
-/

namespace Reconcile.Console

open Markup (IsPlain IsTag visible)
open Text (IsPrintable isPrintable)

/-- A text that is shown character by character, but for its markup: its characters are
printable and narrow, and no name of a picture stands in it between colons. -/
structure Admits (console : Console) (s : List Char) : Prop where
  printable : IsPrintable s
  narrow : ∀ c ∈ s, console.isNarrow c = true
  noPicture : ∀ name, ' ' ∉ name → (':' :: name ++ [':']) <:+: s →
    console.isPictureName name = false

/-- A text without halves of surrogate pairs that is shown character by character. -/
structure AdmitsText (console : Console) (t : Text) : Prop where
  ofString_string : (t.string : Text) = t
  admits : console.Admits t.string.toList

namespace Markup

/-- A text with a coloured part at its front. -/
def coloredText (color inside after : List Char) : List Char :=
  '[' :: (color ++ ']' :: (inside ++ '[' :: ('/' :: color ++ ']' :: after)))

/-- The colours that parts of a text have. -/
def textColors : List String := ["green", "blue", "yellow", "red"]

/-- A text whose only tags, if it has any, are those of a coloured part at its front. -/
inductive IsColored : List Char → Prop
  | plain {s : List Char} (h : IsPlain s) : IsColored s
  | colored {color : String} {inside after : List Char} (hcolor : color ∈ textColors)
    (hbracket : '[' ∉ inside) (hbackslash : '\\' ∉ inside) (hafter : IsPlain after) :
    IsColored (coloredText color.toList inside after)

/-- What shows of a text, as a text. -/
def shownText (s : String) : String := String.ofList (visible s.toList)

end Markup

/-- What is relied on of a console, for texts that are strings. -/
structure ReadsMarkup (console : Console) : Prop where
  narrow_of_ascii : ∀ c, Text.isAsciiPrint c = true → console.isNarrow c = true
  columnsOf_append : ∀ s t, IsPrintable (s ++ t) → (∀ c ∈ s ++ t, console.isNarrow c = true) →
    console.columnsOf (s ++ t) = console.columnsOf s + console.columnsOf t
  /-- There is no tag that could be at fault. -/
  exists_print : ∀ s : String, Markup.IsColored s.toList → ∃ lines, console.print s = .ok lines
  exists_printTable : ∀ columns (rows : List (List String)),
    (∀ row ∈ rows, ∀ cell ∈ row, Markup.IsColored cell.toList) →
    ∃ lines, console.printTable columns (rows.map (·.map .ofString)) = .ok lines
  /-- A text that is printed shows without its markup, on one line if it fits. -/
  eq_of_print : ∀ (s : String) lines, console.Admits s.toList →
    console.columnsOf (visible s.toList) ≤ console.columns → console.print s = .ok lines →
    lines = [String.ofList (trimmed console.columns (visible s.toList))]
  /-- A table that is printed shows its texts without their markup, each row on one line if
  there is room. -/
  eq_of_printTable : ∀ columns (rows : List (List String)) lines, columns ≠ [] →
    (∀ column ∈ columns, console.Admits column.header.toList ∧ IsPlain column.header.toList) →
    (∀ row ∈ rows, row.length = columns.length) →
    (∀ row ∈ rows, ∀ cell ∈ row, console.Admits cell.toList) →
    Table.HasRoom console.columns console.columnsOf columns (rows.map (·.map Markup.shownText)) →
    console.printTable columns (rows.map (·.map .ofString)) = .ok lines →
    lines = Table.framed console.columnsOf columns (rows.map (·.map Markup.shownText))

/-! ## Coloured texts -/

namespace Markup

variable {s inner : List Char}

instance decidableIsTag : (inner : List Char) → Decidable (IsTag inner)
  | [] => isFalse id
  | _ :: rest => inferInstanceAs (Decidable (_ ∧ '[' ∉ rest ∧ ']' ∉ rest))

theorem isTag_of_textColor {color : String} (h : color ∈ textColors) :
    IsTag color.toList ∧ IsTag ('/' :: color.toList) := by
  have hall : ∀ color ∈ textColors, IsTag color.toList ∧ IsTag ('/' :: color.toList) := by decide
  exact hall color h

/-- What shows of a text with a tag after characters of no markup. -/
theorem visible_before_tag (hbracket : '[' ∉ s) (hbackslash : '\\' ∉ s) (htag : IsTag inner)
    (hs : IsPrintable s) (after : List Char) :
    visible (s ++ '[' :: (inner ++ ']' :: after)) = s ++ visible after := by
  have hshown := shownOf_plain_of_isPlain (isPlain_of_notMem hbracket) hs
  have hempty : shownOf (.plain []) = [] := rfl
  have hnone : shownOf (.tag inner) = [] := rfl
  rw [visible, pieces_before_tag hbracket hbackslash htag]
  simp only [List.flatMap_cons, hshown, hempty, hnone, List.nil_append]
  rfl

/-- A coloured part shows without its tags. -/
theorem visible_coloredText {color : String} {inside : List Char} (hcolor : color ∈ textColors)
    (hbracket : '[' ∉ inside) (hbackslash : '\\' ∉ inside) (hinside : IsPrintable inside)
    (after : List Char) :
    visible (coloredText color.toList inside after) = inside ++ visible after := by
  obtain ⟨hopening, hclosing⟩ := isTag_of_textColor hcolor
  have hfront : ∀ after, visible ('[' :: (color.toList ++ ']' :: after)) = visible after :=
    visible_before_tag List.not_mem_nil List.not_mem_nil hopening (List.forall_mem_nil _)
  exact (hfront _).trans (visible_before_tag hbracket hbackslash hclosing hinside after)

end Markup

/-! ## Texts that are shown character by character -/

/-- Whether a character is one of ASCII that has no meaning for a console. -/
def isBare (c : Char) : Bool := Text.isAsciiPrint c && c ≠ '[' && c ≠ '\\' && c ≠ ':'

theorem isBare_iff {c : Char} :
    isBare c = true ↔ Text.isAsciiPrint c = true ∧ c ≠ '[' ∧ c ≠ '\\' ∧ c ≠ ':' := by
  simp only [isBare, Bool.and_eq_true, decide_eq_true_eq, and_assoc]

section

variable {s : List Char} (h : s.all isBare = true)
include h

theorem isBare_of_mem {c : Char} (hc : c ∈ s) :
    Text.isAsciiPrint c = true ∧ c ≠ '[' ∧ c ≠ '\\' ∧ c ≠ ':' :=
  isBare_iff.1 (List.all_eq_true.1 h c hc)

theorem all_isAsciiPrint_of_isBare : s.all Text.isAsciiPrint = true :=
  List.all_eq_true.2 fun _ hc => (isBare_of_mem h hc).1

theorem bracket_notMem_of_isBare : '[' ∉ s := fun hc => (isBare_of_mem h hc).2.1 rfl

theorem backslash_notMem_of_isBare : '\\' ∉ s := fun hc => (isBare_of_mem h hc).2.2.1 rfl

theorem colon_notMem_of_isBare : ':' ∉ s := fun hc => (isBare_of_mem h hc).2.2.2 rfl

theorem isPrintable_of_isBare : IsPrintable s := .of_ascii (all_isAsciiPrint_of_isBare h)

/-- A text without brackets, backslashes and colons shows as it is. -/
theorem visible_of_isBare : visible s = s :=
  Markup.visible_of_isPlain (Markup.isPlain_of_notMem (bracket_notMem_of_isBare h))
    (isPrintable_of_isBare h)

end

variable {console : Console} {s t : List Char}

/-- A word stands on one side of a space. -/
theorem infix_of_notMem {α : Type} {word front back : List α} {space : α} (hword : space ∉ word)
    (h : word <:+: front ++ space :: back) : word <:+: front ∨ word <:+: back := by
  obtain ⟨before, after, heq⟩ := h
  rw [List.append_assoc, List.append_eq_append_iff] at heq
  rcases heq with ⟨mid, rfl, heq⟩ | ⟨mid, rfl, heq⟩
  · rw [List.append_eq_append_iff] at heq
    rcases heq with ⟨rest, rfl, -⟩ | ⟨rest, rfl, heq⟩
    · exact .inl ⟨before, rest, by rw [List.append_assoc]⟩
    · cases rest with
      | nil => exact .inl ⟨before, [], by simp⟩
      | cons c rest =>
        obtain rfl := (List.cons.inj heq).1
        exact absurd (List.mem_append_right _ List.mem_cons_self) hword
  · cases mid with
    | nil =>
      cases word with
      | nil => exact .inl (List.nil_infix)
      | cons c word =>
        obtain rfl := (List.cons.inj heq).1
        exact absurd List.mem_cons_self hword
    | cons c mid =>
      obtain rfl := (List.cons.inj heq).2
      exact .inr ⟨mid, after, List.append_assoc ..⟩

/-- Two texts with a space between them. -/
theorem Admits.append_space (hread : console.ReadsMarkup) (hs : console.Admits s)
    (ht : console.Admits t) : console.Admits (s ++ ' ' :: t) where
  printable := hs.printable.append
    (List.forall_mem_cons.2 ⟨Text.isPrintable_of_isAsciiPrint rfl, ht.printable⟩)
  narrow := List.forall_mem_append.2
    ⟨hs.narrow, List.forall_mem_cons.2 ⟨hread.narrow_of_ascii _ rfl, ht.narrow⟩⟩
  noPicture name hname hinfix := by
    have hword : ' ' ∉ ':' :: name ++ [':'] := by simpa using hname
    rcases infix_of_notMem hword hinfix with hfront | hback
    · exact hs.noPicture name hname hfront
    · exact ht.noPicture name hname hback

/-- A text of ASCII with no more than one colon in it. -/
theorem Admits.of_ascii (hread : console.ReadsMarkup) (hs : s.all Text.isAsciiPrint = true)
    (hcolon : s.count ':' ≤ 1) : console.Admits s where
  printable := .of_ascii hs
  narrow c hc := hread.narrow_of_ascii c (List.all_eq_true.1 hs c hc)
  noPicture name _ hinfix := by
    have hcount := hinfix.sublist.count_le ':'
    rw [List.cons_append, List.count_cons_self, List.count_append] at hcount
    have hlast : List.count ':' [':'] = 1 := rfl
    omega

/-- A character that is no colon ends no name of a picture. -/
theorem Admits.concat (hread : console.ReadsMarkup) (h : console.Admits s) {c : Char}
    (hc : Text.isAsciiPrint c = true) (hcolon : c ≠ ':') : console.Admits (s ++ [c]) where
  printable := h.printable.append
    (List.forall_mem_singleton.2 (Text.isPrintable_of_isAsciiPrint hc))
  narrow := List.forall_mem_append.2
    ⟨h.narrow, List.forall_mem_singleton.2 (hread.narrow_of_ascii c hc)⟩
  noPicture name hname hinfix := by
    refine h.noPicture name hname ((List.infix_concat_iff.1 hinfix).resolve_left ?_)
    rintro ⟨before, hs⟩
    rw [← List.append_assoc] at hs
    exact hcolon (List.cons.inj (List.append_inj_right' hs rfl)).1.symm

/-- A text that loses characters takes no more columns. -/
theorem ReadsMarkup.columnsOf_le_of_sublist (hread : console.ReadsMarkup) (ht : IsPrintable t)
    (hnarrow : ∀ c ∈ t, console.isNarrow c = true) (h : s.Sublist t) :
    console.columnsOf s ≤ console.columnsOf t := by
  have hcons : ∀ {c : Char} {u : List Char}, (c :: u).Sublist t →
      console.columnsOf (c :: u) = console.columnsOf [c] + console.columnsOf u := by
    intro c u hu
    exact hread.columnsOf_append [c] u (ht.sublist hu) fun d hd => hnarrow d (hu.subset hd)
  suffices hall : ∀ u v, u.Sublist v → v.Sublist t → console.columnsOf u ≤ console.columnsOf v from
    hall s t h (List.Sublist.refl t)
  intro u v huv
  induction huv with
  | slnil => exact fun _ => Nat.le_refl _
  | cons c _ ih =>
    intro hv
    have hrest := ih ((List.sublist_cons_self _ _).trans hv)
    rw [hcons hv]
    omega
  | cons_cons c huv ih =>
    intro hv
    have hrest := ih ((List.sublist_cons_self _ _).trans hv)
    rw [hcons hv, hcons ((huv.cons_cons c).trans hv)]
    omega

/-- What is visible of a text takes no more columns than all of it. -/
theorem ReadsMarkup.columnsOf_visible_le (hread : console.ReadsMarkup) (hs : console.Admits s) :
    console.columnsOf (visible s) ≤ console.columnsOf s :=
  hread.columnsOf_le_of_sublist hs.printable hs.narrow (Markup.visible_sublist s)

end Reconcile.Console
