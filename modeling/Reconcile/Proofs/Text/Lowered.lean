import Mathlib
import Reconcile.Text.Case

/-!
# The lower-case form is the same for all spellings

A text in lower case stays as it is when it is put into lower case once more
(`lower_lower`): no small letter is a capital of the table, and none is a sigma whose form
would depend on its neighbours. Nor does the case of ASCII letters matter
(`lower_map_toLower`): it changes neither their own lower-case form nor whether they are
letters to a sigma near them.
-/

namespace Reconcile

namespace Text

/-! ## Small letters -/

namespace CapitalRange

/-- The code point of the small letter of a capital of the range. -/
def small (range : CapitalRange) (capital : Nat) : Nat := (capital + range.shift).toNat

/-- Whether it is plain that no small letter of `range` is a capital of `other`: the two lie
apart, or capitals and small letters alternate. -/
def isApart (range other : CapitalRange) : Bool :=
  Nat.blt (range.small range.last) other.first || Nat.blt other.last (range.small range.first) ||
    ((range.step == 2 || range.first == range.last) && other.step == 2 &&
      (range.small range.first + other.first) % 2 == 1)

end CapitalRange

/-- The dotted capital I as a range of its own. -/
def dottedRange : CapitalRange := ⟨0x130, 0x130, 1, 0⟩

theorem all_isApart : (capitalRanges.all fun range =>
    (dottedRange :: capitalRanges).all range.isApart) = true := by
  decide +kernel

set_option maxRecDepth 2000 in
/-- No small letter is a capital of ASCII. -/
theorem le_first_of_mem : ∀ range ∈ capitalRanges, 0x61 ≤ range.first + range.shift := by
  decide

/-- A small letter is no capital of a range that lies apart. -/
theorem CapitalRange.lower?_eq_none_of_isApart {range other : CapitalRange}
    (h : range.isApart other = true) {c : Char} {n : Nat}
    (habove : 0x61 ≤ range.first + range.shift) (hfirst : range.first ≤ c.toNat)
    (hlast : c.toNat ≤ range.last) (hstep : (c.toNat - range.first) % range.step = 0)
    (hn : (n : Int) = c.toNat + range.shift) (hvalid : n.isValidChar) :
    other.lower? (Char.ofNat n) = none := by
  simp only [isApart, small, Bool.or_eq_true, Bool.and_eq_true, Nat.blt_eq, beq_iff_eq] at h
  rw [lower?, if_neg]
  rw [Char.toNat_ofNat, if_pos hvalid]
  rintro ⟨hother, hother', hstep'⟩
  rcases h with (h | h) | ⟨⟨hrange, htwo⟩, hodd⟩
  · omega
  · omega
  · rw [htwo] at hstep'
    rcases hrange with hrange | hrange
    · rw [hrange] at hstep
      omega
    · omega

/-- A character that is its own lower-case form wherever it stands. -/
def IsLowered (c : Char) : Prop := c ≠ 'Σ' ∧ lowerChar c = [c]

theorem isLowered_of_toLower {c : Char} (hascii : c.toNat < 0x80) (h : c.toLower = c) :
    IsLowered c := by
  refine ⟨?_, by rw [lowerChar, if_pos hascii, h]⟩
  rintro rfl
  exact absurd hascii (by decide)

theorem isLowered_zero : IsLowered (Char.ofNat 0) := isLowered_of_toLower (by decide) (by decide)

/-- What the table does not know as a capital is in lower case. -/
theorem isLowered_of_lower?_eq_none {c : Char} (hascii : 0x80 ≤ c.toNat)
    (h : ∀ range ∈ dottedRange :: capitalRanges, range.lower? c = none) : IsLowered c := by
  obtain ⟨hdotted, hranges⟩ := List.forall_mem_cons.1 h
  have hne : c ≠ 'İ' := by
    rintro rfl
    exact absurd hdotted (by decide)
  refine ⟨?_, ?_⟩
  · rintro rfl
    have hsigma : ∃ range ∈ capitalRanges, range.lower? 'Σ' ≠ none := by decide
    obtain ⟨range, hrange, hsome⟩ := hsigma
    exact hsome (hranges range hrange)
  · rw [lowerChar, if_neg (by omega), if_neg hne, List.findSome?_eq_none_iff.2 hranges]
    rfl

/-- The combining dot of the dotted capital I and both small sigmas are in lower case. -/
theorem isLowered_of_mem {c : Char} (h : c ∈ ['\u0307', 'ς', 'σ']) : IsLowered c := by
  have hall : (['\u0307', 'ς', 'σ'].all fun c => 0x80 ≤ c.toNat &&
      (dottedRange :: capitalRanges).all fun range => (range.lower? c).isNone) = true := by
    decide
  obtain ⟨hcode, hnone⟩ := Bool.and_eq_true_iff.1 (List.all_eq_true.1 hall c h)
  refine isLowered_of_lower?_eq_none (of_decide_eq_true hcode) fun range hrange => ?_
  exact Option.isNone_iff_eq_none.1 (List.all_eq_true.1 hnone range hrange)

/-- The small letter of a capital is in lower case. -/
theorem isLowered_of_lower? {range : CapitalRange} (hrange : range ∈ capitalRanges) {c d : Char}
    (h : range.lower? c = some d) : IsLowered d := by
  rw [CapitalRange.lower?] at h
  split at h
  · rename_i hin
    obtain ⟨hfirst, hlast, hstep⟩ := hin
    obtain rfl := Option.some.inj h
    obtain ⟨n, hn⟩ : ∃ n : Nat, (n : Int) = c.toNat + range.shift := by
      have habove := le_first_of_mem range hrange
      exact ⟨(c.toNat + range.shift).toNat, by omega⟩
    have habove : 0x61 ≤ n := by
      have hle := le_first_of_mem range hrange
      omega
    rw [← hn, Int.toNat_natCast]
    by_cases hvalid : n.isValidChar
    · have hcode : (Char.ofNat n).toNat = n := by rw [Char.toNat_ofNat, if_pos hvalid]
      by_cases hascii : n < 0x80
      · refine isLowered_of_toLower (by rwa [hcode]) ?_
        have hsmall : ∀ n : Fin 128, 0x61 ≤ n.val → (Char.ofNat n).toLower = Char.ofNat n := by
          decide
        exact hsmall ⟨n, hascii⟩ habove
      · refine isLowered_of_lower?_eq_none (by omega) ?_
        intro other hother
        have hapart := List.all_eq_true.1 (List.all_eq_true.1 all_isApart range hrange) other hother
        exact CapitalRange.lower?_eq_none_of_isApart hapart (le_first_of_mem range hrange) hfirst
          hlast hstep hn hvalid
    · rw [Char.ofNat, dif_neg hvalid]
      exact isLowered_zero
  · cases h

/-- **What is in lower case stays so**, for each character of the lower-case form of one. -/
theorem isLowered_of_mem_lowerChar {c d : Char} (h : d ∈ lowerChar c) : IsLowered d := by
  rw [lowerChar] at h
  split at h
  · rename_i hascii
    have hlowered : ∀ n : Fin 128, (Char.ofNat n).toLower.toNat < 0x80 ∧
        (Char.ofNat n).toLower.toLower = (Char.ofNat n).toLower := by decide
    obtain ⟨hlt, hlower⟩ := hlowered ⟨c.toNat, hascii⟩
    rw [Char.ofNat_toNat] at hlt hlower
    rw [List.mem_singleton.1 h]
    exact isLowered_of_toLower hlt hlower
  · rename_i hascii
    split at h
    · -- the dotted capital I has two characters in lower case
      rcases List.mem_cons.1 h with rfl | h
      · exact isLowered_of_toLower (by decide) (by decide)
      · rw [List.mem_singleton.1 h]
        exact isLowered_of_mem (by decide)
    · rename_i hne
      obtain rfl := List.mem_singleton.1 h
      cases hfound : capitalRanges.findSome? (·.lower? c) with
      | none =>
        refine isLowered_of_lower?_eq_none (by rw [Option.getD_none]; omega) ?_
        refine List.forall_mem_cons.2 ⟨?_, List.findSome?_eq_none_iff.1 hfound⟩
        rw [CapitalRange.lower?, if_neg]
        rintro ⟨hfirst, hlast, -⟩
        exact hne (Char.toNat_inj.1 (Nat.le_antisymm hlast hfirst))
      | some d =>
        obtain ⟨range, hrange, hlower⟩ := List.exists_of_findSome?_eq_some hfound
        exact isLowered_of_lower? hrange hlower

/-- A code point that is its own lower-case form wherever it stands. -/
def IsLoweredPoint (p : Point) : Prop := p ≠ .sigma ∧ p.lower = [p]

theorem IsLowered.point {c : Char} (h : IsLowered c) : IsLoweredPoint (.char c) := by
  refine ⟨fun hsigma => h.1 (Point.char.inj hsigma), ?_⟩
  rw [Point.lower, h.2]
  rfl

theorem isLowered_of_mem_lowerFrom {inWord : Bool} {s : List Point} {q : Point}
    (h : q ∈ lowerFrom inWord s) : IsLoweredPoint q := by
  induction s generalizing inWord with
  | nil => cases h
  | cons p s ih =>
    rw [lowerFrom, List.mem_append] at h
    rcases h with hp | hs
    · split at hp
      · split at hp <;> rw [List.mem_singleton.1 hp]
        · exact (isLowered_of_mem (by decide)).point
        · exact (isLowered_of_mem (by decide)).point
      · cases p with
        | char c =>
          obtain ⟨d, hd, rfl⟩ := List.mem_map.1 hp
          exact (isLowered_of_mem_lowerChar hd).point
        | half half =>
          rw [List.mem_singleton.1 hp]
          exact ⟨Point.noConfusion, rfl⟩
    · exact ih hs

theorem lowerFrom_eq_self {s : List Point} (h : ∀ p ∈ s, IsLoweredPoint p) (inWord : Bool) :
    lowerFrom inWord s = s := by
  induction s generalizing inWord with
  | nil => rfl
  | cons p s ih =>
    obtain ⟨hp, hs⟩ := List.forall_mem_cons.1 h
    rw [lowerFrom, if_neg hp.1, hp.2, ih hs, List.singleton_append]

/-- **The lower-case form is its own lower-case form**, whatever stands in it. -/
theorem lower_lower (s : List Point) : lower (lower s) = lower s :=
  lowerFrom_eq_self (fun _ => isLowered_of_mem_lowerFrom) false

/-! ## Halves stay apart -/

theorem isJoined_char_cons (c : Char) (ps : List Point) :
    Point.isJoined (.char c :: ps) = Point.isJoined ps := by
  cases ps <;> rfl

theorem isJoined_chars_append (s : List Char) (ps : List Point) :
    Point.isJoined (s.map .char ++ ps) = Point.isJoined ps := by
  induction s with
  | nil => rfl
  | cons c s ih => rw [List.map_cons, List.cons_append, isJoined_char_cons, ih]

/-- A character gives characters in lower case, and a half itself. -/
theorem lowerFrom_cons (inWord : Bool) (p : Point) (s : List Point) :
    ∃ front inWord', lowerFrom inWord (p :: s) = front ++ lowerFrom inWord' s ∧
      ((∃ c, ∃ cs : List Char, front = .char c :: cs.map .char) ∨
        ∃ h, p = .half h ∧ front = [.half h]) := by
  refine ⟨_, _, rfl, ?_⟩
  split
  · exact .inl ⟨if inWord && !startsCased s then 'ς' else 'σ', [], by split <;> rfl⟩
  · cases p with
    | char c =>
      have hne : lowerChar c ≠ [] := by
        rw [lowerChar]
        split
        · exact List.cons_ne_nil _ _
        · split <;> exact List.cons_ne_nil _ _
      obtain ⟨d, ds, hd⟩ := List.exists_cons_of_ne_nil hne
      exact .inl ⟨d, ds, by rw [Point.lower, hd, List.map_cons]⟩
    | half h => exact .inr ⟨h, rfl, rfl⟩

/-- **What is put in lower case has no pair in halves** if there was none. -/
theorem isJoined_lowerFrom {s : List Point} (h : Point.isJoined s = true) (inWord : Bool) :
    Point.isJoined (lowerFrom inWord s) = true := by
  induction s generalizing inWord with
  | nil => rfl
  | cons p s ih =>
    obtain ⟨hhead, hs⟩ := Point.isJoined_cons_iff.1 h
    obtain ⟨front, inWord', hfront, hchars⟩ := lowerFrom_cons inWord p s
    rw [hfront]
    rcases hchars with ⟨c, cs, rfl⟩ | ⟨half, rfl, rfl⟩
    · rw [List.cons_append, isJoined_char_cons, isJoined_chars_append, ih hs]
    · -- after a half comes what came after it, or a character
      cases s with
      | nil => rfl
      | cons q s =>
        obtain ⟨next, inWord'', hnext, hkind⟩ := lowerFrom_cons inWord' q s
        refine Point.isJoined_cons_iff.2 ⟨?_, ih hs inWord'⟩
        rw [hnext]
        rcases hkind with ⟨c, cs, rfl⟩ | ⟨half', rfl, rfl⟩
        · rintro r ⟨⟩
          rfl
        · exact hhead

/-- The text in lower case. -/
def lowered (t : Text) : Text := ⟨lower t.points, isJoined_lowerFrom t.isJoined false⟩

/-! ## The case of ASCII letters -/

/-- What is said of ASCII characters and does not depend on their case is said of all
characters whatever the case of the letters of ASCII. -/
theorem apply_toLower {α : Type} {f : Char → α}
    (h : ∀ n : Fin 128, f (Char.ofNat n).toLower = f (Char.ofNat n)) (c : Char) :
    f c.toLower = f c := by
  by_cases hascii : c.toNat < 0x80
  · have hc := h ⟨c.toNat, hascii⟩
    rwa [Char.ofNat_toNat] at hc
  · rw [Char.toLower_eq_of_not_isUpper]
    intro hupper
    have hcode : c.toNat ≤ 0x5A := (of_decide_eq_true hupper).2
    omega

theorem lowerChar_toLower (c : Char) : lowerChar c.toLower = lowerChar c :=
  apply_toLower (by decide) c

theorem isCased_toLower (c : Char) : isCased c.toLower = isCased c := apply_toLower (by decide) c

theorem isCaseIgnorable_toLower (c : Char) : isCaseIgnorable c.toLower = isCaseIgnorable c :=
  apply_toLower (by decide) c

theorem toLower_eq_sigma_iff (c : Char) : c.toLower = 'Σ' ↔ c = 'Σ' := by
  have h := apply_toLower (f := fun c => decide (c = 'Σ')) (by decide) c
  simpa using h

end Text

namespace Point

/-- A code point with the case of an ASCII letter taken away. -/
def toLower : Point → Point
  | char c => char c.toLower
  | half h => half h

theorem lower_toLower (p : Point) : p.toLower.lower = p.lower := by
  cases p with
  | char c => exact congrArg (List.map char) (Text.lowerChar_toLower c)
  | half h => rfl

theorem isCased_toLower (p : Point) : p.toLower.isCased = p.isCased := by
  cases p with
  | char c => exact Text.isCased_toLower c
  | half h => rfl

theorem isCaseIgnorable_toLower (p : Point) : p.toLower.isCaseIgnorable = p.isCaseIgnorable := by
  cases p with
  | char c => exact Text.isCaseIgnorable_toLower c
  | half h => rfl

theorem toLower_eq_sigma_iff (p : Point) : p.toLower = sigma ↔ p = sigma := by
  cases p with
  | char c => simpa [toLower, sigma] using Text.toLower_eq_sigma_iff c
  | half h => exact iff_of_false Point.noConfusion Point.noConfusion

end Point

namespace Text

theorem startsCased_map_toLower (s : List Point) :
    startsCased (s.map Point.toLower) = startsCased s := by
  induction s with
  | nil => rfl
  | cons p s ih =>
    rw [startsCased, startsCased] at ih ⊢
    rw [List.map_cons, List.dropWhile_cons, List.dropWhile_cons, Point.isCaseIgnorable_toLower]
    split
    · exact ih
    · rw [List.head?_cons, List.head?_cons, Option.any_some, Option.any_some,
        Point.isCased_toLower]

theorem lowerFrom_map_toLower (inWord : Bool) (s : List Point) :
    lowerFrom inWord (s.map Point.toLower) = lowerFrom inWord s := by
  induction s generalizing inWord with
  | nil => rfl
  | cons p s ih =>
    simp only [List.map_cons, lowerFrom, ih, startsCased_map_toLower, Point.lower_toLower,
      Point.isCased_toLower, Point.isCaseIgnorable_toLower, Point.toLower_eq_sigma_iff]

/-- **The case of ASCII letters does not matter** for the lower-case form of a text, not
even for its sigmas. -/
theorem lower_map_toLower (s : List Point) : lower (s.map Point.toLower) = lower s :=
  lowerFrom_map_toLower false s

end Text

end Reconcile
