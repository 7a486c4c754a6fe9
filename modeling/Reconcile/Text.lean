/-!
# Texts

A text is a row of code points. Each of them is a character or one half of a surrogate
pair, which stands by itself: an escape in a document may stand for a half, and no file
holds one as it is. The two halves of a pair next to each other are one character.
Main statement: a text put together from code points has no pair in halves (`isJoined_join`).
-/

namespace Reconcile

/-- One half of a surrogate pair. -/
structure Half where
  code : Nat
  le_code : 0xD800 ≤ code
  code_lt : code < 0xE000
deriving DecidableEq

/-- Whether a half is the first of its pair. -/
def Half.isFirst (h : Half) : Bool := h.code < 0xDC00

/-- The character that two halves stand for. -/
def Half.paired (first second : Half) : Char :=
  Char.ofNat (0x10000 + (first.code - 0xD800) * 0x400 + (second.code - 0xDC00))

/-- A character, or one half of a surrogate pair. -/
inductive Point
  | char (c : Char)
  | half (h : Half)
deriving DecidableEq

namespace Point

/-- The number of a code point. -/
def code : Point → Nat
  | char c => c.toNat
  | half h => h.code

/-- The code point of a number. -/
def ofCode (n : Nat) : Point :=
  if h : 0xD800 ≤ n ∧ n < 0xE000 then half ⟨n, h.1, h.2⟩ else char (Char.ofNat n)

/-- The character that a code point is, unless it is a half. -/
def char? : Point → Option Char
  | char c => some c
  | half _ => none

/-- Whether two code points in a row are a pair in halves. -/
def isPair : Point → Point → Bool
  | half first, half second => first.isFirst && !second.isFirst
  | _, _ => false

/-- The code points with each pair in halves made one character. -/
def join : List Point → List Point
  | half a :: half b :: rest =>
    if a.isFirst && !b.isFirst then char (a.paired b) :: join rest
    else half a :: join (half b :: rest)
  | p :: rest => p :: join rest
  | [] => []

/-- Whether there is no pair in halves. -/
def isJoined : List Point → Bool
  | p :: q :: rest => !isPair p q && isJoined (q :: rest)
  | _ => true

variable {p q : Point} {ps : List Point}

theorem isPair_char (p : Point) (c : Char) : isPair p (char c) = false := by
  cases p <;> rfl

theorem isJoined_cons_iff :
    isJoined (p :: ps) = true ↔ (∀ q ∈ ps.head?, isPair p q = false) ∧ isJoined ps = true := by
  cases ps with
  | nil => simp [isJoined]
  | cons q rest => simp [isJoined]

theorem isPair_of_mem_head?_map_char {s : List Char} (h : q ∈ (s.map char).head?) :
    isPair p q = false := by
  cases s with
  | nil => cases h
  | cons c s =>
    obtain rfl : char c = q := Option.some.inj h
    exact isPair_char p c

theorem isJoined_map_char (s : List Char) : isJoined (s.map char) = true := by
  induction s with
  | nil => rfl
  | cons c s ih => exact isJoined_cons_iff.2 ⟨fun _ => isPair_of_mem_head?_map_char, ih⟩

theorem isJoined_append_map_char (h : isJoined ps = true) (s : List Char) :
    isJoined (ps ++ s.map char) = true := by
  induction ps with
  | nil => exact isJoined_map_char s
  | cons p ps ih =>
    obtain ⟨hhead, hps⟩ := isJoined_cons_iff.1 h
    refine isJoined_cons_iff.2 ⟨?_, ih hps⟩
    cases ps with
    | nil => exact fun _ => isPair_of_mem_head?_map_char
    | cons q ps => exact hhead

/-- What is joined begins as before, or with the character of a pair. -/
theorem mem_head?_join (h : q ∈ (join ps).head?) : q ∈ ps.head? ∨ ∃ c, q = char c := by
  rw [join.eq_def] at h
  split at h
  · split at h
    · exact .inr ⟨_, (Option.some.inj h).symm⟩
    · exact .inl h
  · exact .inl h
  · cases h

/-- A code point that is no pair with the next one stays apart from what follows. -/
theorem join_cons (h : ∀ q ∈ ps.head?, isPair p q = false) : join (p :: ps) = p :: join ps := by
  rw [join.eq_def]
  split
  · rename_i a b rest heq
    obtain ⟨rfl, rfl⟩ := List.cons.inj heq
    exact if_neg (Bool.eq_false_iff.1 (h _ rfl))
  · rename_i heq
    obtain ⟨rfl, rfl⟩ := List.cons.inj heq
    rfl
  · rename_i heq
    cases heq

theorem isJoined_cons_join (hps : isJoined (join ps) = true)
    (hhead : ∀ q ∈ ps.head?, isPair p q = false) : isJoined (p :: join ps) = true := by
  refine isJoined_cons_iff.2 ⟨fun q hq => ?_, hps⟩
  rcases mem_head?_join hq with hq | ⟨c, rfl⟩
  · exact hhead q hq
  · exact isPair_char p c

/-- **What is joined has no pair in halves.** -/
theorem isJoined_join (ps : List Point) : isJoined (join ps) = true := by
  induction ps using join.induct with
  | case1 a b rest hpair ih =>
    rw [join, if_pos hpair]
    exact isJoined_cons_join ih fun q _ => by cases q <;> rfl
  | case2 a b rest hpair ih =>
    rw [join, if_neg hpair]
    refine isJoined_cons_join ih fun q hq => ?_
    obtain rfl : half b = q := Option.some.inj hq
    exact Bool.eq_false_iff.2 hpair
  | case3 p rest hother ih =>
    have hhead : ∀ q ∈ rest.head?, isPair p q = false := by
      intro q hq
      cases p with
      | char c => cases q <;> rfl
      | half a =>
        cases q with
        | char c => rfl
        | half b =>
          obtain ⟨more, rfl⟩ := List.head?_eq_some_iff.1 hq
          exact absurd rfl (hother a b more rfl)
    rw [join_cons hhead]
    exact isJoined_cons_join ih hhead
  | case4 => rfl

/-- Where there is no pair in halves, nothing is joined. -/
theorem join_eq_self (h : isJoined ps = true) : join ps = ps := by
  induction ps with
  | nil => rfl
  | cons p ps ih =>
    obtain ⟨hhead, hps⟩ := isJoined_cons_iff.1 h
    rw [join_cons hhead, ih hps]

end Point

/-- A text: code points without a pair in halves. -/
structure Text where
  points : List Point
  isJoined : Point.isJoined points = true
deriving DecidableEq

namespace Text

/-- The text of some code points. -/
def ofPoints (ps : List Point) : Text := ⟨Point.join ps, Point.isJoined_join ps⟩

/-- The text of a string. -/
def ofString (s : String) : Text := ⟨s.toList.map .char, Point.isJoined_map_char s.toList⟩

instance : Coe String Text := ⟨ofString⟩

instance : Inhabited Text := ⟨"" ⟩

/-- The characters of a text, without its halves. -/
def string (t : Text) : String := String.ofList (t.points.filterMap Point.char?)

/-- The numbers of the code points of a text. -/
def codes (t : Text) : List Nat := t.points.map Point.code

instance : LT Text := ⟨fun a b => a.codes < b.codes⟩

instance : LE Text := ⟨fun a b => ¬b < a⟩

instance (a b : Text) : Decidable (a < b) := inferInstanceAs (Decidable (a.codes < b.codes))

instance (a b : Text) : Decidable (a ≤ b) := inferInstanceAs (Decidable ¬b < a)

instance : Append Text := ⟨fun a b => ofPoints (a.points ++ b.points)⟩

/-- Texts one after the other, with `separator` between them. -/
def intercalate (separator : Text) (ts : List Text) : Text :=
  ofPoints (separator.points.intercalate (ts.map points))

theorem points_inj {a b : Text} : a.points = b.points ↔ a = b := by
  refine ⟨fun h => ?_, congrArg points⟩
  cases a
  cases b
  cases h
  rfl

@[simp] theorem points_ofString (s : String) : (s : Text).points = s.toList.map .char := rfl

@[simp] theorem string_ofString (s : String) : (s : Text).string = s := by
  simp [string, List.filterMap_map, Function.comp_def, Point.char?]

@[simp] theorem ofString_inj {s t : String} : (s : Text) = t ↔ s = t := by
  refine ⟨fun h => ?_, congrArg ofString⟩
  rw [← string_ofString s, h, string_ofString]

theorem points_append_ofString (t : Text) (s : String) :
    (t ++ (s : Text)).points = t.points ++ s.toList.map .char :=
  Point.join_eq_self (Point.isJoined_append_map_char t.isJoined s.toList)

theorem string_append_ofString (t : Text) (s : String) :
    (t ++ (s : Text)).string = t.string ++ s := by
  rw [string, points_append_ofString, List.filterMap_append, String.ofList_append]
  exact congrArg (t.string ++ ·) (string_ofString s)

theorem ofString_append (s t : String) : ((s ++ t : String) : Text) = (s : Text) ++ (t : Text) := by
  rw [← points_inj, points_append_ofString, points_ofString, points_ofString,
    String.toList_append, List.map_append]

theorem append_ofString_append (t : Text) (a b : String) :
    t ++ ((a ++ b : String) : Text) = t ++ (a : Text) ++ (b : Text) := by
  rw [← points_inj, points_append_ofString, points_append_ofString, points_append_ofString,
    String.toList_append, List.map_append, List.append_assoc]

end Text

end Reconcile
