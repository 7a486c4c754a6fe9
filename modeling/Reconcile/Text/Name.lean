import Reconcile.Document.Numeral
import Reconcile.Text.NameTable
import Reconcile.Text.Ranges

/-!
# Characters by name

Which names a character can be called by: those of the table, in letters of either
case; for a syllable of Hangul the words of its two or three letters; for a unified
ideograph its code point. Main statement: a search of the table finds just the names
that it spells.
-/

namespace Reconcile.Text

/-! ## The table -/

/-- Whether `c` is a letter of the names in the table, and no mark between two. -/
def isNameLetter (c : Char) : Bool := c.isUpper || c.isDigit || c = ' ' || c = '-'

/-- How many letters the name after the mark `c` takes over from the name before it. -/
def sharedLetters (c : Char) : Nat := nameMarks.idxOf c

/-- The names that a table spells, where `name` is the front of the first. -/
def namesFrom (name : List Char) : List Char → List (List Char)
  | [] => [name]
  | c :: rest =>
    if isNameLetter c then namesFrom (name ++ [c]) rest
    else name :: namesFrom (name.take (sharedLetters c)) rest

/-- How far a search of the table has come. -/
structure NameSearch where
  /-- The letters of the name being read, from the last to the first. -/
  letters : List Char
  length : Nat
  /-- Whether one of the names before is the wanted one. -/
  isFound : Bool

/-- Whether the name being read, or one before it, is the wanted one. The wanted name
is given from the last letter to the first. -/
def NameSearch.hasMet (wanted : List Char) (s : NameSearch) : Bool :=
  s.isFound || s.letters == wanted

/-- Reads the next character of the table. -/
def NameSearch.next (wanted : List Char) (s : NameSearch) (c : Char) : NameSearch :=
  if isNameLetter c then ⟨c :: s.letters, s.length + 1, s.isFound⟩
  else
    let dropped := s.length - sharedLetters c
    ⟨s.letters.drop dropped, s.length - dropped, s.hasMet wanted⟩

/-- Whether a table spells a name. -/
def spells (table name : List Char) : Bool :=
  (table.foldl (NameSearch.next name.reverse) ⟨[], 0, false⟩).hasMet name.reverse

theorem hasMet_foldl_next (name table front : List Char) (isFound : Bool) :
    (table.foldl (NameSearch.next name.reverse) ⟨front.reverse, front.length, isFound⟩).hasMet
        name.reverse = (isFound || (namesFrom front table).contains name) := by
  have heq (front : List Char) : (front.reverse == name.reverse) = decide (name = front) := by
    rw [Bool.eq_iff_iff, beq_iff_eq, List.reverse_inj, decide_eq_true_iff]
    exact eq_comm
  induction table generalizing front isFound with
  | nil => simp [namesFrom, NameSearch.hasMet, heq]
  | cons c rest ih =>
    by_cases h : isNameLetter c = true
    · simpa [namesFrom, NameSearch.next, h] using ih (front ++ [c]) isFound
    · have hlen : front.length - (front.length - sharedLetters c) =
          min (sharedLetters c) front.length := by omega
      have := ih (front.take (sharedLetters c)) (isFound || decide (name = front))
      simp only [List.reverse_take, List.length_take] at this
      simpa [namesFrom, NameSearch.next, NameSearch.hasMet, h, hlen, heq, Bool.or_assoc] using this

theorem spells_iff {table name : List Char} :
    spells table name = true ↔ name ∈ namesFrom [] table := by
  have h := hasMet_foldl_next name table [] false
  simp only [Bool.false_or, List.reverse_nil, List.length_nil] at h
  simp [spells, h]

/-! ## Names that follow rules -/

/-- The words for the letters that a syllable of Hangul starts with. -/
def leadingWords : List String :=
  ["G", "GG", "N", "D", "DD", "R", "M", "B", "BB", "S", "SS", "", "J", "JJ", "C", "K", "T", "P",
   "H"]

/-- The words for the vowels of Hangul. -/
def vowelWords : List String :=
  ["A", "AE", "YA", "YAE", "EO", "E", "YEO", "YE", "O", "WA", "WAE", "OE", "YO", "U", "WEO", "WE",
   "WI", "YU", "EU", "YI", "I"]

/-- The words for the letters that a syllable of Hangul may end with. -/
def trailingWords : List String :=
  ["", "G", "GG", "GS", "N", "NJ", "NH", "D", "L", "LG", "LM", "LB", "LS", "LT", "LP", "LH", "M",
   "B", "BS", "S", "SS", "NG", "J", "C", "K", "T", "P", "H"]

/-- What follows the longest of the words that a text starts with. -/
def afterWord? (words : List String) (s : List Char) : Option (List Char) :=
  ((words.filter (·.toList.isPrefixOf s)).map (·.length)).max?.map s.drop

/-- Whether words spell a syllable of Hangul. -/
def isSyllableName (s : List Char) : Bool :=
  ((afterWord? leadingWords s).bind (afterWord? vowelWords)).bind (afterWord? trailingWords) =
    some []

/-- The unified ideographs, as closed ranges. -/
def ideographRanges : List (Nat × Nat) :=
  [(0x3400, 0x4DBF), (0x4E00, 0x9FFF), (0x20000, 0x2A6DF), (0x2A700, 0x2B738), (0x2B740, 0x2B81D),
   (0x2B820, 0x2CEA1), (0x2CEB0, 0x2EBE0), (0x30000, 0x3134A)]

/-- Whether digits, four or five with capital letters among them, are the code point of
a unified ideograph. -/
def isIdeographName (digits : List Char) : Bool :=
  (digits.length = 4 || digits.length = 5) && !digits.any Char.isLower &&
    (ofHexDigits? digits).any fun n => ideographRanges.any fun r => r.1 ≤ n && n ≤ r.2

/-- What the name of a syllable of Hangul starts with. -/
def syllableFront : List Char := "HANGUL SYLLABLE ".toList

/-- What the name of a unified ideograph starts with. -/
def ideographFront : List Char := "CJK UNIFIED IDEOGRAPH-".toList

/-- Whether a character has the name `name`. Only the names of the table may be written
in small letters. -/
def isCharName (name : List Char) : Bool :=
  if syllableFront.isPrefixOf name then isSyllableName (name.drop syllableFront.length)
  else if ideographFront.isPrefixOf name then isIdeographName (name.drop ideographFront.length)
  else spells (nameTable.flatMap String.toList) (name.map Char.toUpper)

end Reconcile.Text
