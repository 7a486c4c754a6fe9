/-! # Numerals: digits, what they stand for, and how many a document may hold -/

namespace Reconcile

/-- The most decimal digits that a whole number in a document may have. -/
def maxIntegerDigits : Nat := 4300

/-- The wording for a whole number of `digits` digits that is too long to read. -/
def longIntegerMessage (digits : Nat) : String :=
  s!"Exceeds the limit ({maxIntegerDigits} digits) for integer string conversion: " ++
    s!"value has {digits} digits; use sys.set_int_max_str_digits() to increase the limit"

/-- The wording for a whole number that is too long to write. -/
def unwritableIntegerMessage : String :=
  s!"Exceeds the limit ({maxIntegerDigits} digits) for integer string conversion; " ++
    "use sys.set_int_max_str_digits() to increase the limit"

/-- The number that decimal digits stand for. -/
def ofDigits (ds : List Char) : Nat := ds.foldl (fun n c => 10 * n + (c.toNat - '0'.toNat)) 0

/-- The value of a hexadecimal digit. -/
def hexValue? (c : Char) : Option Nat :=
  if '0' ≤ c ∧ c ≤ '9' then some (c.toNat - '0'.toNat)
  else if 'a' ≤ c ∧ c ≤ 'f' then some (c.toNat - 'a'.toNat + 10)
  else if 'A' ≤ c ∧ c ≤ 'F' then some (c.toNat - 'A'.toNat + 10)
  else none

/-- The number that hexadecimal digits stand for. -/
def ofHexDigits? (ds : List Char) : Option Nat :=
  ds.foldlM (fun n c => (16 * n + ·) <$> hexValue? c) 0

/-- The digits at the front, of those that `isDigit` allows, with single
underscores between them; and what follows. -/
def digitRun (isDigit : Char → Bool) : List Char → List Char × List Char
  | [] => ([], [])
  | c :: rest =>
    if isDigit c then
      let (ds, after) :=
        match rest with
        | '_' :: d :: rest' => if isDigit d then digitRun isDigit (d :: rest') else ([], rest)
        | rest => digitRun isDigit rest
      (c :: ds, after)
    else ([], c :: rest)

/-- Whether `c` is a digit in base `base`. -/
def isDigitIn (base : Nat) (c : Char) : Bool := (hexValue? c).any (· < base)

end Reconcile
