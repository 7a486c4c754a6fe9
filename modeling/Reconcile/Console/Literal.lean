import Reconcile.Console.Literal.Text
import Reconcile.Text.Lines

/-!
# Literals

Values written out: numbers, texts, rows of bytes, the constants, and tuples, sets
and dictionaries of them. Nothing in a literal has to be looked up or called. A
sum counts as one only where it adds an imaginary number to a real one, and what
is put into a set, or is a key of a dictionary, must be neither of these two.
-/

namespace Reconcile.Console.Literal

/-- What a literal spells, as far as its surroundings depend on it. -/
inductive Shape
  | number (imaginary : Bool)
  /-- A number with a sign. -/
  | signed (imaginary : Bool)
  /-- Any other value; one that `isFixed` may be put into a set. -/
  | other (isFixed : Bool)
  /-- The name that calls for a set, which is no value on its own. -/
  | setName
deriving DecidableEq, Inhabited

/-- Whether the value may be put into a set. -/
def Shape.isFixed : Shape → Bool
  | .other isFixed => isFixed
  | .setName => false
  | .number _ | .signed _ => true

/-- Whether an imaginary number may be added. -/
def Shape.isReal : Shape → Bool
  | .number imaginary | .signed imaginary => !imaginary
  | .other _ | .setName => false

/-- What follows the blanks and comments at the front. Within brackets, ends of
lines are blanks. -/
def skipGap (bracketed inComment : Bool) : List Char → List Char
  | [] => []
  | c :: rest =>
    if c = '\n' then if bracketed then skipGap bracketed false rest else c :: rest
    else if inComment then skipGap bracketed true rest
    else if c = ' ' ∨ c = '\t' ∨ c = '\x0C' then skipGap bracketed false rest
    else if c = '#' then skipGap bracketed true rest
    else match c, rest with
      | '\\', '\n' :: rest => skipGap bracketed false rest
      | _, _ => c :: rest

/-- What follows the lines of blanks and comments at the front, unless its own line
starts with blanks. A form feed takes back the blanks before it; a backslash at the end
of a line goes on with the next, and keeps the blanks before it even from a form feed. -/
def skipLines? (isIndented isHeld inComment : Bool) : List Char → Option (List Char)
  | [] => some []
  | c :: rest =>
    if c = '\n' then skipLines? false false false rest
    else if inComment then skipLines? isIndented isHeld true rest
    else if c = ' ' ∨ c = '\t' then skipLines? true isHeld false rest
    else if c = '\x0C' then skipLines? false isHeld false rest
    else if c = '#' then skipLines? isIndented isHeld true rest
    else match c, rest with
      | '\\', '\n' :: rest => skipLines? isIndented (isHeld || isIndented) false rest
      | _, _ => if isIndented || isHeld then none else some (c :: rest)

/-- What follows a row of texts that are all of bytes or all not. -/
def afterTexts? (bracketed isBytes : Bool) : (fuel : Nat) → List Char → Option (List Char)
  | 0, _ => none
  | fuel + 1, s =>
    match text? (skipGap bracketed false s) with
    | none => some s
    | some (found, rest) =>
      if found = isBytes then afterTexts? bracketed isBytes fuel rest else none

/-! ## Numbers and constants -/

/-- What follows the digits of a number in another base than ten. -/
def afterBase? (s : List Char) : Option (List Char) :=
  match s with
  | '0' :: b :: rest =>
    let base := match b.toLower with
      | 'x' => 16
      | 'o' => 8
      | 'b' => 2
      | _ => 0
    let rest := if rest.head? = some '_' then rest.drop 1 else rest
    let (digits, rest) := digitRun (isDigitIn base) rest
    if digits.isEmpty then none else some rest
  | _ => none

/-- What follows an exponent, if there is one. -/
def afterExponent (s : List Char) : List Char :=
  match s with
  | e :: rest =>
    if e = 'e' ∨ e = 'E' then
      let digits := match rest with
        | sign :: digits => if sign = '+' ∨ sign = '-' then digits else rest
        | [] => []
      if (digitRun Char.isDigit digits).1.isEmpty then s else (digitRun Char.isDigit digits).2
    else s
  | [] => []

/-- A number in decimal: whether it is imaginary, and what follows it. A whole number
has no zeros before it, and is not too long to be read. -/
def decimal? (s : List Char) : Option (Bool × List Char) := do
  let (whole, afterWhole) := digitRun Char.isDigit s
  let (fraction, afterFraction) := match afterWhole with
    | '.' :: rest => digitRun Char.isDigit rest
    | rest => ([], rest)
  guard (!(whole.isEmpty && fraction.isEmpty))
  let rest := afterExponent afterFraction
  match rest with
  | j :: after => if j = 'j' ∨ j = 'J' then return (true, after)
  | [] => pure ()
  let isWhole := rest.length = afterWhole.length
  guard (!isWhole || whole.all (· = '0') ||
    whole.head? ≠ some '0' && whole.length ≤ maxIntegerDigits)
  return (false, rest)

/-- Whether `c` belongs to a name or number that it follows. -/
def isNameChar (c : Char) : Bool := c.isAlphanum || c = '_' || 0x80 ≤ c.toNat

/-- A number at the front. -/
def number? (s : List Char) : Option (Bool × List Char) := do
  let (imaginary, rest) ← (afterBase? s).map (false, ·) <|> decimal? s
  guard !(rest.head?.any isNameChar)
  return (imaginary, rest)

/-- The names of the constants. -/
def constants : List String := ["None", "True", "False"]

/-- The letters of the name that calls for a set. Each may be written as one of the
letters that are compatible with it. -/
def setLetters : List (List Nat) :=
  [[0x73, 0x17F, 0x2E2, 0x209B, 0xFF53, 0x1D42C, 0x1D460, 0x1D494, 0x1D4C8, 0x1D4FC, 0x1D530,
    0x1D564, 0x1D598, 0x1D5CC, 0x1D600, 0x1D634, 0x1D668, 0x1D69C],
   [0x65, 0x1D49, 0x2091, 0x212F, 0x2147, 0xFF45, 0x1D41E, 0x1D452, 0x1D486, 0x1D4EE, 0x1D522,
    0x1D556, 0x1D58A, 0x1D5BE, 0x1D5F2, 0x1D626, 0x1D65A, 0x1D68E],
   [0x74, 0x1D57, 0x209C, 0xFF54, 0x1D42D, 0x1D461, 0x1D495, 0x1D4C9, 0x1D4FD, 0x1D531, 0x1D565,
    0x1D599, 0x1D5CD, 0x1D601, 0x1D635, 0x1D669, 0x1D69D]]

/-- Whether `name` calls for a set. -/
def isSetName (name : List Char) : Bool :=
  name.length = setLetters.length && (name.zip setLetters).all fun (c, forms) =>
    forms.contains c.toNat

/-- A constant at the front, or the name that calls for a set. -/
def constant? (s : List Char) : Option (Shape × List Char) :=
  match s with
  | '.' :: '.' :: '.' :: rest => some (.other true, rest)
  | _ =>
    let name := s.takeWhile isNameChar
    let rest := s.drop name.length
    if constants.contains (String.ofList name) then some (.other true, rest)
    else if isSetName name then some (.setName, rest)
    else none

/-! ## Depth -/

/-- How deep in a literal a place is. -/
structure Depth where
  /-- How many brackets are open. -/
  brackets : Nat
  /-- How many rules of the grammar are under way. -/
  rules : Nat

/-- The depth of the first value of a literal. -/
def Depth.first : Depth := ⟨0, 3⟩

/-- The depth of the values after it. -/
def Depth.later : Depth := ⟨0, 5⟩

/-- How many brackets may be open at once. -/
def maxBrackets : Nat := 200

/-- How many rules may be under way at once. -/
def maxRules : Nat := 6000

/-- Whether lines may end there. -/
def Depth.isBracketed (d : Depth) : Bool := 0 < d.brackets

/-- The depth with more rules under way. -/
def Depth.down (d : Depth) (rules : Nat) : Depth := { d with rules := d.rules + rules }

/-- The depth within a bracket. -/
def Depth.within (d : Depth) (rules : Nat) : Depth := ⟨d.brackets + 1, d.rules + rules⟩

/-- Whether a bracket may be opened. -/
def Depth.hasBracket (d : Depth) : Bool := d.brackets < maxBrackets

/-- Whether that many more rules may start. -/
def Depth.hasRules (d : Depth) (rules : Nat) : Bool := d.rules + rules ≤ maxRules

/-- The rules between a value and the one for what it is made of. -/
def rulesOfValue : Nat := 22

/-- The rules between a value and a text. -/
def rulesOfText : Nat := 24

/-- The rules between the name that calls for a set and the end of the call. -/
def rulesOfCall : Nat := 46

/-- The rules between a value in parentheses and its first member, the second and
those after it. -/
def rulesInParentheses : Nat × Nat × Nat := (28, 30, 31)

/-- The rules between a value in braces and its first member, and those after it. -/
def rulesInBraces : Nat × Nat := (29, 30)

/-! ## Values -/

mutual

/-- A value at the front, which may be a sum. Every value and every part of one takes
a character or more, so that a few times their number is `fuel` enough. -/
def value? : (fuel : Nat) → Depth → List Char → Option (Shape × List Char)
  | 0, _, _ => none
  | fuel + 1, d, s => do
    let (shape, rest) ← valueOrName? fuel d s
    guard (shape ≠ .setName)
    return (shape, rest)
termination_by structural fuel => fuel

/-- A value at the front, or the name that calls for a set. -/
def valueOrName? : (fuel : Nat) → Depth → List Char → Option (Shape × List Char)
  | 0, _, _ => none
  | fuel + 1, d, s => do
    let (left, rest) ← signed? fuel d s
    sum? fuel d left rest
termination_by structural fuel => fuel

/-- What may follow the left side of a sum. -/
def sum? : (fuel : Nat) → Depth → Shape → List Char → Option (Shape × List Char)
  | 0, _, _, _ => none
  | fuel + 1, d, left, s =>
    match skipGap d.isBracketed false s with
    | c :: rest =>
      if c = '+' ∨ c = '-' then do
        let (right, rest) ← signed? fuel d (skipGap d.isBracketed false rest)
        guard (left.isReal && right = .number true)
        sum? fuel d (.other true) rest
      else some (left, c :: rest)
    | [] => some (left, [])
termination_by structural fuel => fuel

/-- A value at the front that is no sum. Only a number takes a sign, and only one. -/
def signed? : (fuel : Nat) → Depth → List Char → Option (Shape × List Char)
  | 0, _, _ => none
  | fuel + 1, d, s =>
    match s with
    | c :: rest =>
      if c = '+' ∨ c = '-' then
        match called? fuel (d.down 1) (skipGap d.isBracketed false rest) with
        | some (.number imaginary, rest) => some (.signed imaginary, rest)
        | _ => none
      else called? fuel d s
    | [] => none
termination_by structural fuel => fuel

/-- A value at the front that has no sign and is no sum, or the name that calls for a
set, which empty parentheses may follow. -/
def called? : (fuel : Nat) → Depth → List Char → Option (Shape × List Char)
  | 0, _, _ => none
  | fuel + 1, d, s => do
    let (shape, rest) ← single? fuel d s
    if shape = .setName then
      match skipGap d.isBracketed false rest with
      | '(' :: rest =>
        guard (d.hasBracket && d.hasRules rulesOfCall)
        match skipGap true false rest with
        | ')' :: rest => return (.other false, rest)
        | _ => none
      | _ => return (shape, rest)
    else return (shape, rest)
termination_by structural fuel => fuel

/-- A number, text, constant or bracket at the front, or the name that calls for a set. -/
def single? : (fuel : Nat) → Depth → List Char → Option (Shape × List Char)
  | 0, _, _ => none
  | fuel + 1, d, s => do
    guard (d.hasRules rulesOfValue)
    match s with
    | '(' :: rest =>
      guard d.hasBracket
      let (first, second, later) := rulesInParentheses
      guard ((d.down first).hasRules rulesOfValue)
      match skipGap true false rest with
      | ')' :: rest => return (.other true, rest)
      | rest =>
        let (member, rest) ← valueOrName? fuel (d.within first) rest
        match skipGap true false rest with
        | ')' :: rest => return (member, rest)
        | ',' :: rest =>
          guard (member ≠ .setName)
          let (isFixed, rest) ← members? fuel (d.within second) (d.within later) ')' false
            (skipGap true false rest)
          return (.other (member.isFixed && isFixed), rest)
        | _ => none
    | '\x7b' :: rest =>
      guard d.hasBracket
      let (first, later) := rulesInBraces
      guard ((d.down first).hasRules rulesOfValue)
      match skipGap true false rest with
      | '\x7d' :: rest => return (.other false, rest)
      | rest =>
        let (member, rest) ← value? fuel (d.within first) rest
        guard member.isFixed
        let inner := d.within later
        match skipGap true false rest with
        | '\x7d' :: rest => return (.other false, rest)
        | ',' :: rest =>
          let (isFixed, rest) ← members? fuel inner inner '\x7d' false (skipGap true false rest)
          guard isFixed
          return (.other false, rest)
        | ':' :: rest =>
          let (_, rest) ← value? fuel (d.within first) (skipGap true false rest)
          match skipGap true false rest with
          | '\x7d' :: rest => return (.other false, rest)
          | ',' :: rest =>
            let (_, rest) ← members? fuel inner inner '\x7d' true (skipGap true false rest)
            return (.other false, rest)
          | _ => none
        | _ => none
    | s =>
      match text? s with
      | some (isBytes, rest) =>
        guard (d.hasRules rulesOfText)
        return (.other true, ← afterTexts? d.isBracketed isBytes (rest.length + 1) rest)
      | none =>
        match number? s with
        | some (imaginary, rest) => return (.number imaginary, rest)
        | none => constant? s
termination_by structural fuel => fuel

/-- The members up to a closing bracket, which a comma may stand before: whether all
may be put into a set. With `keyed`, each is a key that may, and a value. The first of
them has the depth `d`, and those after it `later`. -/
def members? : (fuel : Nat) → (d later : Depth) → (closing : Char) → (keyed : Bool) →
    List Char → Option (Bool × List Char)
  | 0, _, _, _, _, _ => none
  | fuel + 1, d, later, closing, keyed, s => do
    guard (d.hasRules rulesOfValue)
    if s.head? = some closing then return (true, s.drop 1)
    let (member, rest) ← value? fuel d s
    let rest := skipGap true false rest
    let rest ←
      if keyed then do
        guard member.isFixed
        match rest with
        | ':' :: rest => (value? fuel d (skipGap true false rest)).map (skipGap true false ·.2)
        | _ => none
      else pure rest
    match rest with
    | ',' :: rest =>
      let (isFixed, rest) ← members? fuel later later closing keyed (skipGap true false rest)
      return (member.isFixed && isFixed, rest)
    | c :: rest => if c = closing then return (member.isFixed, rest) else none
    | [] => none
termination_by structural fuel => fuel

end

/-- The values up to the end of a text, with commas between them. -/
def row? : (fuel : Nat) → Depth → List Char → Option Unit
  | 0, _, _ => none
  | fuel + 1, d, s => do
    let (_, rest) ← value? (8 * s.length + 8) d s
    match skipGap false false rest with
    | ',' :: rest =>
      let rest := skipGap false false rest
      if (skipGap true false rest).isEmpty then return ()
      row? fuel .later rest
    | rest => guard (skipGap true false rest).isEmpty

/-- Whether a text is a literal, or a row of literals with commas between them. -/
def isLiteral (s : List Char) : Bool :=
  !s.contains '\x00' &&
    ((skipLines? false false false (Text.unifyLines s)).bind (row? (s.length + 1) .first)).isSome

end Reconcile.Console.Literal
