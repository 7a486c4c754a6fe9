import Reconcile.Console.ColorTable
import Reconcile.Document.Numeral
import Reconcile.Text.Blank
import Reconcile.Text.Case
import Reconcile.Text.Digit

/-!
# Style definitions

A style is defined by words: attributes, each possibly denied, a colour, a colour
of the ground, a link. Definitions with the same effect have the same normal
form, so that a closing tag may name the style of its opening tag in other words.
Other words define no style, which is no fault; but a colour of three numbers must
have all three.
-/

namespace Reconcile.Console

/-- What a style definition says. -/
structure Style where
  /-- Attributes by their full names, with whether they are on. -/
  attributes : List (String × Bool) := []
  color : Option String := none
  ground : Option String := none
  link : Option String := none

namespace Style

/-- The full names of the attributes, in the order of the normal form, with the
words for each. -/
def attributeWords : List (String × List String) :=
  [("bold", ["bold", "b"]), ("dim", ["dim", "d"]), ("italic", ["italic", "i"]),
   ("underline", ["underline", "u"]), ("blink", ["blink"]), ("blink2", ["blink2"]),
   ("reverse", ["reverse", "r"]), ("conceal", ["conceal", "c"]), ("strike", ["strike", "s"]),
   ("underline2", ["underline2", "uu"]), ("frame", ["frame"]), ("encircle", ["encircle"]),
   ("overline", ["overline", "o"])]

/-- The full name of the attribute that a word stands for. -/
def attribute? (word : String) : Option String :=
  (attributeWords.find? (·.2.contains word)).map Prod.fst

/-- Whether `s` is a number of at most three digits that is at most 255. -/
def isColorNumber (s : List Char) : Bool :=
  1 ≤ s.length && s.length ≤ 3 && s.all Char.isDigit && ofDigits s ≤ 255

/-- What stands between `opening` and `closing`, if `s` begins and ends with them. -/
def between? (opening closing s : List Char) : Option (List Char) :=
  if opening.isPrefixOf s && closing.isSuffixOf (s.drop opening.length) then
    some ((s.drop opening.length).dropLast)
  else none

/-- Why words do not define a style. -/
inductive Refusal
  /-- A word is none of a style's. -/
  | notStyle
  /-- One of the three numbers of a colour is missing, or too long to be read. -/
  | unreadableNumber
deriving DecidableEq, Inhabited

/-- Passes three numbers of a colour with commas between them. Digits of any script
are read. -/
def checkTriple (s : List Char) : Except Refusal Unit :=
  if !s.all fun c => c = ',' || (Text.digitValue? c).isSome then .error .notStyle
  else
    let numbers := ((String.ofList s).splitOn ",").map String.toList
    if numbers.length ≠ 3 then .error .notStyle
    else if numbers.any fun n => n.isEmpty || maxIntegerDigits < n.length then
      .error .unreadableNumber
    else if numbers.all fun n => (Text.digitsValue? n).any (· ≤ 255) then .ok ()
    else .error .notStyle

/-- Passes a word in lower case that names a colour. -/
def checkColor (word : String) : Except Refusal Unit :=
  let s := word.toList
  let isKnown := word = "default" || colorNames.contains word ||
    (match s with
      | '#' :: ds => ds.length = 6 && ds.all fun c => (hexValue? c).isSome && !c.isUpper
      | _ => false) ||
    (between? "color(".toList [')'] s).any isColorNumber
  if isKnown then .ok ()
  else match between? "rgb(".toList [')'] s with
    | some triple => checkTriple triple
    | none => .error .notStyle

/-- The text in lower case. -/
def lowerString (s : String) : String := String.ofList (Text.lowerChars s.toList)

/-- The style that the words define after what `style` says already. The first word
at fault decides. -/
def ofWords (style : Style) : List String → Except Refusal Style
  | [] => .ok style
  | word :: rest =>
    let lowered := lowerString word
    if lowered = "on" then
      match rest with
      | [] => .error .notStyle
      | ground :: rest => do
        let ground := lowerString ground
        checkColor ground
        ofWords { style with ground := some ground } rest
    else if lowered = "not" then
      match rest with
      | [] => .error .notStyle
      | denied :: rest =>
        match attribute? denied with
        | some name => ofWords { style with attributes := (name, false) :: style.attributes } rest
        | none => .error .notStyle
    else if lowered = "link" then
      match rest with
      | [] => .error .notStyle
      | link :: rest => ofWords { style with link := some link } rest
    else
      match attribute? lowered with
      | some name => ofWords { style with attributes := (name, true) :: style.attributes } rest
      | none => do
        checkColor lowered
        ofWords { style with color := some lowered } rest

/-- The normal form of a style. -/
def normalForm (style : Style) : String :=
  let attributes := attributeWords.filterMap fun (name, _) =>
    (style.attributes.lookup name).map fun on => if on then name else "not " ++ name
  let words := attributes ++ style.color.toList ++
    (style.ground.map ("on " ++ ·)).toList ++ (style.link.map ("link " ++ ·)).toList
  if words.isEmpty then "none" else " ".intercalate words

/-- The words of a text. -/
def words (s : List Char) : List String :=
  ((s.splitBy fun a b => Text.isBlank a == Text.isBlank b).filter fun w =>
    !(w.head?.any Text.isBlank)).map String.ofList

/-- The style that a text defines. -/
def read (definition : List Char) : Except Refusal Style := ofWords {} (words definition)

/-- The normal form of a definition; one that is no style is only trimmed and
taken in lower case. -/
def normalize (definition : List Char) : Except Refusal String :=
  if Text.trim definition = "none".toList then .ok "none"
  else match read definition with
    | .ok style => .ok style.normalForm
    | .error .notStyle => .ok (String.ofList (Text.lowerChars (Text.trim definition)))
    | .error .unreadableNumber => .error .unreadableNumber

end Style

end Reconcile.Console
