import Reconcile.Console
import Reconcile.Console.Literal
import Reconcile.Console.Styled
import Reconcile.Text.WordTable

/-!
# Console markup

A text for the console may hold tags between square brackets, which set the style
of what follows and do not show. A closing tag must close a tag that is open. A
backslash before a tag makes it show; two make one backslash that shows.

A tag that begins with `@` names an action, and what follows its equals sign is
what the action is called with. That is read when the tag is closed.
-/

namespace Reconcile.Console

/-- A piece of a text with markup. -/
inductive Piece
  | plain (s : List Char)
  | tag (inner : List Char)
deriving DecidableEq

/-- The fault of a style that cannot be shown. -/
def MarkupFault.ofRefusal (_ : Style.Refusal) : MarkupFault := .unreadableNumber

namespace Markup

/-- Whether the inside of a tag can begin with `c`. -/
def isTagStart (c : Char) : Bool := ('a' ≤ c && c ≤ 'z') || c = '#' || c = '/' || c = '@'

/-- The inside of a tag whose opening bracket is before `s`, and what follows its
closing bracket. -/
def tag? (s : List Char) : Option (List Char × List Char) :=
  match s with
  | [] => none
  | c :: rest =>
    if !isTagStart c then none
    else
      let stop (c : Char) : Bool := c = '[' || c = ']'
      match rest.dropWhile (!stop ·) with
      | ']' :: after => some (c :: rest.takeWhile (!stop ·), after)
      | _ => none

/-- The tag at the front of `s` with the backslashes before it: their number, the
inside of the tag, and what follows it. -/
def escapedTag? (s : List Char) : Option (Nat × List Char × List Char) :=
  let backslashes := s.takeWhile (· = '\\')
  match s.drop backslashes.length with
  | '[' :: rest => (tag? rest).map fun (inner, after) => (backslashes.length, inner, after)
  | _ => none

/-- Puts a character in front of the first plain piece. -/
def withChar (c : Char) : List Piece → List Piece
  | .plain s :: pieces => .plain (c :: s) :: pieces
  | pieces => .plain [c] :: pieces

/-- The pieces of a text. Each step takes a character or more. -/
def piecesWithin : (fuel : Nat) → List Char → List Piece
  | 0, _ => []
  | fuel + 1, s =>
    match s with
    | [] => []
    | c :: rest =>
      match escapedTag? (c :: rest) with
      | none => withChar c (piecesWithin fuel rest)
      | some (backslashes, inner, after) =>
        .plain [] :: .plain (List.replicate (backslashes / 2) '\\') ::
          (if backslashes % 2 = 1 then .plain ('[' :: inner ++ [']']) else .tag inner) ::
          .plain [] :: piecesWithin fuel after

/-- The pieces of a text. -/
def pieces (s : List Char) : List Piece := piecesWithin s.length s

/-- A plain piece as it shows: a bracket loses the backslash before it. -/
def unescaped : List Char → List Char
  | [] => []
  | '\\' :: '[' :: rest => '[' :: unescaped rest
  | c :: rest => c :: unescaped rest

/-! ## Tags -/

/-- A tag that is open. -/
structure OpenTag where
  /-- The number of characters shown before it. -/
  start : Nat
  /-- The normal form of its style, or the name of its action. -/
  name : String
  /-- What follows its equals sign. -/
  parameters : Option (List Char)

/-- The normal form of a style. -/
def normalize (style : List Char) : Except MarkupFault String :=
  (Style.normalize style).mapError .ofRefusal

/-- What stands before the equals sign of a tag, and what follows it. -/
def splitTag (inner : List Char) : List Char × Option (List Char) :=
  (inner.takeWhile (· ≠ '='), (inner.dropWhile (· ≠ '=')).tail?)

/-- Whether `c` may stand in the name of what an action calls. -/
def isCallChar (c : Char) : Bool := c = '.' || Text.inRanges Text.wordRanges c

/-- Whether an action can be called with `s`: with a name alone, with a name and a
literal in brackets on one line, or with a literal. -/
def isCall (s : List Char) : Bool :=
  match s.dropWhile isCallChar with
  | [] => true
  | rest =>
    let isOneGroup := rest.head? = some '(' && rest.getLast? = some ')' && !rest.contains '\n'
    Literal.isLiteral (if isOneGroup then rest else s)

/-- Passes a tag that may be closed. -/
def OpenTag.checkClosed (tag : OpenTag) : Except MarkupFault Unit :=
  match tag.parameters with
  | some call =>
    if !tag.name.startsWith "@" || call.isEmpty || isCall (Text.trim call) then .ok ()
    else .error (.badCall (String.ofList call))
  | none => .ok ()

/-- The stretch of the text from a tag up to `stop`. Its style is defined by the name of
the tag and what follows the equals sign. -/
def OpenTag.stretch (stop : Nat) (tag : OpenTag) : Stretch where
  start := tag.start
  stop := stop
  style := tag.name.toList ++ (tag.parameters.map (' ' :: ·)).getD []

/-! ## What shows -/

/-- A text as far as its markup is read: what shows, and the tags that are open, the
last opened first. -/
structure Progress where
  shown : Styled := { chars := [] }
  opened : List OpenTag := []

namespace Progress

/-- The number of characters shown. -/
def size (p : Progress) : Nat := p.shown.chars.length

/-- The stretch of a tag that ends here, and what comes before, with `opened` left open. -/
def closed (p : Progress) (tag : OpenTag) (opened : List OpenTag) :
    Except MarkupFault Progress := do
  tag.checkClosed
  let stretches := tag.stretch p.size :: p.shown.stretches
  return { shown := { p.shown with stretches }, opened }

/-- Reads a tag. -/
def addTag (p : Progress) (inner : List Char) : Except MarkupFault Progress := do
  let (name, parameters) := splitTag inner
  match name with
  | '/' :: closing =>
    if (Text.trim closing).isEmpty then
      match p.opened with
      | [] => throw .nothingToClose
      | tag :: opened => p.closed tag opened
    else
      let closing ← normalize (Text.trim closing)
      match p.opened.find? (·.name = closing) with
      | none => throw (.notOpen closing)
      | some tag => p.closed tag (p.opened.eraseP (·.name = closing))
  | _ =>
    let name ← normalize name
    return { p with opened := ⟨p.size, name, parameters⟩ :: p.opened }

/-- Whether `c` is a control character that a console text is cleared of. -/
def isStripped (c : Char) : Bool := c.toNat ∈ [0x07, 0x08, 0x0B, 0x0C, 0x0D]

/-- Reads a piece. -/
def add (p : Progress) : Piece → Except MarkupFault Progress
  | .plain s =>
    let chars := p.shown.chars ++ (unescaped s).filter (!isStripped ·)
    .ok { p with shown := { p.shown with chars } }
  | .tag inner => p.addTag inner

/-- The whole text. A tag that is still open holds up to its end. -/
def finish (p : Progress) : Styled :=
  { p.shown with stretches := p.opened.map (OpenTag.stretch p.size) ++ p.shown.stretches }

end Progress

/-- What a text with markup shows. -/
def render (s : String) : Except MarkupFault Styled :=
  Progress.finish <$> (pieces s.toList).foldlM Progress.add {}

end Markup

end Reconcile.Console
