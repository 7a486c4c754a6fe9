import Reconcile.Console.Styled
import Reconcile.Document.Numeral
import Reconcile.Text.Digit
import Reconcile.Text.Pattern
import Reconcile.Text.Quoted
import Reconcile.Text.WordTable

/-!
# Highlights

What the console sets off in a message: numbers, addresses, quoted texts, paths and
other things that look like values. It does not change what a message says, but each
of them is a stretch of its own.
-/

namespace Reconcile.Console.Highlight

open Text (Pattern)
open Text.Pattern

/-! ## Classes and places -/

/-- Whether `c` belongs to a word. -/
def isWordChar (c : Char) : Bool := Text.inRanges Text.wordRanges c

/-- Whether `c` belongs to a word or is one of some others. -/
def isWordCharOr (others : String) (c : Char) : Bool := isWordChar c || others.toList.contains c

/-- A place where a word begins or ends. -/
def edge : Pattern := between fun a b => a.any isWordChar != b.any isWordChar

/-- A place where no word begins or ends. -/
def noEdge : Pattern := between fun a b => a.any isWordChar == b.any isWordChar

/-- A place after none of some characters. -/
def notAfter (isIn : Char → Bool) : Pattern := between fun a _ => !a.any isIn

/-- A digit of ASCII. -/
def digit : Pattern := one Char.isDigit

/-- A hexadecimal digit. -/
def hexadecimal : Pattern := one fun c => (hexValue? c).isSome

/-- One of some characters. -/
def oneOf (chars : String) : Pattern := one chars.toList.contains

/-- A pattern any number of times, as often as it can be. -/
def zeroOrMore (p : Pattern) : Pattern := many true none p

/-! ## Numbers -/

/-- What may follow the digits of a number: a fraction and an exponent. -/
def tailOfNumber (isGreedy : Bool) : Pattern :=
  all [optional (word "."), zeroOrMore digit,
    optional (all [word "e", optional (oneOf "-+"),
      oneOrMore isGreedy none (one fun c => (Text.digitValue? c).isSome)])]

/-- A number at the start of a word. -/
def realNumber : Pattern :=
  all [notAfter isWordChar, optional (word "-"), oneOrMore true none digit, tailOfNumber false]

/-- A number with an imaginary part. -/
def imaginaryNumber : Pattern :=
  all [realNumber, optional (all [oneOf "-+", oneOrMore true none digit, tailOfNumber true]),
    word "j"]

/-- A number. -/
def number : Pattern :=
  any [all [realNumber, edge], all [word "0x", zeroOrMore hexadecimal]]

/-! ## Addresses -/

/-- Groups of digits with a separator between them. -/
def groups (count least most : Nat) (separator : String) : Pattern :=
  let group := all (List.replicate (least - 1) hexadecimal ++
    [oneOrMore true (some (most - least + 1)) hexadecimal])
  all [times (count - 1) (all [group, word separator]), group]

/-- Four numbers of up to three digits. -/
def numericAddress : Pattern :=
  let group := oneOrMore true (some 3) digit
  all [times 3 (all [group, word "."]), group]

/-- Up to eight groups with colons between them. -/
def colonAddress : Pattern :=
  let group := oneOrMore true (some 4) hexadecimal
  all [oneOrMore true (some 7) (all [group, word ":", optional (word ":")]), group]

/-- The address of a device, in `count` groups of two digits. -/
def deviceAddress (count : Nat) : Pattern :=
  any [groups count 1 2 "-", groups count 1 2 ":", groups (count / 2) 4 4 "."]

/-- An identifier in five groups. -/
def uniqueIdentifier : Pattern :=
  let group (n : Nat) := times n hexadecimal
  all [group 8, times 3 (all [word "-", group 4]), word "-", group 12]

/-! ## Texts and names -/

/-- A quoted text. -/
def quotedText : Pattern :=
  let apostrophe := String.singleton Text.apostrophe
  any ([apostrophe ++ apostrophe ++ apostrophe, apostrophe, "\"\"\"", "\""].map fun mark =>
    all [optional (word "b"), word mark, many false none (one (· ≠ '\n')),
      notAfter (· = '\\'), word mark])

/-- The directories of a path. -/
def directories : Pattern :=
  all [noEdge, zeroOrMore (all [word "/", oneOrMore true none (one (isWordCharOr "-._+"))]),
    word "/"]

/-- A link. -/
def link : Pattern :=
  all [any (["file", "https", "http", "ws", "wss"].map word), word "://",
    zeroOrMore (one fun c =>
      c.isAlphanum || "-$_+!(),.?/;:&=%#~@".toList.contains c || c = Char.ofNat 0x60)]

/-- One of the constants. -/
def constant (name : String) : Pattern := all [edge, marked (word name), edge]

/-! ## Highlights -/

/-- What stands between angle brackets. -/
def angled : Pattern :=
  all [marked (word "<"), marked (zeroOrMore (one (isWordCharOr "-.:|"))),
    marked (zeroOrMore (one fun _ => true)), marked (word ">")]

/-- A name and its value, with an equals sign between them. -/
def assignment : Pattern :=
  all [marked (oneOrMore true (some 50) (one isWordChar)), word "=",
    optional (marked (all [optional (word "\""), oneOrMore true none (one isWordChar),
      optional (word "\"")]))]

/-- A bracket. -/
def bracket : Pattern := marked (oneOf "[]()\x7b\x7d")

/-- A value. -/
def value : Pattern :=
  any [marked numericAddress, marked colonAddress, marked (deviceAddress 8),
    marked (deviceAddress 6), marked uniqueIdentifier,
    all [marked (many false none (one (isWordCharOr "."))), word "("],
    constant "True", constant "False", constant "None",
    marked (word "..."), marked imaginaryNumber, marked number,
    all [marked directories, marked (zeroOrMore (one (isWordCharOr "-._+")))],
    all [notAfter (isWordCharOr "\\"), marked quotedText], marked link]

/-- What is searched for; highlights of different kinds may overlap. -/
def kinds : List Pattern := [angled, assignment, bracket, value]

/-- The stretches that are set off in a text. -/
def stretches (s : List Char) : List Stretch :=
  kinds.flatMap fun kind => (kind.marks s).map fun (start, stop) => ⟨start, stop, []⟩

end Reconcile.Console.Highlight

namespace Reconcile.Console

/-- A text with its highlights. A text without joiners is left as it is: its lines take
the same columns in any runs. -/
def highlighted (t : Styled) : Styled :=
  if t.chars.contains joiner then
    { t with stretches := t.stretches ++ Highlight.stretches t.chars }
  else t

end Reconcile.Console
