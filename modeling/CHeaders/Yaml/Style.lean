import CHeaders.Yaml.Tag

/-!
# Styles

A scalar is written without quotes if it reads back as what it is, else between single quotes, and
between double quotes if it holds what only these can escape.

## Main definitions

* `CHeaders.Yaml.Traits`: what about a text decides its style.
* `CHeaders.Yaml.Style`: the styles.
* `CHeaders.Yaml.Style.choose`: the style for a text.
-/

namespace CHeaders.Yaml

/-- What about a text decides its style. -/
structure Traits where
  /-- It holds nothing. -/
  isEmpty : Bool
  /-- It holds the end of a line. -/
  multiline : Bool
  /-- It may stand without quotes. -/
  plain : Bool
  /-- It may stand between single quotes. -/
  single : Bool
  deriving DecidableEq, Repr

namespace Traits

/-- The characters that end a line where texts are written. -/
def isLineEnd (c : Char) : Bool :=
  c = '\n' || c = '\u0085' || c = '\u2028' || c = '\u2029'

/-- The characters that separate words. -/
def isSeparator (c : Char) : Bool :=
  c = '\x00' || c = ' ' || c = '\t' || c = '\r' || isLineEnd c

/-- The characters that need an escape. -/
def isSpecial (c : Char) : Bool :=
  !(c = '\n' || (' ' ≤ c && c ≤ '~'))

/-- The characters with which a plain text cannot begin. -/
def isLeadingMark (c : Char) : Bool :=
  "#,[]\x7b\x7d&*!|>'\"%@\x60".toList.contains c

/-- Whether a text begins with something that has a meaning of its own. -/
def beginsWithMark : List Char → Bool
  | [] => false
  | c :: rest =>
    isLeadingMark c || ((c = '?' || c = ':' || c = '-') && rest.head?.all isSeparator) ||
      ['-', '-', '-'].isPrefixOf (c :: rest) || ['.', '.', '.'].isPrefixOf (c :: rest)

/-- Whether a colon in front of a separator, or a number sign behind one, follows `before`. -/
def holdsMark (before : Char) : List Char → Bool
  | [] => false
  | c :: rest =>
    (c = ':' && rest.head?.all isSeparator) || (c = '#' && isSeparator before) ||
      holdsMark c rest

/-- Whether two characters of the given classes stand side by side. -/
def holdsPair (p q : Char → Bool) : List Char → Bool
  | c :: d :: rest => (p c && q d) || holdsPair p q (d :: rest)
  | _ => false

/-- Whether a character in a class stands at one of the ends. -/
def atEnds (p : Char → Bool) (cs : List Char) : Bool :=
  cs.head?.any p || cs.getLast?.any p

/-- A plain space. -/
def isSpace (c : Char) : Bool :=
  c = ' '

/-- What about characters decides the style of their text. -/
def ofChars (cs : List Char) : Traits :=
  match cs with
  | [] => ⟨true, false, true, true⟩
  | c :: rest =>
    let multiline := cs.any isLineEnd
    let single := !(holdsPair isLineEnd isSpace cs || holdsPair isSpace isLineEnd cs ||
      cs.any isSpecial)
    let plain := single && !multiline && !atEnds isSpace cs && !beginsWithMark cs &&
      !holdsMark c rest
    ⟨false, multiline, plain, single⟩

/-- The traits of a text with halves of pairs in it, which need an escape. -/
def escaped (t : Text) : Traits :=
  ⟨false, t.letters.any (Letter.isIn isLineEnd), false, false⟩

/-- What about a text decides its style. -/
def ofText (t : Text) : Traits :=
  t.chars?.elim (escaped t) ofChars

end Traits

/-- The ways to write a scalar. -/
inductive Style where
  | plain
  | single
  | double
  | literal
  deriving DecidableEq, Repr

namespace Style

/-- The style for a text with a tag, which may stand as a key in front of its colon. -/
def choose (tag : Tag) (text : Text) (isKey : Bool) : Style :=
  let t := Traits.ofText text
  if tag = .binary then if t.isEmpty || isKey then .double else .literal
  else if Tag.ofPlain text = tag && t.plain && !(isKey && (t.isEmpty || t.multiline)) then .plain
  else if t.single && !(isKey && t.multiline) then .single
  else .double

/-- Whether the tag has to be written because the text would not get it by itself. -/
def showsTag (style : Style) (tag : Tag) (text : Text) : Bool :=
  match style with
  | .plain => Tag.ofPlain text ≠ tag
  | _ => tag ≠ .str

end Style

end CHeaders.Yaml
