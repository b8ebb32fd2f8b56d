import CHeaders.Text.Encoding
import CHeaders.Yaml.Cursor

/-!
# Tokens

The words of the language: the marks around collections, the marks between documents, scalars and
what may stand in front of a node. This module reads the tokens that are names: anchors, tags and
directives.

A document is read from its beginning, so what is wrong with its first part is found even if its
tokens cannot be told to the end.

## Main definitions

* `CHeaders.Yaml.Token`: the tokens.
* `CHeaders.Yaml.Tokens`: the tokens of a document as far as they can be told.
* `CHeaders.Yaml.Token.readAnchor`, `CHeaders.Yaml.Token.readTag`,
  `CHeaders.Yaml.Token.readDirective`: names in a document.
-/

namespace CHeaders.Yaml

/-- The words of the language. -/
inductive Token where
  | version (major : Nat)
  | handle (name uri : String)
  | otherDirective
  | documentStart
  | documentEnd
  | streamEnd
  | blockSequenceStart
  | blockMappingStart
  | blockEnd
  | flowSequenceStart
  | flowSequenceEnd
  | flowMappingStart
  | flowMappingEnd
  | blockEntry
  | flowEntry
  | key
  | value
  | reference (anchor : String)
  | anchor (name : String)
  | tag (handle : Option String) (suffix : String)
  | scalar (text : Text) (plain : Bool)
  deriving DecidableEq, Repr, Inhabited

/-- The tokens of a document as far as they can be told, and what is wrong behind them, if they do
not reach the end. -/
structure Tokens where
  list : List Token
  defect : Option Defect

namespace Token

/-- A malformed document. -/
def malformed {α : Type} (what : String) : Except Defect α :=
  .error (.malformed what)

/-- A letter, a digit, a hyphen or an underscore. -/
def isNameChar (c : Char) : Bool :=
  c.isAlphanum || c = '-' || c = '_'

/-- A space or the end of a line. -/
def isSpaceOrBreak (c : Char) : Bool :=
  c = ' ' || isBreak c

/-- The name behind the mark of an anchor or of a reference to one. -/
def readAnchor (c : Cursor) : Except Defect (String × Cursor) :=
  let (name, c) := c.advance.span isNameChar
  if name.isEmpty then malformed "an anchor without a name"
  else if c.seesOrEnd fun ch =>
      isGap ch || isBreak ch || ['?', ':', ',', ']', '\x7d', '%', '@', '\x60'].contains ch then
    .ok (String.ofList name, c)
  else malformed "a character inside the name of an anchor"

/-- The characters of a name of a tag beside letters and digits. -/
def uriMarks : List Char :=
  "-;/?:@&=+$,_.!~*'()[]%".toList

/-- The bytes that a run of escapes stands for. -/
def escapedBytes : (bound : Nat) → Cursor → Except Defect (List UInt8 × Cursor)
  | 0, c => .ok ([], c)
  | bound + 1, c =>
    match c.rest with
    | '%' :: a :: b :: _ =>
      match Text.Hex.number? [a, b] with
      | some n => do
        let (bytes, c) ← escapedBytes bound (c.skip 3)
        return (UInt8.ofNat n :: bytes, c)
      | none => malformed "an escape without two digits"
    | '%' :: _ => malformed "an escape without two digits"
    | _ => .ok ([], c)

/-- The characters of a name of a tag. -/
def uriChars : (bound : Nat) → Cursor → Except Defect (List Char × Cursor)
  | 0, c => .ok ([], c)
  | bound + 1, c =>
    match c.rest with
    | '%' :: _ => do
      let (bytes, c) ← escapedBytes bound c
      match Text.Utf8.decode false bytes with
      | .ok text =>
        let (cs, c) ← uriChars bound c
        return (text.chars?.getD [] ++ cs, c)
      | .error _ => malformed "escapes that are no text"
    | ch :: _ =>
      if ch.isAlphanum || uriMarks.contains ch then do
        let (cs, c) ← uriChars bound c.advance
        return (ch :: cs, c)
      else .ok ([], c)
    | [] => .ok ([], c)

/-- The name of a tag, which must not be empty. -/
def readUri (c : Cursor) : Except Defect (String × Cursor) := do
  let (cs, after) ← uriChars c.bound c
  if after.index = c.index then malformed "a tag without a name"
  else return (String.ofList cs, after)

/-- A handle: an exclamation mark, or a name between two of them. -/
def readHandle (c : Cursor) : Except Defect (String × Cursor) :=
  if c.head? = some '!' then
    let after := c.advance
    if after.head? = some ' ' then .ok ("!", after)
    else
      let (name, after) := after.span isNameChar
      if after.head? = some '!' then
        .ok (String.ofList ('!' :: name ++ ['!']), after.advance)
      else malformed "a handle without its second mark"
  else malformed "a handle without its mark"

/-- Whether a tag is written with a named handle: a second mark stands before the next space. -/
def hasHandle (c : Cursor) : Bool :=
  (c.advance.rest.takeWhile fun ch => !isSpaceOrBreak ch).contains '!'

/-- A tag in front of a node. -/
def readTag (c : Cursor) : Except Defect (Token × Cursor) := do
  let after := c.advance
  let (token, c) ←
    if after.head? = some '<' then do
      let (uri, c) ← readUri after.advance
      if c.head? = some '>' then pure (tag none uri, c.advance)
      else malformed "a tag that is not closed"
    else if after.seesOrEnd fun ch => isGap ch || isBreak ch then pure (tag none "!", after)
    else if hasHandle c then do
      let (mark, c) ← readHandle c
      let (suffix, c) ← readUri c
      pure (tag (some mark) suffix, c)
    else do
      let (suffix, c) ← readUri after
      pure (tag (some "!") suffix, c)
  if c.seesOrEnd isSpaceOrBreak then return (token, c)
  else malformed "a character behind a tag"

/-- A number of a version. -/
def readNumber (c : Cursor) : Except Defect (Nat × Cursor) :=
  let (ds, c) := c.span Char.isDigit
  if ds.isEmpty then malformed "a version without a number"
  else if Decimal.mostDigits < ds.length then .error (.value (.tooManyDigits (some ds.length)))
  else .ok (Decimal.digitsValue 10 ds, c)

/-- What follows the name of a directive for the version. -/
def readVersion (c : Cursor) : Except Defect (Token × Cursor) := do
  let (major, c) ← readNumber (c.drop (· = ' '))
  if c.head? = some '.' then
    let (_, c) ← readNumber c.advance
    if c.seesOrEnd isSpaceOrBreak then return (version major, c)
    else malformed "a character behind a version"
  else malformed "a version without a point"

/-- What follows the name of a directive for a handle. -/
def readHandleDirective (c : Cursor) : Except Defect (Token × Cursor) := do
  let (name, c) ← readHandle (c.drop (· = ' '))
  if c.head? = some ' ' then
    let (uri, c) ← readUri (c.drop (· = ' '))
    if c.seesOrEnd isSpaceOrBreak then return (handle name uri, c)
    else malformed "a character behind a handle"
  else malformed "a handle without a name"

/-- A directive, up to the end of its line. -/
def readDirective (c : Cursor) : Except Defect (Token × Cursor) := do
  let (name, c) := c.advance.span isNameChar
  if name.isEmpty then malformed "a directive without a name"
  else if c.seesOrEnd isSpaceOrBreak then
    let (token, c) ←
      if name = "YAML".toList then readVersion c
      else if name = "TAG".toList then readHandleDirective c
      else pure (otherDirective, c.drop fun ch => !isBreak ch)
    let c := c.dropComment
    if c.seesOrEnd isBreak then return (token, c.dropBreak)
    else malformed "a character behind a directive"
  else malformed "a character inside the name of a directive"

end Token

end CHeaders.Yaml
