import CHeaders.Fault

/-!
# Cursors

A cursor is a place in a document: what is left to read, how much has been read, and the line and
the column. Lines end in five ways; all but the two separators of Unicode count as a line feed.

## Main definitions

* `CHeaders.Yaml.Cursor`: a place in a document.
* `CHeaders.Yaml.Cursor.advance`, `CHeaders.Yaml.Cursor.skip`: the places behind it.
* `CHeaders.Yaml.Cursor.span`: the characters of a class, and the place behind them.
* `CHeaders.Yaml.Cursor.lineBreak?`: the end of a line.
* `CHeaders.Yaml.Defect`: why a document cannot be read.
-/

namespace CHeaders.Yaml

/-- Why a document cannot be read. -/
inductive Defect where
  /-- It is no document of the language. -/
  | malformed (what : String)
  /-- A value in it does not exist. -/
  | value (fault : Fault)

/-- The characters that a document may hold. -/
def isAllowed (c : Char) : Bool :=
  let n := c.toNat
  n == 0x09 || n == 0x0A || n == 0x0D || (0x20 ≤ n && n ≤ 0x7E) || n == 0x85 ||
    (0xA0 ≤ n && n ≤ 0xFFFD) || 0x10000 ≤ n

/-- The characters that end a line. -/
def isBreak (c : Char) : Bool :=
  c = '\n' || c = '\r' || c = '\u0085' || c = '\u2028' || c = '\u2029'

/-- A space or a tab. -/
def isGap (c : Char) : Bool :=
  c = ' ' || c = '\t'

/-- A place in a document: what is left to read, the length of the whole, how much has been read,
and the line and the column. -/
structure Cursor where
  rest : List Char
  size : Nat
  index : Nat
  line : Nat
  column : Nat

namespace Cursor

/-- The beginning of a document. -/
def start (cs : List Char) : Cursor :=
  ⟨cs, cs.length, 0, 0, 0⟩

/-- A bound for the number of steps that each read a character, and one more. -/
def bound (c : Cursor) : Nat :=
  c.size - c.index + 1

/-- The next character, if there is one. -/
def head? (c : Cursor) : Option Char :=
  c.rest.head?

/-- Whether the next character is in a class. -/
def sees (p : Char → Bool) (c : Cursor) : Bool :=
  c.rest.head?.any p

/-- Whether the next character is in a class, or there is none. -/
def seesOrEnd (p : Char → Bool) (c : Cursor) : Bool :=
  c.rest.head?.all p

/-- The place behind the next character. A carriage return in front of a line feed does not end
the line, and a byte order mark takes no column. -/
def advance (c : Cursor) : Cursor :=
  match c.rest with
  | [] => c
  | ch :: rest =>
    if isBreak ch && !(ch = '\r' && rest.head? = some '\n') then
      ⟨rest, c.size, c.index + 1, c.line + 1, 0⟩
    else if ch = '\uFEFF' then ⟨rest, c.size, c.index + 1, c.line, c.column⟩
    else ⟨rest, c.size, c.index + 1, c.line, c.column + 1⟩

/-- The place behind the next `n` characters. -/
def skip (c : Cursor) : (n : Nat) → Cursor
  | 0 => c
  | n + 1 => skip c.advance n

/-- The next characters as long as they are in a class, and the place behind them. -/
def span (p : Char → Bool) (c : Cursor) : List Char × Cursor :=
  let cs := c.rest.takeWhile p
  (cs, c.skip cs.length)

/-- The place behind the characters of a class. -/
def drop (p : Char → Bool) (c : Cursor) : Cursor :=
  (c.span p).2

/-- The end of a line and the place behind it; what stands for a line feed is read as one. -/
def lineBreak? (c : Cursor) : Option (Char × Cursor) :=
  match c.rest with
  | '\r' :: '\n' :: _ => some ('\n', c.skip 2)
  | ch :: _ =>
    if ch = '\u2028' || ch = '\u2029' then some (ch, c.advance)
    else if isBreak ch then some ('\n', c.advance)
    else none
  | [] => none

/-- The place behind the end of a line, if there is one here. -/
def dropBreak (c : Cursor) : Cursor :=
  match c.lineBreak? with
  | some (_, c') => c'
  | none => c

/-- The place behind spaces and a comment. -/
def dropComment (c : Cursor) : Cursor :=
  let c := c.drop (· = ' ')
  if c.head? = some '#' then c.drop fun ch => !isBreak ch else c

/-- Whether a mark of three characters between documents stands here. -/
def atMark (c : Cursor) (mark : List Char) : Bool :=
  mark.isPrefixOf c.rest && (c.rest.drop 3).head?.all fun ch => isGap ch || isBreak ch

/-- Whether one of the marks between documents stands here. -/
def atAnyMark (c : Cursor) : Bool :=
  c.atMark ['-', '-', '-'] || c.atMark ['.', '.', '.']

end Cursor

end CHeaders.Yaml
