import CHeaders.Yaml.Style

/-!
# The pen

Documents are written from left to right. The pen knows the column, and whether white space or
nothing but indentation stands in front of it. Long texts are broken at a space once they have
passed the width of the page.

## Main definitions

* `CHeaders.Yaml.Pen`: what is written, and where the pen is.
* `CHeaders.Yaml.Pen.indicator`, `CHeaders.Yaml.Pen.indentTo`: marks and indentation.
* `CHeaders.Yaml.Pen.plain`, `CHeaders.Yaml.Pen.single`, `CHeaders.Yaml.Pen.double`,
  `CHeaders.Yaml.Pen.literal`: texts in the four styles.
-/

namespace CHeaders.Yaml

/-- What is written, and where the pen is. -/
structure Pen where
  out : String
  column : Nat
  /-- White space or nothing stands in front. -/
  spaced : Bool
  /-- Nothing but indentation and marks of the present line stands in front. -/
  indented : Bool

namespace Pen

/-- A clean page. -/
def blank : Pen :=
  ⟨"", 0, true, true⟩

/-- The column behind which texts are broken. -/
def width : Nat := 80

/-- Writes characters. -/
def write (p : Pen) (cs : List Char) : Pen :=
  { p with out := p.out ++ String.ofList cs, column := p.column + cs.length }

/-- Ends the line. -/
def newLine (p : Pen) : Pen :=
  ⟨p.out ++ "\n", 0, true, true⟩

/-- Writes a mark, with a space in front of it where one is needed. -/
def indicator (p : Pen) (mark : String) (apart : Bool) (spaced indented : Bool) : Pen :=
  let cs := if p.spaced || !apart then mark.toList else ' ' :: mark.toList
  { p.write cs with spaced := spaced, indented := p.indented && indented }

/-- Goes to a column on a line with nothing but indentation on it. -/
def indentTo (p : Pen) (column : Nat) : Pen :=
  let p :=
    if !p.indented || column < p.column || (p.column = column && !p.spaced) then p.newLine else p
  if p.column < column then
    { p.write (List.replicate (column - p.column) ' ') with spaced := true }
  else p

/-- A pen in the middle of a text. -/
def inText (p : Pen) : Pen :=
  { p with spaced := false, indented := false }

/-- Groups of spaces, of line ends and of other characters, in order. -/
def groups (cs : List Char) : List (List Char) :=
  cs.splitBy fun c d =>
    (c = ' ') == (d = ' ') && Traits.isLineEnd c == Traits.isLineEnd d

/-- Writes the groups of a plain text. A single space behind the width becomes the end of a
line. -/
def plainGroups (breakable : Bool) (indent : Nat) : List (List Char) → Pen → Pen
  | [], p => p
  | g :: gs, p =>
    if g = [' '] && width < p.column && breakable then
      plainGroups breakable indent gs (p.indentTo indent).inText
    else plainGroups breakable indent gs (p.write g)

/-- Writes a plain text. -/
def plain (p : Pen) (text : String) (breakable : Bool) (indent : Nat) : Pen :=
  let cs := text.toList
  if cs.isEmpty then p
  else plainGroups breakable indent (groups cs) ((if p.spaced then p else p.write [' ']).inText)

/-- Ends the line once more than there are line ends, and goes to a column. -/
def blankLines (indent : Nat) (p : Pen) (n : Nat) : Pen :=
  ((List.replicate n ()).foldl (fun p _ => p.newLine) p.newLine).indentTo indent

/-- Writes the groups of a text between single quotes. A single space behind the width, unless it
is at one of the ends, becomes the end of a line, and line ends are written once more. -/
def singleGroups (breakable : Bool) (indent : Nat) : (first : Bool) → List (List Char) → Pen → Pen
  | _, [], p => p
  | first, g :: gs, p =>
    if g = [' '] && width < p.column && breakable && !first && !gs.isEmpty then
      singleGroups breakable indent false gs (p.indentTo indent)
    else if g.any Traits.isLineEnd then
      singleGroups breakable indent false gs (p.blankLines indent g.length)
    else
      singleGroups breakable indent false gs
        (p.write (g.flatMap fun c => if c = '\'' then ['\'', '\''] else [c]))

/-- Writes a text between single quotes. -/
def single (p : Pen) (text : String) (breakable : Bool) (indent : Nat) : Pen :=
  let p := p.indicator "'" true false false
  (singleGroups breakable indent true (groups text.toList) p).indicator "'" false false false

/-- The letters of the escapes that have one. -/
def escapeLetters : List (Char × Char) :=
  [('\x00', '0'), ('\x07', 'a'), ('\x08', 'b'), ('\t', 't'), ('\n', 'n'), ('\x0b', 'v'),
    ('\x0c', 'f'), ('\r', 'r'), ('\x1b', 'e'), ('"', '"'), ('\\', '\\'), ('\u0085', 'N'),
    ('\u00a0', '_'), ('\u2028', 'L'), ('\u2029', 'P')]

/-- A code point as an escape of the least sufficient width. -/
def codeEscape (n : Nat) : List Char :=
  '\\' ::
    if n ≤ 0xFF then 'x' :: Text.Hex.padded .capital 2 n
    else if n ≤ 0xFFFF then 'u' :: Text.Hex.padded .capital 4 n
    else 'U' :: Text.Hex.padded .capital 8 n

/-- The escape of a letter between double quotes, or the character that needs none. -/
def escaped (l : Letter) : Char ⊕ List Char :=
  match l with
  | .half _ => .inr (codeEscape l.code)
  | .char c =>
    match escapeLetters.lookup c with
    | some letter => .inr ['\\', letter]
    | none => if ' ' ≤ c && c ≤ '~' then .inl c else .inr (codeEscape l.code)

/-- Breaks a text between double quotes in front of `next`, which needs a backslash if it is a
space. -/
def breakDouble (p : Pen) (indent : Nat) (next : Letter) : Pen :=
  let p := ((p.write ['\\']).indentTo indent).inText
  if next = .char ' ' then p.write ['\\'] else p

/-- Writes the letters of a text between double quotes. `pending` are the characters since the
last escape or break, the last one first. The text is broken behind the width, at a space or behind
an escape, but not at its ends. -/
def doubleLetters (breakable : Bool) (indent : Nat) : (first : Bool) → (pending : List Char) →
    List Letter → Pen → Pen
  | _, pending, [], p => p.write pending.reverse
  | first, pending, l :: rest, p =>
    let mayBreak := !first && breakable
    match escaped l with
    | .inr es =>
      let p := (p.write pending.reverse).write es
      match rest with
      | next :: _ =>
        if mayBreak && width + 1 < p.column then
          doubleLetters breakable indent false [] rest (p.breakDouble indent next)
        else doubleLetters breakable indent false [] rest p
      | [] => doubleLetters breakable indent false [] rest p
    | .inl c =>
      if mayBreak && !rest.isEmpty && (c = ' ' || pending.isEmpty) &&
          width < p.column + pending.length then
        doubleLetters breakable indent false [c] rest
          ((p.write pending.reverse).breakDouble indent l)
      else doubleLetters breakable indent false (c :: pending) rest p

/-- Writes a text between double quotes. -/
def double (p : Pen) (text : Text) (breakable : Bool) (indent : Nat) : Pen :=
  let p := p.indicator "\"" true false false
  (doubleLetters breakable indent true [] text.letters p).indicator "\"" false false false

/-- Writes a text line by line as a block. Each line has to be ended. -/
def literal (p : Pen) (text : String) (indent : Nat) : Pen :=
  let lines := (Text.split '\n' text.toList).dropLast
  lines.foldl (fun p line => ((p.indentTo indent).write line).newLine)
    (p.indicator "|" true false false).newLine

/-- Writes a text in a style. Only double quotes may hold halves of pairs. -/
def scalar (p : Pen) (style : Style) (text : Text) (isKey : Bool) (indent : Nat) : Pen :=
  match style with
  | .plain => p.plain text.shown (!isKey) indent
  | .single => p.single text.shown (!isKey) indent
  | .double => p.double text (!isKey) indent
  | .literal => p.literal text.shown indent

end Pen

end CHeaders.Yaml
