import CHeaders.Yaml.Token

/-!
# Scalars

A scalar is a text in one of five forms: plain, between single or double quotes, or as a block
whose line ends are kept or folded. The forms differ in what they escape and in how they join
lines: a single line end becomes a space, further ones stay.

## Main definitions

* `CHeaders.Yaml.Scalar.quoted`: a text between quotes.
* `CHeaders.Yaml.Scalar.plain`: a text without quotes.
* `CHeaders.Yaml.Scalar.block`: a text as a block.
-/

namespace CHeaders.Yaml.Scalar

open Token (malformed)

/-! ## Quoted scalars -/

/-- The character for the letter of an escape. -/
def escaped? (c : Char) : Option Char :=
  [('0', '\x00'), ('a', '\x07'), ('b', '\x08'), ('t', '\t'), ('\t', '\t'), ('n', '\n'),
    ('v', '\x0b'), ('f', '\x0c'), ('r', '\r'), ('e', '\x1b'), (' ', ' '), ('"', '"'),
    ('\\', '\\'), ('/', '/'), ('N', '\u0085'), ('_', '\u00a0'), ('L', '\u2028'),
    ('P', '\u2029')].lookup c

/-- The number of digits behind the letter of an escape for a code point. -/
def codeLength? (c : Char) : Option Nat :=
  [('x', 2), ('u', 4), ('U', 8)].lookup c

/-- The line ends and the white space between them, of which only the line ends count. No mark
between documents may stand there. -/
def lineBreaks : (bound : Nat) → Cursor → Except Defect (List Char × Cursor)
  | 0, c => .ok ([], c)
  | bound + 1, c =>
    if c.atAnyMark then malformed "a mark between documents inside quotes"
    else
      let c := c.drop isGap
      match c.lineBreak? with
      | some (b, c) => do
        let (bs, c) ← lineBreaks bound c
        return (b :: bs, c)
      | none => .ok ([], c)

/-- Line ends joined: a single line feed becomes a space, and of several the first is dropped. -/
def folded (first : Char) (more : List Char) : List Char :=
  (if first ≠ '\n' then [first] else if more.isEmpty then [' '] else []) ++ more

/-- The white space at this place: as it is inside a line, joined at the end of one. -/
def quotedSpace (c : Cursor) : Except Defect (List Char × Cursor) :=
  let (gaps, c) := c.span isGap
  match c.lineBreak? with
  | some (b, c) => do
    let (bs, c) ← lineBreaks c.bound c
    return (folded b bs, c)
  | none =>
    if c.rest.isEmpty then malformed "a quote that is not closed"
    else .ok (gaps, c)

/-- What an escape behind a backslash stands for. -/
def readEscape (c : Cursor) : Except Defect (List Letter × Cursor) :=
  match c.rest with
  | [] => malformed "an escape without a letter"
  | ch :: rest =>
    match escaped? ch, codeLength? ch with
    | some d, _ => .ok ([.char d], c.advance)
    | none, some n =>
      let ds := rest.take n
      match Text.Hex.number? ds with
      | some code =>
        if ds.length < n then malformed "an escape with too few digits"
        else if 0x7FFFFFFF < code then .error (.value .tooLargeForLetter)
        else if 0x10FFFF < code then .error (.value .noLetter)
        else .ok ([Letter.ofCode code], c.skip (n + 1))
      | none => malformed "an escape with too few digits"
    | none, none =>
      match c.lineBreak? with
      | some (_, c) => do
        let (bs, c) ← lineBreaks c.bound c
        return (bs.map .char, c)
      | none => malformed "an escape that is not known"

/-- The letters up to white space or the closing quote. -/
def quotedWord (double : Bool) : (bound : Nat) → Cursor → Except Defect (List Letter × Cursor)
  | 0, c => .ok ([], c)
  | bound + 1, c =>
    match c.rest with
    | [] => .ok ([], c)
    | ch :: rest =>
      if isGap ch || isBreak ch then .ok ([], c)
      else if !double && ch = '\'' then
        if rest.head? = some '\'' then do
          let (ls, c) ← quotedWord double bound (c.skip 2)
          return (.char '\'' :: ls, c)
        else .ok ([], c)
      else if double && ch = '"' then .ok ([], c)
      else if double && ch = '\\' then do
        let (es, c) ← readEscape c.advance
        let (ls, c) ← quotedWord double bound c
        return (es ++ ls, c)
      else do
        let (ls, c) ← quotedWord double bound c.advance
        return (.char ch :: ls, c)

/-- Words and white space up to the closing quote, and the place behind it. -/
def quotedRest (double : Bool) : (bound : Nat) → Cursor → Except Defect (List Letter × Cursor)
  | 0, _ => malformed "a quote that is not closed"
  | bound + 1, c => do
    let (word, c) ← quotedWord double c.bound c
    if c.head? = some (if double then '"' else '\'') then return (word, c.advance)
    else
      let (space, c) ← quotedSpace c
      let (more, c) ← quotedRest double bound c
      return (word ++ space.map .char ++ more, c)

/-- The text between quotes. -/
def quoted (double : Bool) (c : Cursor) : Except Defect (Text × Cursor) := do
  let (ls, c) ← quotedRest double c.bound c.advance
  return (⟨ls⟩, c)

/-! ## Plain scalars -/

/-- The marks of flow collections that end a plain scalar. -/
def isFlowMark (c : Char) : Bool :=
  [',', '[', ']', '\x7b', '\x7d'].contains c

/-- How many characters belong to a plain scalar without a gap. -/
def plainLength (flow : Bool) : List Char → Nat
  | [] => 0
  | ch :: rest =>
    if isGap ch || isBreak ch ||
        (ch = ':' && rest.head?.all fun d => isGap d || isBreak d || (flow && isFlowMark d)) ||
        (flow && (isFlowMark ch || ch = '?')) then 0
    else plainLength flow rest + 1

/-- Spaces and line ends behind the end of a line, of which only the line ends count. There are
none if a mark between documents follows one of them. -/
def plainBreaks : (bound : Nat) → Cursor → Option (List Char) × Cursor
  | 0, c => (some [], c)
  | bound + 1, c =>
    if c.head? = some ' ' then plainBreaks bound c.advance
    else
      match c.lineBreak? with
      | some (b, c) =>
        if c.atAnyMark then (none, c)
        else
          let (bs, c) := plainBreaks bound c
          (bs.map (b :: ·), c)
      | none => (some [], c)

/-- The white space behind a part of a plain scalar: what it stands for, whether a line ended in
it, and the place behind it. It stands for nothing in front of a mark between documents. -/
def plainSpace (c : Cursor) : List Char × Bool × Cursor :=
  let (gaps, c) := c.span (· = ' ')
  match c.lineBreak? with
  | some (b, c) =>
    if c.atAnyMark then ([], true, c)
    else
      match plainBreaks c.bound c with
      | (some bs, c) => (folded b bs, true, c)
      | (none, c) => ([], true, c)
  | none => (gaps, false, c)

/-- The rest of a plain scalar, whether a line ended behind it, and the place behind that. A
part counts if it is not a comment and, outside flow collections, is indented far enough. -/
def plainRest (flow : Bool) (indent : Int) : (bound : Nat) → (broke : Bool) → Cursor →
    List Char × Bool × Cursor
  | 0, broke, c => ([], broke, c)
  | bound + 1, broke, c =>
    let n := if c.head? = some '#' then 0 else plainLength flow c.rest
    if n = 0 then ([], broke, c)
    else
      let word := c.rest.take n
      let (space, broke, c) := plainSpace (c.skip n)
      if space.isEmpty || c.head? = some '#' || (!flow && decide ((c.column : Int) < indent)) then
        (word, broke, c)
      else
        let (more, broke, c') := plainRest flow indent bound broke c
        (if more.isEmpty then word else word ++ space ++ more, broke, c')

/-- The plain text, whether a line ended behind it, and the place behind that. -/
def plain (flow : Bool) (indent : Int) (c : Cursor) : Text × Bool × Cursor :=
  let (cs, broke, c) := plainRest flow indent c.bound false c
  (Text.ofChars cs, broke, c)

/-! ## Block scalars -/

/-- What happens to the line ends at the end of a block. -/
inductive Chomping where
  | strip
  | clip
  | keep
  deriving DecidableEq, Repr

/-- The chomping that a mark asks for. -/
def chomping? : Option Char → Option Chomping
  | some '+' => some .keep
  | some '-' => some .strip
  | _ => none

/-- The indentation that a digit asks for; zero is none. -/
def increment? (c : Cursor) : Except Defect (Option Nat × Cursor) :=
  match c.head? with
  | some d =>
    if d = '0' then malformed "an indentation of zero"
    else if d.isDigit then .ok (Decimal.digitValue? d, c.advance)
    else .ok (none, c)
  | none => .ok (none, c)

/-- The marks behind the beginning of a block, in either order. -/
def indicators (c : Cursor) : Except Defect (Chomping × Option Nat × Cursor) := do
  let (chomping, increment, c) ←
    match chomping? c.head? with
    | some chomping => do
      let (n, c) ← increment? c.advance
      pure (chomping, n, c)
    | none => do
      let (n, c) ← increment? c
      match n, chomping? c.head? with
      | some _, some chomping => pure (chomping, n, c.advance)
      | _, _ => pure (Chomping.clip, n, c)
  if c.seesOrEnd Token.isSpaceOrBreak then
    let c := c.dropComment
    if c.seesOrEnd isBreak then return (chomping, increment, c.dropBreak)
    else malformed "a character behind the beginning of a block"
  else malformed "a character behind the beginning of a block"

/-- The empty lines in front of a block, and the deepest column reached in them. -/
def leadingBreaks : (bound : Nat) → (deepest : Nat) → Cursor → List Char × Nat × Cursor
  | 0, deepest, c => ([], deepest, c)
  | bound + 1, deepest, c =>
    match c.lineBreak? with
    | some (b, c) =>
      let (bs, deepest, c) := leadingBreaks bound deepest c
      (b :: bs, deepest, c)
    | none =>
      if c.head? = some ' ' then
        let c := c.advance
        leadingBreaks bound (max deepest c.column) c
      else ([], deepest, c)

/-- The place behind spaces, but not beyond the column `indent`. -/
def dropIndent (indent : Nat) : (bound : Nat) → Cursor → Cursor
  | 0, c => c
  | bound + 1, c =>
    if c.column < indent && c.head? = some ' ' then dropIndent indent bound c.advance else c

/-- The empty lines between the lines of a block, and the place where the next line begins. -/
def innerBreaks (indent : Nat) : (bound : Nat) → Cursor → List Char × Cursor
  | 0, c => ([], c)
  | bound + 1, c =>
    let c := dropIndent indent indent c
    match c.lineBreak? with
    | some (b, c) =>
      let (bs, c) := innerBreaks indent bound c
      (b :: bs, c)
    | none => ([], c)

/-- The line ends between two lines of a block. Folding turns a single line feed between lines
that begin with no white space into a space, and drops the first of several. -/
def between (fold : Bool) (lineEnd : List Char) (breaks : List Char) : List Char :=
  if fold && lineEnd == ['\n'] then (if breaks.isEmpty then [' '] else []) ++ breaks
  else lineEnd ++ breaks

/-- What stays of the line ends behind the last line. -/
def chomped (chomping : Chomping) (lineEnd breaks : List Char) : List Char :=
  match chomping with
  | .strip => []
  | .clip => lineEnd
  | .keep => lineEnd ++ breaks

/-- The lines of a block that stand at the column `indent`. -/
def blockLines (fold : Bool) (chomping : Chomping) (indent : Nat) :
    (bound : Nat) → Cursor → List Char × Cursor
  | 0, c => ([], c)
  | bound + 1, c =>
    let flush := !c.sees isGap
    let (line, c) := c.span fun ch => !isBreak ch
    let (lineEnd, c) := match c.lineBreak? with
      | some (b, c) => ([b], c)
      | none => ([], c)
    let (breaks, c) := innerBreaks indent c.bound c
    if c.column = indent && !c.rest.isEmpty then
      let joint := between (fold && flush && !c.sees isGap) lineEnd breaks
      let (more, c) := blockLines fold chomping indent bound c
      (line ++ joint ++ more, c)
    else (line ++ chomped chomping lineEnd breaks, c)

/-- A text as a block inside a collection at the column `parent`. -/
def block (fold : Bool) (parent : Int) (c : Cursor) : Except Defect (Text × Cursor) := do
  let (chomping, increment, c) ← indicators c.advance
  let least := (max (parent + 1) 1).toNat
  let (breaks, indent, c) := match increment with
    | none =>
      let (breaks, deepest, c) := leadingBreaks c.bound 0 c
      (breaks, max least deepest, c)
    | some n =>
      let indent := least + n - 1
      let (breaks, c) := innerBreaks indent c.bound c
      (breaks, indent, c)
  if c.column = indent && !c.rest.isEmpty then
    let (cs, c) := blockLines fold chomping indent c.bound c
    return (Text.ofChars (breaks ++ cs), c)
  else return (Text.ofChars (chomped chomping [] breaks), c)

end CHeaders.Yaml.Scalar
