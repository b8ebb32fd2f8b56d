import CHeaders.Yaml.Scalar

/-!
# From characters to tokens

Block collections have no marks of their own: they begin and end where the indentation says so,
and a key is known as one only when its colon is reached. So the lexer keeps the columns of the
open block collections, and for each level of flow collections the place where a key may have
begun. When the colon comes, the tokens for the key are put in front of it. Until then the tokens
from that place on are not settled.

## Main definitions

* `CHeaders.Yaml.Lexer`: the state between two tokens.
* `CHeaders.Yaml.Lexer.step`: the state behind the next token.
* `CHeaders.Yaml.Lexer.settled`: the tokens in front of which nothing can be put any more.
* `CHeaders.Yaml.Tokens.ofChars`: the tokens of a document.
-/

namespace CHeaders.Yaml

/-- A place where a key may have begun: the number of tokens in front of it, whether it has to be
one, and where it stands. -/
structure KeyStart where
  tokens : Nat
  required : Bool
  index : Nat
  line : Nat
  column : Nat

/-- The state between two tokens. -/
structure Lexer where
  cursor : Cursor
  /-- The tokens so far, the last one first. -/
  tokens : List Token
  /-- How many tokens these are. -/
  count : Nat
  /-- How many flow collections are open. -/
  flow : Nat
  /-- The column of the innermost open block collection; `-1` if there is none. -/
  indent : Int
  /-- The columns of the block collections around it. -/
  outer : List Int
  /-- Whether a key may begin here. -/
  keyAllowed : Bool
  /-- The places where a key may have begun, by the level of flow collections. -/
  starts : List (Nat × KeyStart)

namespace Lexer

open Token (malformed)

/-- The state at the beginning of a document. -/
def start (cs : List Char) : Lexer :=
  ⟨Cursor.start cs, [], 0, 0, -1, [], true, []⟩

/-- The column of the next character. -/
def column (s : Lexer) : Int :=
  s.cursor.column

/-- The state with one more token. -/
def push (s : Lexer) (t : Token) : Lexer :=
  { s with tokens := t :: s.tokens, count := s.count + 1 }

/-- The state with a token put in behind the first `n`. -/
def insert (s : Lexer) (n : Nat) (t : Token) : Lexer :=
  let (behind, before) := s.tokens.splitAt (s.count - n)
  { s with tokens := behind ++ t :: before, count := s.count + 1 }

/-- White space, comments and line ends in front of the next token. At the end of a line outside
flow collections a key may begin. -/
def dropBlank (flow : Bool) : (bound : Nat) → (keyAllowed : Bool) → Cursor → Bool × Cursor
  | 0, keyAllowed, c => (keyAllowed, c)
  | bound + 1, keyAllowed, c =>
    let c := c.dropComment
    match c.lineBreak? with
    | some (_, c) => dropBlank flow bound (keyAllowed || !flow) c
    | none => (keyAllowed, c)

/-- The state at the next token. -/
def toNext (s : Lexer) : Lexer :=
  let c := if s.cursor.index = 0 && s.cursor.head? = some '\uFEFF' then s.cursor.advance
    else s.cursor
  let (keyAllowed, c) := dropBlank (s.flow ≠ 0) c.bound s.keyAllowed c
  { s with cursor := c, keyAllowed := keyAllowed }

/-- Whether a key that began at `k` cannot reach here: it ends on its line, and soon. -/
def isStale (c : Cursor) (k : KeyStart) : Bool :=
  k.line ≠ c.line || k.index + 1024 < c.index

/-- Gives up the keys that cannot reach here. -/
def dropStale (s : Lexer) : Except Defect Lexer :=
  if s.starts.any fun e => isStale s.cursor e.2 && e.2.required then
    malformed "a key without its colon"
  else .ok { s with starts := s.starts.filter fun e => !isStale s.cursor e.2 }

/-- The place where a key may have begun at the present level. -/
def keyStart? (s : Lexer) : Option KeyStart :=
  s.starts.lookup s.flow

/-- Gives up the key at the present level. -/
def forgetKey (s : Lexer) : Except Defect Lexer :=
  match s.keyStart? with
  | some k =>
    if k.required then malformed "a key without its colon"
    else .ok { s with starts := s.starts.filter fun e => e.1 ≠ s.flow }
  | none => .ok s

/-- Remembers that a key may begin here. It has to be one if it stands where the keys of a block
mapping stand. -/
def rememberKey (s : Lexer) : Except Defect Lexer :=
  if s.keyAllowed then do
    let s ← s.forgetKey
    let c := s.cursor
    let k : KeyStart :=
      ⟨s.count, s.flow = 0 && s.indent = s.column, c.index, c.line, c.column⟩
    return { s with starts := (s.flow, k) :: s.starts }
  else .ok s

/-- Closes the block collections that are indented further than `column`. -/
def unwind (column : Int) : List Int → Lexer → Lexer
  | [], s => s
  | outer :: rest, s =>
    if s.flow = 0 && column < s.indent then
      unwind column rest { s.push .blockEnd with indent := outer, outer := rest }
    else s

/-- Closes the block collections that are indented further than `column`. -/
def closeTo (s : Lexer) (column : Int) : Lexer :=
  unwind column s.outer s

/-- Opens a block collection at `column` if it is indented further than the present one; `n` is
how many tokens stand in front of it. -/
def openAt (s : Lexer) (column : Int) (n : Nat) (t : Token) : Lexer :=
  if s.indent < column then
    { s.insert n t with indent := column, outer := s.indent :: s.outer }
  else s

/-- The token `t`, which takes `n` characters. -/
def take (s : Lexer) (n : Nat) (t : Token) : Lexer :=
  { s.push t with cursor := s.cursor.skip n }

/-- The end of the document. -/
def finish (s : Lexer) : Except Defect Lexer := do
  let s ← (s.closeTo (-1)).forgetKey
  return s.push .streamEnd

/-- A directive. -/
def directive (s : Lexer) : Except Defect Lexer := do
  let s ← (s.closeTo (-1)).forgetKey
  let (t, c) ← Token.readDirective s.cursor
  return { s.push t with cursor := c, keyAllowed := false }

/-- A mark between documents. -/
def mark (s : Lexer) (t : Token) : Except Defect Lexer := do
  let s ← (s.closeTo (-1)).forgetKey
  return { s.take 3 t with keyAllowed := false }

/-- The beginning of a flow collection, which may be a key as a whole. -/
def openFlow (s : Lexer) (t : Token) : Except Defect Lexer := do
  let s ← s.rememberKey
  return { s.take 1 t with flow := s.flow + 1, keyAllowed := true }

/-- The end of a flow collection. -/
def closeFlow (s : Lexer) (t : Token) : Except Defect Lexer := do
  let s ← s.forgetKey
  if s.flow = 0 then malformed "the end of a collection that is not open"
  else return { s.take 1 t with flow := s.flow - 1, keyAllowed := false }

/-- A comma. -/
def flowEntry (s : Lexer) : Except Defect Lexer := do
  let s ← { s with keyAllowed := true }.forgetKey
  return s.take 1 .flowEntry

/-- The mark of an item of a block sequence. -/
def blockEntry (s : Lexer) : Except Defect Lexer :=
  if s.flow = 0 && !s.keyAllowed then malformed "an item where none is allowed"
  else do
    let s := if s.flow = 0 then s.openAt s.column s.count .blockSequenceStart else s
    let s ← { s with keyAllowed := true }.forgetKey
    return s.take 1 .blockEntry

/-- The mark of a key that may be any node. -/
def explicitKey (s : Lexer) : Except Defect Lexer :=
  if s.flow = 0 && !s.keyAllowed then malformed "a key where none is allowed"
  else do
    let s := if s.flow = 0 then s.openAt s.column s.count .blockMappingStart else s
    let s ← { s with keyAllowed := s.flow = 0 }.forgetKey
    return s.take 1 .key

/-- The colon behind a key. -/
def value (s : Lexer) : Except Defect Lexer :=
  match s.keyStart? with
  | some k =>
    let s := { s with starts := s.starts.filter fun e => e.1 ≠ s.flow }
    let s := s.insert k.tokens .key
    let s := if s.flow = 0 then s.openAt k.column k.tokens .blockMappingStart else s
    .ok { s.take 1 .value with keyAllowed := false }
  | none =>
    if s.flow = 0 && !s.keyAllowed then malformed "a value where none is allowed"
    else
      let s := if s.flow = 0 then s.openAt s.column s.count .blockMappingStart else s
      .ok { s.take 1 .value with keyAllowed := s.flow = 0 }

/-- What stands in front of a node, or a reference to one. -/
def name (s : Lexer) (read : Cursor → Except Defect (Token × Cursor)) : Except Defect Lexer := do
  let s ← s.rememberKey
  let (t, c) ← read s.cursor
  return { s.push t with cursor := c, keyAllowed := false }

/-- A scalar as a block. A key may begin behind it. -/
def blockScalar (s : Lexer) (fold : Bool) : Except Defect Lexer := do
  let s ← { s with keyAllowed := true }.forgetKey
  let (text, c) ← Scalar.block fold s.indent s.cursor
  return { s.push (.scalar text false) with cursor := c }

/-- A scalar between quotes. -/
def quotedScalar (s : Lexer) (double : Bool) : Except Defect Lexer := do
  let s ← s.rememberKey
  let (text, c) ← Scalar.quoted double s.cursor
  return { s.push (.scalar text false) with cursor := c, keyAllowed := false }

/-- A scalar without quotes. A key may begin behind it if a line has ended. -/
def plainScalar (s : Lexer) : Except Defect Lexer := do
  let s ← s.rememberKey
  let (text, broke, c) := Scalar.plain (s.flow ≠ 0) (s.indent + 1) s.cursor
  return { s.push (.scalar text true) with cursor := c, keyAllowed := broke }

/-- The characters that have a meaning of their own where a token begins. -/
def indicators : List Char :=
  "-?:,[]\x7b\x7d#&*!|>'\"%@\x60".toList

/-- Whether a plain scalar begins with `ch`, which `next` follows. -/
def beginsPlain (flow : Bool) (ch : Char) (next : Option Char) : Bool :=
  !(isGap ch || isBreak ch || indicators.contains ch) ||
    (!(next.all fun d => isGap d || isBreak d) && (ch = '-' || (!flow && (ch = '?' || ch = ':'))))

/-- The state behind the next token, which begins with `ch` and is not the end. -/
def token (s : Lexer) (ch : Char) (rest : List Char) : Except Defect Lexer :=
  let c := s.cursor
  let flow := s.flow ≠ 0
  let isolated := rest.head?.all fun d => isGap d || isBreak d
  if c.column = 0 && ch = '%' then s.directive
  else if c.column = 0 && c.atMark ['-', '-', '-'] then s.mark .documentStart
  else if c.column = 0 && c.atMark ['.', '.', '.'] then s.mark .documentEnd
  else if ch = '[' then s.openFlow .flowSequenceStart
  else if ch = '\x7b' then s.openFlow .flowMappingStart
  else if ch = ']' then s.closeFlow .flowSequenceEnd
  else if ch = '\x7d' then s.closeFlow .flowMappingEnd
  else if ch = ',' then s.flowEntry
  else if ch = '-' && isolated then s.blockEntry
  else if ch = '?' && (flow || isolated) then s.explicitKey
  else if ch = ':' && (flow || isolated) then s.value
  else if ch = '*' then
    s.name fun c => do
      let (n, c) ← Token.readAnchor c
      return (.reference n, c)
  else if ch = '&' then
    s.name fun c => do
      let (n, c) ← Token.readAnchor c
      return (.anchor n, c)
  else if ch = '!' then s.name Token.readTag
  else if ch = '|' && !flow then s.blockScalar false
  else if ch = '>' && !flow then s.blockScalar true
  else if ch = '\'' then s.quotedScalar false
  else if ch = '"' then s.quotedScalar true
  else if beginsPlain flow ch rest.head? then s.plainScalar
  else malformed "a character that begins no token"

/-- The state behind the next token, and whether that is the last one. -/
def step (s : Lexer) : Except Defect (Lexer × Bool) := do
  let s ← s.toNext.dropStale
  let s := s.closeTo s.column
  match s.cursor.rest with
  | [] => return (← s.finish, true)
  | ch :: rest => return (← s.token ch rest, false)

/-- The tokens in front of the first place where a key may still have begun. -/
def settled (s : Lexer) : List Token :=
  let begun := s.starts.filter fun e => !isStale s.cursor e.2
  s.tokens.reverse.take (begun.foldl (fun n e => min n e.2.tokens) s.count)

/-- The tokens from a state on. If the next one cannot be told, those that are settled remain. -/
def run : (bound : Nat) → Lexer → Tokens
  | 0, s => ⟨s.tokens.reverse, none⟩
  | bound + 1, s =>
    match s.step with
    | .ok (s, done) => if done then ⟨s.tokens.reverse, none⟩ else run bound s
    | .error d => ⟨s.settled, some d⟩

end Lexer

/-- The tokens of a document. One that holds a character that is not allowed has none. -/
def Tokens.ofChars (cs : List Char) : Tokens :=
  if cs.all isAllowed then Lexer.run (cs.length + 1) (Lexer.start cs)
  else ⟨[], some (.malformed "a character that no document may hold")⟩

end CHeaders.Yaml
