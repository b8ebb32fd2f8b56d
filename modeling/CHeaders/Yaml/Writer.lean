import CHeaders.Fault
import CHeaders.Text.Notation
import CHeaders.Yaml.Pen

/-!
# Writing YAML

A document is written as a block, with the entries of a mapping in their own order. Collections
with nothing in them are written as pairs of brackets. A marked value that stands in more than one
place is written once, under an anchor, and named elsewhere. Values that have no form in the
language are refused before anything is written.

## Main definitions

* `CHeaders.Yaml.check`: whether a value has a form.
* `CHeaders.Yaml.repeated`: the marks that need an anchor.
* `CHeaders.Yaml.write`: the written form of a document.
-/

namespace CHeaders.Yaml

/-! ## Which values have a form -/

mutual

/-- The first part of a value that has no form is refused, and so is a number with too many
digits. -/
def check : Value → Except Fault Unit
  | .none | .bool _ | .real _ | .text _ | .bytes _ | .moment _ | .cycle _ _ => .ok ()
  | .int n => Fault.whenShown [.int n] (.ok ())
  | .list items | .tuple items | .set items => checkAll items
  | .dict entries => checkEntries entries
  | .shared _ v => check v
  | v => .error (.notYaml v)

/-- The same for several values. -/
def checkAll : List Value → Except Fault Unit
  | [] => .ok ()
  | v :: vs => do
    check v
    checkAll vs

/-- The same for entries. -/
def checkEntries : List (Value × Value) → Except Fault Unit
  | [] => .ok ()
  | (k, v) :: es => do
    check k
    check v
    checkEntries es

end

/-! ## Which values need an anchor -/

/-- The marks met so far, and those that were met again, in that order and the last one first. -/
structure Marks where
  met : List Nat
  again : List Nat

/-- The marks after one that is met again. -/
def Marks.repeat (m : Marks) (mark : Nat) : Marks :=
  if m.again.contains mark then m else { m with again := mark :: m.again }

mutual

/-- The marks after going through a value. What is met again is not gone through again. -/
def meet : Value → Marks → Marks
  | .shared mark v, m =>
    if m.met.contains mark then m.repeat mark else meet v { m with met := mark :: m.met }
  | .cycle mark _, m => m.repeat mark
  | .list items, m | .tuple items, m | .set items, m => meetAll items m
  | .dict entries, m => meetEntries entries m
  | _, m => m

/-- The marks after going through several values. -/
def meetAll : List Value → Marks → Marks
  | [], m => m
  | v :: vs, m => meetAll vs (meet v m)

/-- The marks after going through entries. -/
def meetEntries : List (Value × Value) → Marks → Marks
  | [], m => m
  | (k, v) :: es, m => meetEntries es (meet v (meet k m))

end

/-- The marks that need an anchor, in the order of their numbers. -/
def repeated (v : Value) : List Nat :=
  (meet v ⟨[], []⟩).again.reverse

/-- The name of the anchor with a number. -/
def anchorName (n : Nat) : String :=
  let ds := Decimal.digits n
  "id" ++ String.ofList (List.replicate (3 - ds.length) '0' ++ ds)

/-! ## Scalars -/

/-- Reals always have a point, and infinities and what is no number begin with one. -/
def layout : Shortest.Layout :=
  { Shortest.plain with pointed := true, infinity := ".inf", notANumber := ".nan" }

/-- The tag and the text of a value that is no collection. -/
def scalarOf : Value → Tag × Text
  | .none => (.null, "null")
  | .bool b => (.bool, if b then "true" else "false")
  | .int n => (.int, Decimal.ofInt n)
  | .real x => (.float, x.text layout)
  | .text t | .fragment t => (.str, t)
  | .bytes bs => (.binary, Text.Base64.encodeLines bs)
  | .moment m => (.timestamp, m.text)
  | _ => (.null, "null")

/-! ## Nodes -/

/-- Where a node stands. -/
inductive Place where
  /-- At the root or as an item. -/
  | item
  /-- As a part of an entry of a mapping. -/
  | entry
  /-- As a key in front of its colon. -/
  | key
  deriving DecidableEq

/-- The state while nodes are written: the pen, and the marks that have their anchor already. -/
structure Sheet where
  pen : Pen
  anchored : List Nat

/-- The state with another pen. -/
def Sheet.withPen (s : Sheet) (f : Pen → Pen) : Sheet :=
  { s with pen := f s.pen }

/-- The column of the texts in a node that stands at `indent`; there is none at the root. -/
def textIndent (indent : Option Nat) : Nat :=
  match indent with
  | some n => n + 2
  | none => 2

/-- The column of the parts of a block. A sequence right behind a key stands at the column of the
key. -/
def blockIndent (indent : Option Nat) (flush : Bool) : Nat :=
  match indent with
  | some n => if flush then n else n + 2
  | none => 0

/-- Writes an anchor, if there is one. -/
def writeAnchor (anchor : Option String) (p : Pen) : Pen :=
  match anchor with
  | some a => p.indicator ("&" ++ a) true false false
  | none => p

/-- Writes a tag where the node would not get it by itself. -/
def writeTag (tag : Tag) (shown : Bool) (p : Pen) : Pen :=
  if shown then p.indicator tag.short true false false else p

/-- Writes a scalar. -/
def writeScalar (place : Place) (indent : Option Nat) (v : Value) (p : Pen) : Pen :=
  let (tag, text) := scalarOf v
  let isKey := place = .key
  let style := Style.choose tag text isKey
  (writeTag tag (style.showsTag tag text) p).scalar style text isKey (textIndent indent)

/-- Writes a pair of brackets. -/
def writeEmpty (left right : String) (p : Pen) : Pen :=
  (p.indicator left true true false).indicator right false false false

/-- The length of a key with its anchor and its tag. -/
def keyLength (anchor : Option String) (v : Value) : Nat :=
  let (tag, text) := scalarOf v
  (anchor.elim 0 String.length) + tag.short.length + text.length

/-- Whether a value may stand as a key in front of its colon: it is short, and written in one
line. -/
def isSimpleKey (anchor : Option String) (v : Value) : Bool :=
  match v with
  | .list items | .tuple items => items.isEmpty
  | .dict _ | .set _ => false
  | _ =>
    let text := (scalarOf v).2
    let t := Traits.ofText text
    !t.isEmpty && !t.multiline && decide (keyLength anchor v < 128)

/-- The name of the anchor for a mark, if it needs one. -/
def anchorFor (names : List Nat) (mark : Nat) : Option String :=
  (names.idxOf? mark).map fun i => anchorName (i + 1)

/-- Whether a key is written in front of its colon. A name of an anchor always is. -/
def keyIsSimple (names : List Nat) (s : Sheet) : Value → Bool
  | .cycle _ _ => true
  | .shared mark v =>
    if s.anchored.contains mark then true
    else
      match v with
      | .shared _ _ => false
      | v => isSimpleKey (anchorFor names mark) v
  | v => isSimpleKey none v

mutual

/-- Writes a node. `names` are the marks that need an anchor. -/
def writeNode (names : List Nat) (place : Place) (indent : Option Nat) (anchor : Option String) :
    Value → Sheet → Sheet
  | .shared mark v, s =>
    if s.anchored.contains mark then
      s.withPen fun p => p.indicator ("*" ++ (anchorFor names mark).getD "") true false false
    else
      match anchorFor names mark with
      | some a =>
        writeNode names place indent (some a) v { s with anchored := mark :: s.anchored }
      | none => writeNode names place indent anchor v s
  | .cycle mark _, s =>
    s.withPen fun p => p.indicator ("*" ++ (anchorFor names mark).getD "") true false false
  | .list [], s | .tuple [], s =>
    s.withPen fun p => writeEmpty "[" "]" (writeAnchor anchor p)
  | .list items, s | .tuple items, s =>
    let s := s.withPen (writeAnchor anchor)
    writeItems names (blockIndent indent (place = .entry && !s.pen.indented)) items s
  | .dict [], s => s.withPen fun p => writeEmpty "\x7b" "\x7d" (writeAnchor anchor p)
  | .dict entries, s =>
    writeEntries names (blockIndent indent false) entries (s.withPen (writeAnchor anchor))
  | .set [], s =>
    s.withPen fun p => writeEmpty "\x7b" "\x7d" (writeTag .set true (writeAnchor anchor p))
  | .set items, s =>
    writeMembers names (blockIndent indent false) items
      (s.withPen fun p => writeTag .set true (writeAnchor anchor p))
  | v, s => s.withPen fun p => writeScalar place indent v (writeAnchor anchor p)

/-- Writes the items of a sequence at a column. -/
def writeItems (names : List Nat) (column : Nat) : List Value → Sheet → Sheet
  | [], s => s
  | v :: vs, s =>
    let s := s.withPen fun p => (p.indentTo column).indicator "-" true false true
    writeItems names column vs (writeNode names .item (some column) none v s)

/-- Writes the entries of a mapping at a column. -/
def writeEntries (names : List Nat) (column : Nat) : List (Value × Value) → Sheet → Sheet
  | [], s => s
  | (k, v) :: es, s =>
    let s := s.withPen fun p => p.indentTo column
    let s :=
      if keyIsSimple names s k then
        (writeNode names .key (some column) none k s).withPen fun p =>
          p.indicator ":" false false false
      else
        (writeNode names .entry (some column) none k
          (s.withPen fun p => p.indicator "?" true false true)).withPen fun p =>
            (p.indentTo column).indicator ":" true false true
    writeEntries names column es (writeNode names .entry (some column) none v s)

/-- Writes the members of a set at a column, as keys with nothing behind them. -/
def writeMembers (names : List Nat) (column : Nat) : List Value → Sheet → Sheet
  | [], s => s
  | k :: ks, s =>
    let s := s.withPen fun p => p.indentTo column
    let s :=
      if keyIsSimple names s k then
        (writeNode names .key (some column) none k s).withPen fun p =>
          p.indicator ":" false false false
      else
        (writeNode names .entry (some column) none k
          (s.withPen fun p => p.indicator "?" true false true)).withPen fun p =>
            (p.indentTo column).indicator ":" true false true
    writeMembers names column ks
      (s.withPen fun p => writeScalar .entry (some column) .none p)

end

/-- The written form of a document. -/
def write (v : Value) : Except Fault String := do
  check v
  let s := writeNode (repeated v) .item none none v ⟨Pen.blank, []⟩
  return (s.pen.indentTo 0).out

end CHeaders.Yaml
