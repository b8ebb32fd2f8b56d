import CHeaders.Value.SetOrder
import CHeaders.Yaml.Content
import CHeaders.Yaml.Lexer
import CHeaders.Yaml.Node

/-!
# Reading YAML

A document is lexed, put together as a table of nodes, and then turned into a value. The nodes are
visited level by level from the root, and the first one that has no value decides the defect. A
mapping takes in the entries of the mappings it is merged with, and its own entries win.

A document in which nodes are named again yields marked containers and moments, so that it can be
told which of them are one and the same.

A document that is given as bytes is in UTF-16 if it begins with the byte order mark of that, and in
UTF-8 otherwise. The mark is the first character of the document; it does not belong to what the
document says.

## Main definitions

* `CHeaders.Yaml.Reader.visitAll`: the check of all nodes, level by level.
* `CHeaders.Yaml.Reader.assemble`: the value of a node that has been checked.
* `CHeaders.Yaml.parse`: the value that a document holds.
* `CHeaders.Yaml.decode`: the text of a document that is given as bytes.
-/

namespace CHeaders.Yaml

/-- The state while nodes are visited: the nodes, how many parts they had at first, which of them
have been seen, the values of the scalars among them, and the collections that are to be looked
into, the last one first. -/
structure Reader where
  nodes : Array Node
  partCount : Nat
  seen : Array Bool
  scalars : Array Value
  waiting : List Nat

/-- A step in visiting nodes. -/
abbrev Visit := StateT Reader (Except Defect)

namespace Reader

/-- A malformed document. -/
def malformed {α : Type} (what : String) : Visit α :=
  throw (.malformed what)

/-- The node at a place of the table. -/
def nodeAt (i : Nat) : Visit Node := do
  return ((← get).nodes[i]?).getD (.scalar .null "")

/-- The entries of a node that is a mapping. -/
def entriesAt (i : Nat) : Visit (List (Nat × Nat)) := do
  return (← nodeAt i).entries

/-- Changes the entries of a mapping. -/
def setEntries (i : Nat) (entries : List (Nat × Nat)) : Visit Unit := do
  match ← nodeAt i with
  | .mapping tag _ =>
    modify fun s => { s with nodes := s.nodes.setIfInBounds i (.mapping tag entries) }
  | _ => return ()

/-- A key that stands for the value of its mapping is an ordinary text where entries are read. -/
def plainKey (i : Nat) : Visit Unit := do
  let key ← nodeAt i
  if key.tag = .value then
    modify fun s => { s with nodes := s.nodes.setIfInBounds i (.withTag .str key) }

/-- Whether a node is a mapping. -/
def isMapping (i : Nat) : Visit Bool := do
  match ← nodeAt i with
  | .mapping _ _ => return true
  | _ => return false

/-- How many entries stand in front of the first one that is a merge. The keys among them that
stand for values become ordinary. -/
def passOrdinary : List (Nat × Nat) → Visit Nat
  | [] => return 0
  | (key, _) :: rest => do
    if (← nodeAt key).tag = .merge then return 0
    plainKey key
    return (← passOrdinary rest) + 1

/-- Takes the entries of the mappings that a mapping is merged with in front of its own. Of several
mappings in a list the first one wins. The merges are looked for from the entry `index` on, and each
is given up before its mapping is looked into, which may be the one that it stands in; `taken` are
the entries that have been taken in. -/
def flatten : (bound : Nat) → (index : Nat) → (taken : List (Nat × Nat)) → Nat → Visit Unit
  | 0, _, _, _ => return ()
  | bound + 1, index, taken, i => do
    let index := index + (← passOrdinary ((← entriesAt i).drop index))
    let entries ← entriesAt i
    match entries[index]? with
    | none => setEntries i (taken ++ entries)
    | some (_, j) =>
      setEntries i (entries.eraseIdx index)
      let more ← match ← nodeAt j with
        | .mapping _ _ =>
          flatten bound 0 [] j
          entriesAt j
        | .sequence _ items =>
          let parts ← items.mapM fun j => do
            if ← isMapping j then
              flatten bound 0 [] j
              entriesAt j
            else malformed "a merge with what is no mapping"
          pure parts.reverse.flatten
        | .scalar _ _ => malformed "a merge with what is no mapping"
      flatten bound index (taken ++ more) i

/-- The text of a node that has to be a scalar. A mapping stands for the scalar that its value key
names. -/
def textOf : (bound : Nat) → Nat → Visit Text
  | 0, _ => malformed "a mapping where a scalar is wanted"
  | bound + 1, i => do
    match ← nodeAt i with
    | .scalar _ text => return text
    | .sequence _ _ => malformed "a sequence where a scalar is wanted"
    | .mapping _ entries =>
      let tagged ← entries.mapM fun e => do
        let key ← nodeAt e.1
        pure (decide (key.tag = .value), e.2)
      match tagged.find? fun e => e.1 with
      | some (_, j) => textOf bound j
      | none => malformed "a mapping where a scalar is wanted"

/-- Whether nodes with the tag are looked into later than they are visited. -/
def isCollection : Tag → Bool
  | .seq | .map | .omap | .pairs | .set => true
  | _ => false

/-- The value of a node that is no collection. A mapping may stand for a scalar, but its entries are
no timestamp. -/
def scalarValue (i : Nat) (tag : Tag) : Visit Value := do
  let text ← textOf ((← get).nodes.size + 1) i
  if tag = .timestamp && (← isMapping i) then throw (.value (.notSubject "list"))
  match Content.scalar? tag text with
  | some (.ok v) => return v
  | some (.error d) => throw d
  | none => malformed "a tag that has no values"

/-- Visits a node: a scalar gets its value, and a collection has to wait. -/
def visit (i : Nat) : Visit Unit := do
  if (← get).seen.getD i true then return ()
  modify fun s => { s with seen := s.seen.setIfInBounds i true }
  let tag := (← nodeAt i).tag
  if isCollection tag then
    modify fun s => { s with waiting := i :: s.waiting }
  else
    let v ← scalarValue i tag
    modify fun s => { s with scalars := s.scalars.setIfInBounds i v }

/-- Visits the keys and the values of entries. A collection is no key. -/
def visitEntries (entries : List (Nat × Nat)) : Visit Unit :=
  entries.forM fun e => do
    visit e.1
    if isCollection (← nodeAt e.1).tag then malformed "a key that is a collection"
    visit e.2

/-- Visits the parts of an item of a list of pairs. -/
def visitPair (i : Nat) : Visit Unit := do
  match ← nodeAt i with
  | .mapping _ [(key, value)] =>
    visit key
    visit value
  | _ => malformed "an item that is no pair"

/-- Looks into a collection: what it is has to fit its tag. -/
def expand (i : Nat) : Visit Unit := do
  match ← nodeAt i with
  | .sequence .seq items => items.forM visit
  | .sequence .omap items | .sequence .pairs items => items.forM visitPair
  | .mapping .map _ | .mapping .set _ =>
    flatten (2 * (← get).partCount + 1) 0 [] i
    visitEntries (← entriesAt i)
  | _ => malformed "a collection of another kind than its tag says"

/-- Looks into the collections that wait, level by level. -/
def visitAll : (bound : Nat) → Visit Unit
  | 0 => return ()
  | bound + 1 => do
    let level := (← get).waiting.reverse
    if level.isEmpty then return ()
    modify fun s => { s with waiting := [] }
    level.forM expand
    visitAll bound

/-- A value with the mark of its node, if marks are wanted. -/
def marked (marks : Bool) (i : Nat) (v : Value) : Value :=
  if marks then .shared i v else v

/-- The value of a scalar that has been visited. Of scalars only moments are marked. -/
def scalarAt (s : Reader) (marks : Bool) (i : Nat) : Value :=
  match s.scalars.getD i .none with
  | .moment m => marked marks i (.moment m)
  | v => v

/-- The parts of an item of a list of pairs. -/
def pairAt (s : Reader) (i : Nat) : List Nat :=
  match s.nodes[i]? with
  | some (.mapping _ [(key, value)]) => [key, value]
  | _ => []

/-- The mark of the `k`th item of a list of pairs, which no node has. -/
def pairMark (s : Reader) (i k : Nat) : Nat :=
  s.nodes.size + i * s.partCount + k

/-- The value of a node. `path` holds the collections around it, in which it may stand itself. -/
def assemble (s : Reader) (marks : Bool) : (bound : Nat) → (path : List Nat) → Nat → Value
  | 0, _, _ => .none
  | bound + 1, path, i =>
    let part := assemble s marks bound (i :: path)
    match s.nodes[i]? with
    | some (.sequence .seq items) =>
      if path.contains i then .cycle i .list else marked marks i (.list (items.map part))
    | some (.sequence _ items) =>
      if path.contains i then .cycle i .list
      else
        marked marks i (.list (items.mapIdx fun k j =>
          marked marks (s.pairMark i k) (.tuple ((s.pairAt j).map part))))
    | some (.mapping .map entries) =>
      if path.contains i then .cycle i .dict
      else
        marked marks i
          (Value.ofEntries (entries.map fun e => (s.scalarAt marks e.1, part e.2)))
    | some (.mapping .set entries) =>
      let unique := Value.ofEntries (entries.map fun e => (s.scalarAt marks e.1, .none))
      marked marks i (.set (Value.setOrder ((unique.items?).getD [])))
    | _ => s.scalarAt marks i

end Reader

/-- How many items and entries the collections of a document have. -/
def Document.partCount (d : Document) : Nat :=
  d.nodes.foldl (fun n node => n + node.partCount) 0

/-- The value of a document; an empty one is worth nothing. -/
def Document.value (d : Document) : Except Defect Value :=
  match d.root with
  | none => .ok .none
  | some root => do
    let n := d.nodes.size
    let start : Reader :=
      ⟨d.nodes, d.partCount, Array.replicate n false, Array.replicate n .none, []⟩
    let (_, s) ← (do Reader.visit root; Reader.visitAll (n + 1) : Visit Unit).run start
    return s.assemble d.hasReferences (n + 1) [] root

/-- The value that the characters of a document spell. -/
def parseChars (cs : List Char) : Except Defect Value := do
  let d ← Document.ofTokens (Tokens.ofChars cs)
  d.value

/-- The value that a document holds. Halves of pairs are not allowed in one. -/
def parse (t : Text) : Except Defect Value :=
  match t.chars? with
  | some cs => parseChars cs
  | none => Token.malformed "a character that is not allowed"

/-! ## Documents in bytes -/

/-- The text of a document that is given as bytes. -/
def decode (bytes : List UInt8) : Except Text.Encoding.Fault Text :=
  match bytes with
  | 0xFF :: 0xFE :: _ => Text.Utf16.decode .little false 0 bytes
  | 0xFE :: 0xFF :: _ => Text.Utf16.decode .big false 0 bytes
  | _ => Text.Utf8.decode false bytes

end CHeaders.Yaml
