import CHeaders.Yaml.Tag
import CHeaders.Yaml.Token

/-!
# Nodes

A document is a table of nodes: scalars, and sequences and mappings that name their parts by their
places in the table. A node with an anchor may be named more than once, even by its own parts.

## Main definitions

* `CHeaders.Yaml.Node`: the nodes.
* `CHeaders.Yaml.Document`: a table of nodes, with the root and whether any node is named again.
* `CHeaders.Yaml.Document.ofTokens`: the document that tokens spell.
-/

namespace CHeaders.Yaml

/-- A node of a document. -/
inductive Node where
  | scalar (tag : Tag) (text : Text)
  | sequence (tag : Tag) (items : List Nat)
  | mapping (tag : Tag) (entries : List (Nat × Nat))
  deriving Repr

/-- The tag of a node. -/
def Node.tag : Node → Tag
  | scalar t _ | sequence t _ | mapping t _ => t

/-- A node with another tag. -/
def Node.withTag (tag : Tag) : Node → Node
  | scalar _ text => scalar tag text
  | sequence _ items => sequence tag items
  | mapping _ entries => mapping tag entries

/-- The entries of a node; only a mapping has some. -/
def Node.entries : Node → List (Nat × Nat)
  | mapping _ entries => entries
  | _ => []

/-- How many items or entries a node has. -/
def Node.partCount : Node → Nat
  | scalar _ _ => 0
  | sequence _ items => items.length
  | mapping _ entries => entries.length

/-- A document: its nodes, the place of the root if it is not empty, and whether a node is named
more than once. -/
structure Document where
  nodes : Array Node
  root : Option Nat
  hasReferences : Bool

/-- The state while a document is put together: the tokens that are left, what is wrong behind them,
the nodes so far, the nodes that have an anchor, and what the handles of tags stand for. -/
structure Composer where
  tokens : List Token
  defect : Option Defect
  nodes : Array Node
  anchors : List (String × Nat)
  handles : List (String × String)
  hasReferences : Bool

/-- A step in putting a document together. -/
abbrev Compose := StateT Composer (Except Defect)

namespace Compose

/-- A malformed document. -/
def malformed {α : Type} (what : String) : Compose α :=
  throw (.malformed what)

/-- The next token. Where it is needed and cannot be told, what is wrong there counts. -/
def peek : Compose Token := do
  let s ← get
  match s.tokens, s.defect with
  | t :: _, _ => return t
  | [], some d => throw d
  | [], none => return .streamEnd

/-- Leaves the next token behind. -/
def skip : Compose Unit :=
  modify fun s => { s with tokens := s.tokens.tail }

/-- Adds a node to the table. -/
def add (n : Node) : Compose Nat := do
  let s ← get
  set { s with nodes := s.nodes.push n }
  return s.nodes.size

/-- Changes a node of the table. -/
def replace (i : Nat) (n : Node) : Compose Unit :=
  modify fun s => { s with nodes := s.nodes.setIfInBounds i n }

/-- Binds an anchor, if there is one. -/
def bindAnchor (anchor : Option String) (i : Nat) : Compose Unit :=
  match anchor with
  | some a => modify fun s => { s with anchors := (a, i) :: s.anchors }
  | none => pure ()

/-- A scalar with nothing in it. -/
def empty : Compose Nat :=
  add (.scalar (Tag.ofPlain "") "")

/-- What stands in front of a node: an anchor and a tag, in either order. -/
def properties : Compose (Option String × Option (Option String × String)) := do
  match ← peek with
  | .anchor a =>
    skip
    match ← peek with
    | .tag h s =>
      skip
      return (some a, some (h, s))
    | _ => return (some a, none)
  | .tag h s =>
    skip
    match ← peek with
    | .anchor a =>
      skip
      return (some a, some (h, s))
    | _ => return (none, some (h, s))
  | _ => return (none, none)

/-- The full name of a tag; the name of the tag that stands for none is `!`. -/
def resolve (tag : Option String × String) : Compose String := do
  match tag with
  | (none, suffix) => return suffix
  | (some handle, suffix) =>
    match (← get).handles.lookup handle with
    | some uri => return uri ++ suffix
    | none => malformed "a handle that is not known"

/-- The tag of a collection. -/
def collectionTag (name : Option String) (default : Tag) : Tag :=
  match name with
  | none | some "!" => default
  | some n => Tag.ofName n

/-- The tag of a scalar: without one, a plain text is judged by its spelling. -/
def scalarTag (name : Option String) (plain : Bool) (text : Text) : Tag :=
  match name with
  | none => if plain then Tag.ofPlain text else .str
  | some "!" => Tag.ofPlain text
  | some n => Tag.ofName n

/-- The node that was named by an anchor. -/
def referTo (anchor : String) : Compose Nat := do
  let s ← get
  match s.anchors.lookup anchor with
  | some i =>
    set { s with hasReferences := true }
    return i
  | none => malformed "a reference to no anchor"

/-- Where a node stands: in a block, as the value or key of a block mapping, or in a flow
collection. -/
inductive Position where
  | block
  | entry
  | flow
  deriving DecidableEq

/-- The tokens that end an item of a sequence without marks around it. -/
def endsItem : Token → Bool
  | .blockEntry | .key | .value | .blockEnd => true
  | _ => false

/-- The tokens that end a part of an entry of a block mapping. -/
def endsEntry : Token → Bool
  | .key | .value | .blockEnd => true
  | _ => false

/-- The token that ends a flow collection. -/
def flowEnd (mapping : Bool) : Token :=
  if mapping then .flowMappingEnd else .flowSequenceEnd

mutual

/-- The node at this place. The first argument bounds the number of steps. -/
def node : (bound : Nat) → Position → Compose Nat
  | 0, _ => malformed "a document that is too deep"
  | bound + 1, position => do
    if let .reference a := ← peek then
      skip
      return ← referTo a
    let (anchor, tag) ← properties
    let name ← match tag with
      | some t => do pure (some (← resolve t))
      | none => pure none
    let next ← peek
    if let some a := anchor then
      if ((← get).anchors.lookup a).isSome then malformed "an anchor that is bound already"
    match next, position with
    | .blockEntry, .entry =>
      let i ← add (.sequence (collectionTag name .seq) [])
      bindAnchor anchor i
      let items ← plainItems bound
      replace i (.sequence (collectionTag name .seq) items)
      return i
    | .scalar text plain, _ =>
      skip
      let i ← add (.scalar (scalarTag name plain text) text)
      bindAnchor anchor i
      return i
    | .flowSequenceStart, _ =>
      skip
      let i ← add (.sequence (collectionTag name .seq) [])
      bindAnchor anchor i
      let items ← flowItems bound true
      replace i (.sequence (collectionTag name .seq) items)
      return i
    | .flowMappingStart, _ =>
      skip
      let i ← add (.mapping (collectionTag name .map) [])
      bindAnchor anchor i
      let entries ← flowEntries bound true
      replace i (.mapping (collectionTag name .map) entries)
      return i
    | .blockSequenceStart, .block | .blockSequenceStart, .entry =>
      skip
      let i ← add (.sequence (collectionTag name .seq) [])
      bindAnchor anchor i
      let items ← blockItems bound
      replace i (.sequence (collectionTag name .seq) items)
      return i
    | .blockMappingStart, .block | .blockMappingStart, .entry =>
      skip
      let i ← add (.mapping (collectionTag name .map) [])
      bindAnchor anchor i
      let entries ← blockEntries bound
      replace i (.mapping (collectionTag name .map) entries)
      return i
    | _, _ =>
      if anchor.isSome || name.isSome then
        let i ← add (.scalar (scalarTag name name.isNone "") "")
        bindAnchor anchor i
        return i
      else malformed "a node that is missing"

/-- The items of a block sequence and its end. -/
def blockItems : (bound : Nat) → Compose (List Nat)
  | 0 => malformed "a document that is too long"
  | bound + 1 => do
    match ← peek with
    | .blockEntry =>
      skip
      let item ← match ← peek with
        | .blockEntry | .blockEnd => empty
        | _ => node bound .block
      return item :: (← blockItems bound)
    | .blockEnd =>
      skip
      return []
    | _ => malformed "a block sequence that does not end"

/-- The items of a block sequence that stands at the column of the mapping around it. -/
def plainItems : (bound : Nat) → Compose (List Nat)
  | 0 => malformed "a document that is too long"
  | bound + 1 => do
    if let .blockEntry := ← peek then
      skip
      let item ← if endsItem (← peek) then empty else node bound .block
      return item :: (← plainItems bound)
    else return []

/-- The entries of a block mapping and its end. -/
def blockEntries : (bound : Nat) → Compose (List (Nat × Nat))
  | 0 => malformed "a document that is too long"
  | bound + 1 => do
    match ← peek with
    | .key =>
      skip
      let key ← if endsEntry (← peek) then empty else node bound .entry
      let value ←
        if let .value := ← peek then do
          skip
          if endsEntry (← peek) then empty else node bound .entry
        else empty
      return (key, value) :: (← blockEntries bound)
    | .blockEnd =>
      skip
      return []
    | _ => malformed "a block mapping that does not end"

/-- The part of an entry of a flow collection, which may be missing. -/
def flowPart : (bound : Nat) → (mapping : Bool) → (key : Bool) → Compose Nat
  | 0, _, _ => malformed "a document that is too deep"
  | bound + 1, mapping, key => do
    let t ← peek
    if t = .flowEntry || t = flowEnd mapping || (key && t = .value) then empty
    else node bound .flow

/-- The value of an entry of a flow collection, which may be missing with its colon. -/
def flowValue : (bound : Nat) → (mapping : Bool) → Compose Nat
  | 0, _ => malformed "a document that is too deep"
  | bound + 1, mapping => do
    if let .value := ← peek then
      skip
      flowPart bound mapping false
    else empty

/-- The items of a flow sequence and its end. An entry with a key is a mapping of its own. -/
def flowItems : (bound : Nat) → (first : Bool) → Compose (List Nat)
  | 0, _ => malformed "a document that is too long"
  | bound + 1, first => do
    if let .flowSequenceEnd := ← peek then
      skip
      return []
    if !first then
      if let .flowEntry := ← peek then skip
      else malformed "an item without a comma in front of it"
    match ← peek with
    | .flowSequenceEnd =>
      skip
      return []
    | .key =>
      skip
      let i ← add (.mapping .map [])
      let key ← flowPart bound false true
      let value ← flowValue bound false
      replace i (.mapping .map [(key, value)])
      return i :: (← flowItems bound false)
    | _ =>
      let i ← node bound .flow
      return i :: (← flowItems bound false)

/-- The entries of a flow mapping and its end. An entry without a key mark has no value. -/
def flowEntries : (bound : Nat) → (first : Bool) → Compose (List (Nat × Nat))
  | 0, _ => malformed "a document that is too long"
  | bound + 1, first => do
    if let .flowMappingEnd := ← peek then
      skip
      return []
    if !first then
      if let .flowEntry := ← peek then skip
      else malformed "an entry without a comma in front of it"
    match ← peek with
    | .flowMappingEnd =>
      skip
      return []
    | .key =>
      skip
      let key ← flowPart bound true true
      let value ← flowValue bound true
      return (key, value) :: (← flowEntries bound false)
    | _ =>
      let key ← node bound .flow
      let value ← empty
      return (key, value) :: (← flowEntries bound false)

end

/-- The handles that every document knows. -/
def knownHandles : List (String × String) :=
  [("!", "!"), ("!!", Tag.home)]

/-- The directives in front of a document, each of which may be given once. -/
def directives : (bound : Nat) → (versioned : Bool) → (handles : List (String × String)) →
    Compose (List (String × String))
  | 0, _, handles => pure handles
  | bound + 1, versioned, handles => do
    match ← peek with
    | .version major =>
      skip
      if versioned then malformed "a second version"
      else if major ≠ 1 then malformed "a version that is not known"
      else directives bound true handles
    | .handle name uri =>
      skip
      if (handles.lookup name).isSome then malformed "a handle that is bound already"
      else directives bound versioned ((name, uri) :: handles)
    | .otherDirective =>
      skip
      directives bound versioned handles
    | _ => pure handles

/-- The root behind the mark of a document; there may be none. -/
def content (bound : Nat) : Compose Nat := do
  match ← peek with
  | .version _ | .handle _ _ | .otherDirective | .documentStart | .documentEnd | .streamEnd =>
    empty
  | _ => node bound .block

/-- The root of the document, if there is one. -/
def root (bound : Nat) : Compose (Option Nat) := do
  match ← peek with
  | .streamEnd => return none
  | .version _ | .handle _ _ | .otherDirective | .documentStart =>
    let handles ← directives bound false []
    modify fun s => { s with handles := handles ++ knownHandles }
    match ← peek with
    | .documentStart =>
      skip
      return some (← content bound)
    | _ => malformed "directives without a document"
  | _ =>
    modify fun s => { s with handles := knownHandles }
    return some (← node bound .block)

/-- The end behind the root. Nothing but marks of the end of a document may stand in front of it. -/
def finish : (bound : Nat) → Compose Unit
  | 0 => malformed "a document that is too long"
  | bound + 1 => do
    match ← peek with
    | .streamEnd => return ()
    | .documentEnd =>
      skip
      finish bound
    | _ =>
      let _ ← directives bound false []
      malformed "a second document"

/-- The root of the only document, if there is one. -/
def single (bound : Nat) : Compose (Option Nat) := do
  let i ← root bound
  finish bound
  return i

end Compose

/-- The document that tokens spell. -/
def Document.ofTokens (ts : Tokens) : Except Defect Document := do
  let start : Composer := ⟨ts.list, ts.defect, #[], [], [], false⟩
  let (root, s) ← (Compose.single (2 * ts.list.length + 4)).run start
  return ⟨s.nodes, root, s.hasReferences⟩

end CHeaders.Yaml
