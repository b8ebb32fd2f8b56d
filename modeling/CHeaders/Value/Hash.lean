import CHeaders.Value.Equality

/-!
# Hashes of values

A set keeps its elements by their hashes. The hash of a tuple is made of the hashes of its items,
and so is that of a record of fixed parts. The hash of a chain is that of a pair: the tuple of its
heads, and its end, both found by a walk along the cells. What can change has no hash, and neither
has what it is a part of.

The hashes of numbers, texts and other leaves, and the way in which those of a tuple are put
together, are those of a given `Hashing`.

## Main definitions

* `CHeaders.Hashing`: the hashes of leaves and tuples.
* `CHeaders.Hashing.walk`: the hashes of the heads of a chain and of its end.
* `CHeaders.Hashing.hash`: the hash of a value.
* `CHeaders.Hashing.distinctCount`: how many elements a set of two values has.
-/

namespace CHeaders

/-- The hashes of leaves, and the hash of a tuple from those of its items. -/
structure Hashing (κ : Type) where
  leaf : Value → κ
  tuple : List κ → κ

namespace Hashing

variable {κ : Type} (H : Hashing κ)

/-- The hash of a chain from those of its heads and of its end. What has no heads is its own end. -/
def close : List κ × κ → κ
  | ([], last) => last
  | (heads, last) => H.tuple [H.tuple heads, last]

/-- What a walk finds in a cell, from what it finds in the head and in the tail. -/
def ofCell (head tail : Except String (List κ × κ)) : Except String (List κ × κ) := do
  let x ← head
  let (xs, last) ← tail
  return (H.close x :: xs, last)

/-- What a walk finds in a value that is hashed like the tuple of its parts, from what it finds in
the parts. -/
def ofParts (parts : List (Except String (List κ × κ))) : Except String (List κ × κ) := do
  let xs ← parts.mapM fun part => part.map H.close
  return ([], H.tuple xs)

mutual

/-- The hashes of the heads of a chain and of its end, or the kind of the first part that has no
hash. -/
def walk : Value → Except String (List κ × κ)
  | .shared _ v => walk v
  | .cons head tail => H.ofCell (walk head) (walk tail)
  | .tuple xs => H.ofParts (walkAll xs)
  | .call op args => H.ofParts [walk op, walk args]
  | .step fragment args => H.ofParts [walk fragment, walk args]
  | .position line column file => H.ofParts [walk line, walk column, walk file]
  | .symbolKey stem id place => H.ofParts [walk stem, walk id, walk place]
  | .list _ => .error "list"
  | .dict _ => .error "dict"
  | .set _ => .error "set"
  | .declaration _ _ => .error "Declaration"
  | .plan _ _ _ _ => .error "Plan"
  | .cycle _ shape => .error shape.kind
  | v => .ok ([], H.leaf v)

/-- The same for several values. -/
def walkAll : List Value → List (Except String (List κ × κ))
  | [] => []
  | x :: xs => walk x :: walkAll xs

end

/-- The hash of a value, or the kind of the first part that has none. -/
def hash (v : Value) : Except String κ :=
  (H.walk v).map H.close

/-- How many elements the set of two values has: they are one element if their hashes are the same
and they are alike. -/
def distinctCount [DecidableEq κ] (v w : Value) : Except String Nat := do
  let x ← H.hash v
  let y ← H.hash w
  return if x = y ∧ v.alike w = true then 1 else 2

end Hashing

end CHeaders
