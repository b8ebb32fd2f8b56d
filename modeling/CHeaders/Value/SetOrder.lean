import CHeaders.Value.Equality

/-!
# The order of sets

A set keeps its items in a table of places, and is gone through from the first place to the last.
The number of places is a power of two, with room to spare. A number has a hash, the residue of the
number to a prime; the lowest bits of the hash say at which place it is looked for first, and the
next ones where it is looked for when the places there are taken. So a set of small numbers is gone
through in increasing order.

Other values have no hash that could be relied on. A set with one of them keeps the order in which
its items were named.

## Main definitions

* `CHeaders.Value.hash?`: the hash of a number.
* `CHeaders.Value.setOrder`: the items of a set in the order of their places.
-/

namespace CHeaders.Value

/-- The prime to which residues are taken, the greatest of 61 bits. -/
def hashModulus : Nat :=
  (1 <<< 61) - 1

/-- The number of words of 64 bits. -/
def wordCount : Nat :=
  1 <<< 64

/-- A residue with its sign as a word. Minus one is set aside and gives way to minus two. -/
def signedHash (negative : Bool) (residue : Nat) : Nat :=
  if !negative || residue = 0 then residue
  else wordCount - (if residue = 1 then 2 else residue)

/-- The hash of an infinity. -/
def infinityHash : Nat := 314159

/-- The hash of a number. A dyadic number has a residue because two has an inverse. -/
def hash? : Value → Option Nat
  | bool b => some (if b then 1 else 0)
  | int n => some (signedHash (n < 0) (n.natAbs % hashModulus))
  | real (.finite negative m e) =>
    some (signedHash negative (m * twoTo (e % 61).toNat % hashModulus))
  | real (.infinite negative) => some (signedHash negative infinityHash)
  | _ => Option.none

/-- A table of places, some of them taken. -/
abbrev Places := Array (Option Value)

/-- How many places beside the first one are looked at in a row. -/
def rowLength : Nat := 9

/-- The first free place of `count` places from `i` on. -/
def freeIn (places : Places) (i count : Nat) : Option Nat :=
  (List.range count).findSome? fun k =>
    match places[i + k]? with
    | some Option.none => some (i + k)
    | _ => Option.none

/-- The place for a hash of which `rest` is left: a free one in the row at `i`, or in the row to
which the next bits lead. No row goes over the end of the table. -/
def freePlace (places : Places) : (bound : Nat) → (i rest : Nat) → Nat
  | 0, i, _ => i
  | bound + 1, i, rest =>
    let count := if i + rowLength < places.size then rowLength + 1 else 1
    match freeIn places i count with
    | some k => k
    | Option.none =>
      let rest := rest >>> 5
      freePlace places bound ((i * 5 + 1 + rest) % places.size) rest

/-- The table with one more item. -/
def putItem (places : Places) (item : Nat × Value) : Places :=
  let i := freePlace places (places.size + 13) (item.1 % places.size) item.1
  places.setIfInBounds i (some item.2)

/-- The least power of two that is greater than `n` and at least `size`. -/
def placesAbove (n : Nat) : (bound : Nat) → (size : Nat) → Nat
  | 0, size => size
  | bound + 1, size => if n < size then size else placesAbove n bound (2 * size)

/-- The number of places for `n` items. -/
def placeCount (n : Nat) : Nat :=
  if n < 5 then 8 else placesAbove (2 * n) n 8

/-- An item with its hash. -/
def hashed? (v : Value) : Option (Nat × Value) :=
  v.hash?.map fun h => (h, v)

/-- The items of a set in the order of their places. -/
def setOrder (items : List Value) : List Value :=
  match items.mapM hashed? with
  | some hashed =>
    let empty : Places := Array.replicate (placeCount items.length) Option.none
    (hashed.foldl putItem empty).toList.filterMap id
  | Option.none => items

end CHeaders.Value
