import CHeaders.Value

/-!
# Values that hold themselves

A list or a mapping may hold itself, at any depth. Such a value is a tree that is cut where it would
begin again: a cycle stands there, with the mark of the collection around it. A part of such a value
may be cut where the collection that begins again is no longer around it. To stand on its own, the
part takes in that collection, up to where a collection begins again.

## Main definitions

* `CHeaders.Value.isCut`: whether a cycle stands in a value.
* `CHeaders.Value.marked`: the marked values in a value.
* `CHeaders.Value.within`: a part of a value on its own.

## Main results

* `CHeaders.Value.within_of_not_isCut`: a part without cycles stands on its own as it is.
-/

namespace CHeaders.Value

mutual

/-- Whether a cycle stands in a value. -/
def isCut : Value → Bool
  | cycle _ _ => true
  | shared _ v => v.isCut
  | list xs | tuple xs | set xs => anyCut xs
  | dict es => entriesCut es
  | _ => false

/-- Whether a cycle stands in one of several values. -/
def anyCut : List Value → Bool
  | [] => false
  | x :: xs => x.isCut || anyCut xs

/-- Whether a cycle stands in a key or a value of a mapping. -/
def entriesCut : List (Value × Value) → Bool
  | [] => false
  | (k, v) :: es => k.isCut || v.isCut || entriesCut es

end

mutual

/-- The marked values in a value, with their marks. -/
def marked : Value → List (Nat × Value)
  | shared mark v => (mark, v) :: v.marked
  | list xs | tuple xs | set xs => allMarked xs
  | dict es => entriesMarked es
  | _ => []

/-- The marked values in several values. -/
def allMarked : List Value → List (Nat × Value)
  | [] => []
  | x :: xs => x.marked ++ allMarked xs

/-- The marked values in the entries of a mapping. -/
def entriesMarked : List (Value × Value) → List (Nat × Value)
  | [] => []
  | (k, v) :: es => k.marked ++ v.marked ++ entriesMarked es

end

/-- The shape of a collection that may hold itself. -/
def shape? : Value → Option Shape
  | list _ => some .list
  | tuple _ => some .tuple
  | dict _ => some .dict
  | _ => Option.none

mutual

/-- A value inside the collections whose marks are in `path`: it is cut where one of them begins
again, and `back` says what stands for a cycle that goes beyond them. -/
def recut (back : List Nat → Nat → Shape → Value) (path : List Nat) : Value → Value
  | shared mark v =>
    match path.contains mark, v.shape? with
    | true, some shape => cycle mark shape
    | _, _ => shared mark (recut back (mark :: path) v)
  | cycle mark shape => if path.contains mark then cycle mark shape else back path mark shape
  | list xs => list (recutAll back path xs)
  | tuple xs => tuple (recutAll back path xs)
  | dict es => dict (recutEntries back path es)
  | v => v

/-- The same for several values. -/
def recutAll (back : List Nat → Nat → Shape → Value) (path : List Nat) : List Value → List Value
  | [] => []
  | x :: xs => recut back path x :: recutAll back path xs

/-- The same for the entries of a mapping, whose keys hold nothing. -/
def recutEntries (back : List Nat → Nat → Shape → Value) (path : List Nat) :
    List (Value × Value) → List (Value × Value)
  | [] => []
  | (k, v) :: es => (k, recut back path v) :: recutEntries back path es

end

/-- What stands for a cycle beyond the collections in `path`: the collection with its mark, if it is
known. The first argument bounds how many are taken in one inside the other. -/
def takeIn (known : List (Nat × Value)) :
    (bound : Nat) → (path : List Nat) → (mark : Nat) → Shape → Value
  | 0, _, mark, shape => cycle mark shape
  | bound + 1, path, mark, shape =>
    match known.lookup mark with
    | some v => shared mark (recut (takeIn known bound) (mark :: path) v)
    | Option.none => cycle mark shape

/-- A part of the value `whole` on its own. -/
def within (part whole : Value) : Value :=
  if part.isCut then
    let known := whole.marked
    recut (takeIn known known.length) [] part
  else part

/-- A part without cycles stands on its own as it is. -/
theorem within_of_not_isCut {part : Value} (h : part.isCut = false) (whole : Value) :
    part.within whole = part := by
  simp [within, h]

end CHeaders.Value
