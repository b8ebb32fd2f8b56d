import CHeaders.Plan
import CHeaders.Value.Arithmetic

/-!
# An example

The plan of a small header for geometry: a point with any number of coordinates, a value without a
tag, and the kinds of shapes.

## Main definitions

* `CHeaders.Plan.geometry`: the example.
-/

namespace CHeaders.Plan

/-- A call whose arguments are a list. -/
def callOf (op : String) (args : List Value) : Value :=
  .call (.text op) (.list args)

/-- A list of texts. -/
def textList (xs : List Text) : Value :=
  .list (xs.map Value.text)

/-- The length of the longest list that there is room for. -/
def mostItems : Nat :=
  1 <<< 36

/-- The number of times that a list with one item is repeated; a negative one is none. -/
def repetitions (v : Value) : Except Fault Nat :=
  match v.whole? with
  | some n =>
    if !Value.isPlace n then .error .tooLargeForLength
    else if (mostItems : Int) < n then .error .tooLong
    else .ok n.toNat
  | none => .error (.notCount v.kind)

/-- The example with the given number of coordinates. -/
def geometry (coordinates : Value) : Except Fault Plan := do
  let n ← repetitions coordinates
  let types := textList (List.replicate n "double")
  let point := callOf "typedef"
    [.text "Point", callOf "struct" [.text "Point", callOf "indexedFields" [types]]]
  let value := callOf "typedef"
    [.text "Value",
      callOf "anonUnion" [callOf "indexedFields" [textList ["int", "double", "const char *"]]]]
  let shape := callOf "enum" [.text "Shape", .text "SHAPE_CIRCLE, SHAPE_SQUARE"]
  let declarations : List Value :=
    [.declaration point (.text ("Point with " ++ coordinates.display ++ " coordinates")),
      .declaration value (.text "Untagged value"),
      .declaration shape (.text "Shape kinds")]
  return ⟨.text "geometry", .list declarations, .text "GEOMETRY_H", textList ["stddef.h"]⟩

end CHeaders.Plan
