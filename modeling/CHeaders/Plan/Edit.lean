import CHeaders.Plan
import CHeaders.Value.Arithmetic
import CHeaders.Value.Equality

/-!
# Editing plans

A plan is built up by adding declarations and files to include, and by taking declarations out
again. The parts of a plan may hold any value, so the lists that are changed have to be lists.

## Main definitions

* `CHeaders.Plan.add`, `CHeaders.Plan.addInclude`: one more declaration or file.
* `CHeaders.Plan.takeOut`: a declaration, and the plan without it.
-/

namespace CHeaders.Plan

/-- A list with one more item. -/
def appended (v item : Value) : Except Fault Value :=
  match v with
  | .list items => .ok (.list (items ++ [item]))
  | _ => .error (.noAttribute v.kind "append")

/-- The plan with one more declaration. -/
def add (p : Plan) (term comment : Value) : Except Fault Plan := do
  let ds ← appended p.declarations (.declaration term comment)
  return { p with declarations := ds }

/-- The plan with one more file to include. -/
def addInclude (p : Plan) (file : Value) : Except Fault Plan := do
  let files ← appended p.includes file
  return { p with includes := files }

/-- The place in a list of `n` items for an index, which counts from the end if it is negative. -/
def placeOf (n : Nat) (index : Int) : Except Fault Nat :=
  if n = 0 then .error .emptyPop
  else
    let i := if index < 0 then index + n else index
    if i < 0 || (n : Int) ≤ i then .error .popRange else .ok i.toNat

/-- The place that a value means. -/
def placeIn (v : Value) : Except Fault Int :=
  match v.whole? with
  | some n => if Value.isPlace n then .ok n else .error .tooLargeForPlace
  | none => .error (.notWholeNumber v.kind)

/-- The value under a key of a mapping, and the other entries. -/
def entryOut (key : Value) (entries : List (Value × Value)) :
    Except Fault (Value × List (Value × Value)) :=
  if entries.isEmpty then .error (.missingKey key)
  else
    match key.unhashable?, entries.find? fun e => e.1.alike key with
    | some kind, _ => .error (.unhashable kind)
    | none, some e => .ok (e.2, entries.filter fun e => !e.1.alike key)
    | none, none => .error (.missingKey key)

/-- The declaration at an index, and the plan without it. Where the declarations are a mapping, it
is the one under a key. -/
def takeOut (p : Plan) (index : Value) : Except Fault (Value × Plan) :=
  match p.declarations with
  | .list items => do
    let i ← placeOf items.length (← placeIn index)
    return (items.getD i .none, { p with declarations := .list (items.eraseIdx i) })
  | .dict entries => do
    let (v, rest) ← entryOut index entries
    return (v, { p with declarations := .dict rest })
  | v => .error (.noAttribute v.kind "pop")

end CHeaders.Plan
