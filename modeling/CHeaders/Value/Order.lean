import CHeaders.Fault
import CHeaders.Value.Equality

/-!
# The order of values

Numbers are ordered as numbers, texts by their code points, byte strings by their bytes, lists
and tuples by the first items that differ. Other pairs of values have no order, and sorting a
list with such a pair fails with the first pair that is compared.

## Main definitions

* `CHeaders.Value.less`: whether one value comes before another.
* `CHeaders.Value.sortBy`: a list in increasing order of a key.
-/

namespace CHeaders.Value

/-- Whether one number is less than another. -/
def Number.less : Number → Number → Bool
  | .exact a, .exact b => decide (a < b)
  | .infinite a, .infinite b => a && !b
  | .infinite a, .exact _ => a
  | .exact _, .infinite b => !b

/-- Whether a list of numbers comes before another one, item by item. -/
def bytesLess : List UInt8 → List UInt8 → Bool
  | [], [] => false
  | [], _ :: _ => true
  | _ :: _, [] => false
  | a :: as, b :: bs => a < b || (a == b && bytesLess as bs)

/-- Whether a value is a number of any kind. -/
def isNumeric : Value → Bool
  | bool _ | int _ | real _ => true
  | _ => false

/-- Whether one moment comes before another one. Days, instants with an offset and instants without
one have no order among each other. -/
def momentLess (a b : Moment) : Except Fault Bool :=
  if a.comparable b then .ok (decide (a.position < b.position))
  else if a.time.isSome && b.time.isSome then .error .unknownOffset
  else .error .dayAgainstInstant

mutual

/-- Whether `v` comes before `w`, if the two have an order. -/
def less : Value → Value → Except Fault Bool
  | shared _ v, w => less v w
  | list xs, w =>
    match w.bare with
    | list ys => itemsLess xs ys
    | _ => .error (.unordered "list" w.fullKind)
  | tuple xs, w =>
    match w.bare with
    | tuple ys => itemsLess xs ys
    | _ => .error (.unordered "tuple" w.fullKind)
  | v, w =>
    let w := w.bare
    if v.isNumeric && w.isNumeric then
      match v.number?, w.number? with
      | some a, some b => .ok (a.less b)
      | _, _ => .ok false
    else
      match v.text?, w.text? with
      | some s, some t => .ok (s.less t)
      | _, _ =>
        match v, w with
        | bytes as, bytes bs => .ok (bytesLess as bs)
        | moment a, moment b => momentLess a b
        | _, _ => .error (.unordered v.fullKind w.fullKind)

/-- Whether a list of items comes before another one: by the first items that are not alike, else
by length. -/
def itemsLess : List Value → List Value → Except Fault Bool
  | [], ys => .ok (!ys.isEmpty)
  | _ :: _, [] => .ok false
  | x :: xs, y :: ys => if x.alike y then itemsLess xs ys else less x y

end

variable {α : Type}

/-- The longest beginning of `x :: xs` that never descends, and the rest. -/
def risingRun (key : α → Value) (x : α) : List α → Except Fault (List α × List α)
  | [] => .ok ([x], [])
  | y :: rest => do
    if ← less (key y) (key x) then return ([x], y :: rest)
    let (run, tail) ← risingRun key y rest
    return (x :: run, tail)

/-- The longest beginning of `x :: xs` that always descends, the last item first and behind it
the items `acc`, and the rest. -/
def fallingRun (key : α → Value) (acc : List α) (x : α) : List α → Except Fault (List α × List α)
  | [] => .ok (x :: acc, [])
  | y :: rest => do
    if ← less (key y) (key x) then fallingRun key (x :: acc) y rest
    else return (x :: acc, y :: rest)

/-- The place of `x` in a sorted list, behind the items that do not come after it, found by
halving. The bounds `lo` and `hi` enclose the place. -/
def place (key : α → Value) (x : α) (sorted : Array α) : (bound lo hi : Nat) → Except Fault Nat
  | 0, lo, _ => .ok lo
  | bound + 1, lo, hi =>
    if lo < hi then
      let mid := (lo + hi) / 2
      match sorted[mid]? with
      | some m => do
        if ← less (key x) (key m) then place key x sorted bound lo mid
        else place key x sorted bound (mid + 1) hi
      | Option.none => .ok lo
    else .ok lo

/-- The items of a list put into the sorted list one by one. -/
def insertAll (key : α → Value) (sorted : List α) : List α → Except Fault (List α)
  | [] => .ok sorted
  | x :: rest => do
    let p ← place key x sorted.toArray sorted.length 0 sorted.length
    insertAll key (sorted.take p ++ x :: sorted.drop p) rest

/-- The list in increasing order of the key; items with equal keys keep their order. A first run
that rises or falls is taken as it is, and the other items are put in by halving. -/
def sortBy (key : α → Value) : List α → Except Fault (List α)
  | [] => .ok []
  | [x] => .ok [x]
  | x :: y :: rest => do
    if ← less (key y) (key x) then
      let (run, tail) ← fallingRun key [x] y rest
      insertAll key run tail
    else
      let (run, tail) ← risingRun key y rest
      insertAll key (x :: run) tail

end CHeaders.Value
