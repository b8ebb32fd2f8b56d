import CHeaders.Json.Text
import CHeaders.Value.Order

/-!
# Writing JSON

A document is written in one line, with the entries of a mapping in the order of their keys.
Numbers, truth values and `none` may be keys too and are written as texts. Values that JSON has no
form for are refused, and so are numbers with too many digits.

## Main definitions

* `CHeaders.Json.scalar?`: the written form of a value that is no container.
* `CHeaders.Json.write`: the written form of a document.
-/

namespace CHeaders.Json

/-- Reals are laid out as in messages, but infinities and what is no number have names. -/
def layout : Shortest.Layout :=
  { Shortest.plain with infinity := "Infinity", notANumber := "NaN" }

/-- The written form of a number, a truth value or `none`. -/
def scalar? : Value → Option String
  | .none => some "null"
  | .bool b => some (if b then "true" else "false")
  | .int n => some (Decimal.ofInt n)
  | .real x => some (x.text layout)
  | _ => none

/-- The written form of a key. -/
def key (v : Value) : Except CHeaders.Fault String :=
  match v.text?.or ((scalar? v).map Text.ofString) with
  | some t => CHeaders.Fault.whenShown [v] (.ok (quoted t))
  | none => .error (.notJsonKey v.fullKind)

/-- The entries in order, each a key and the outcome of writing its value. -/
def joinEntries : List (Value × Except CHeaders.Fault String) →
    Except CHeaders.Fault (List String)
  | [] => .ok []
  | (k, written) :: rest => do
    let k ← key k
    let v ← written
    let more ← joinEntries rest
    return (k ++ ": " ++ v) :: more

mutual

/-- The written form of a document. -/
def write : Value → Except CHeaders.Fault String
  | .text t | .fragment t => .ok (quoted t)
  | .list items | .tuple items => do
    return "[" ++ CHeaders.Text.commas (← writeAll items) ++ "]"
  | .dict entries => do
    let sorted ← Value.sortBy Prod.fst (writeEntries entries)
    return "\x7b" ++ CHeaders.Text.commas (← joinEntries sorted) ++ "\x7d"
  | .shared _ v => write v
  | .cycle _ _ => .error .circular
  | v =>
    match scalar? v with
    | some s => CHeaders.Fault.whenShown [v] (.ok s)
    | none => .error (.notJson v.kind)

/-- The written forms of several documents. -/
def writeAll : List Value → Except CHeaders.Fault (List String)
  | [] => .ok []
  | v :: vs => do
    let s ← write v
    let more ← writeAll vs
    return s :: more

/-- The entries of a mapping with the outcomes of writing their values. -/
def writeEntries : List (Value × Value) → List (Value × Except CHeaders.Fault String)
  | [] => []
  | (k, v) :: es => (k, write v) :: writeEntries es

end

/-- A list is written item by item. -/
theorem writeAll_eq_mapM (vs : List Value) : writeAll vs = vs.mapM write := by
  induction vs with
  | nil => simp [writeAll, pure, Except.pure]
  | cons v vs ih => simp [writeAll, ih, List.mapM_cons]

end CHeaders.Json
