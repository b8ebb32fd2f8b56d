import CHeaders.Number.Decimal
import CHeaders.Value

/-!
# Values that can be written

Every value has a text but for one thing: a whole number with too many digits is not written, and
neither is any value that shows such a number.

## Main definitions

* `CHeaders.Value.isWritable`: whether no number in a value has too many digits.

## Main results

* `CHeaders.Value.allWritable_eq_all`: lists are looked through item by item.
* `CHeaders.Value.isWritable_of_text`: texts can be written.
* `CHeaders.Value.isWritable_chain`, `CHeaders.Value.isWritable_ofList`: chains are looked through
  cell by cell.
-/

namespace CHeaders.Value

mutual

/-- Whether no whole number that a value shows has more digits than are written. -/
def isWritable : Value → Bool
  | int n => Decimal.isWritable n
  | list xs => allWritable xs
  | tuple xs => allWritable xs
  | set xs => allWritable xs
  | dict es => entriesWritable es
  | cons head tail => head.isWritable && tail.isWritable
  | call op args => op.isWritable && args.isWritable
  | declaration term comment => term.isWritable && comment.isWritable
  | plan name declarations guard includes =>
    name.isWritable && declarations.isWritable && guard.isWritable && includes.isWritable
  | step piece args => piece.isWritable && args.isWritable
  | position line column file => line.isWritable && column.isWritable && file.isWritable
  | symbolKey stem id place => stem.isWritable && id.isWritable && place.isWritable
  | shared _ v => v.isWritable
  | none | bool _ | real _ | text _ | fragment _ | bytes _ | moment _ | nil | foreign _
  | callable _ _ _ _ | cycle _ _ => true

/-- Whether all items of a list are writable. -/
def allWritable : List Value → Bool
  | [] => true
  | x :: xs => x.isWritable && allWritable xs

/-- Whether all keys and values of a mapping are writable. -/
def entriesWritable : List (Value × Value) → Bool
  | [] => true
  | (k, v) :: es => k.isWritable && v.isWritable && entriesWritable es

end

/-- A list of values is writable if each of them is. -/
theorem allWritable_eq_all (xs : List Value) : allWritable xs = xs.all isWritable := by
  induction xs with
  | nil => rfl
  | cons x xs ih => simp [allWritable, ih]

/-- A chain is writable if its heads and its end are. -/
theorem isWritable_chain (xs : List Value) (tail : Value) :
    (chain xs tail).isWritable = (xs.all isWritable && tail.isWritable) := by
  induction xs with
  | nil => simp [chain]
  | cons x xs ih =>
    simp only [chain, List.foldr_cons, isWritable] at ih ⊢
    rw [ih, List.all_cons, Bool.and_assoc]

/-- A sequence can be written if its items can. -/
theorem isWritable_ofList (vs : List Value) : (ofList vs).isWritable = vs.all isWritable :=
  (isWritable_chain vs .nil).trans (Bool.and_true _)

/-- A text can be written. -/
theorem isWritable_of_text {v : Value} (h : v.text?.isSome) : v.isWritable = true := by
  cases v <;> first | (cases h; done) | rfl

end CHeaders.Value
