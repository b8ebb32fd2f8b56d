import CHeaders.Fault
import CHeaders.Value.Equality

/-!
# Sequences

Terms are given to the generators as a sequence, a chain of cells. Going through a sequence
yields the heads of its cells in order and fails at the first cell whose tail is no sequence.

Each family of sequences knows how to compare its own members: cells are compared from head to
head, the empty sequence is equal to itself, and a member of another family is equal to nothing
else. When two sequences are compared, the first one is asked, then the second, and if neither knows
the other, they are different. Whether they differ is asked in the same way, and each answer is
turned round.

## Main definitions

* `CHeaders.Sequence.walk`: the terms of a sequence and the fault that ends the walk, if any.
* `CHeaders.Sequence.toList`, `CHeaders.Sequence.length`: all terms, and their number.
* `CHeaders.Sequence.ofValue`: the sequence of what one gets by going through a value.
* `CHeaders.Value.spine`: the heads of a chain and its end, whatever marks its cells have.
* `CHeaders.Sequence.answer?`: what a sequence knows about another one.
* `CHeaders.Sequence.same`, `CHeaders.Sequence.differs`: the two questions.

## Main results

* `CHeaders.Sequence.toList_ofList`: the terms of the chain of a list are that list.
-/

namespace CHeaders

/-- The heads of a chain and the value that ends it. -/
def Value.spine : Value → List Value × Value
  | shared _ v => v.spine
  | cons head tail => (head :: tail.spine.1, tail.spine.2)
  | v => ([], v)

namespace Sequence

/-- The refusal of a cell whose tail is no sequence. -/
def malformed (operation : String) (tail : Value) : Fault :=
  .refusal .malformedSequence operation "a Sequence as the rest of a Cons" tail

/-- The refusal of a value that is no sequence. -/
def mismatch (operation : String) (given : Value) : Fault :=
  .refusal .typeMismatch operation "a Sequence" given

/-- The terms of a sequence up to the first fault, and that fault. -/
def walk : Value → List Value × Option Fault
  | .cons head tail =>
    if tail.isSequence then
      let (terms, fault) := walk tail
      (head :: terms, fault)
    else ([head], some (malformed "iter_terms" tail))
  | v => ([], if v.isSequence then none else some (mismatch "iter_terms" v))

/-- All terms of a sequence. -/
def toList (v : Value) : Except Fault (List Value) :=
  match walk v with
  | (terms, none) => .ok terms
  | (_, some fault) => .error fault

/-- The number of terms of a sequence. -/
def length (v : Value) : Except Fault Nat :=
  (toList v).map List.length

/-- The sequence of the values one gets by going through `v`; a text or a byte string is not taken
apart. -/
def ofValue (v : Value) : Except Fault Value :=
  match v with
  | .text _ | .fragment _ | .bytes _ =>
    .error (.refused .typeMismatch "from_iterable" "an iterable of terms" v)
  | _ =>
    match v.items? with
    | some xs => .ok (Value.ofList xs)
    | none => .error (.notIterable v.kind)

/-- The chain of a list is a sequence. -/
theorem isSequence_ofList (xs : List Value) : (Value.ofList xs).isSequence := by
  cases xs <;> rfl

/-- Going through the chain of a list yields the list. -/
theorem walk_ofList (xs : List Value) : walk (Value.ofList xs) = (xs, none) := by
  induction xs with
  | nil => rfl
  | cons x xs ih =>
    have h := isSequence_ofList xs
    simp only [Value.ofList, List.foldr_cons] at ih h ⊢
    simp [walk, h, ih]

/-- The terms of the chain of a list are the list. -/
theorem toList_ofList (xs : List Value) : toList (Value.ofList xs) = .ok xs := by
  simp [toList, walk_ofList]

/-! ## Comparing sequences -/

/-- Whether a sequence is equal to another one, if it knows. -/
def answer? (v w : Value) : Option Bool :=
  match v.bare, w.bare with
  | .cons _ _, .cons _ _ => some (v.equals w)
  | .nil, .nil => some true
  | .foreign serial, .foreign serial' => if serial = serial' then some true else none
  | _, _ => none

/-- Whether two sequences are the same. -/
def same (v w : Value) : Bool :=
  ((answer? v w).or (answer? w v)).getD false

/-- Whether two sequences differ. -/
def differs (v w : Value) : Bool :=
  (((answer? v w).map not).or ((answer? w v).map not)).getD true

end Sequence

end CHeaders
