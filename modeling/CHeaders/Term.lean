import CHeaders.Operation

/-!
# Terms

A term of a plan is a call of an operation, a list of terms, a sequence, a text or a whole number.
Evaluation goes through it from left to right: the arguments of a call are evaluated before the
call is made, a list becomes a sequence of what its items evaluate to, and everything else stands
for itself.

## Main definitions

* `CHeaders.Term.evaluate`: what a term stands for.

## Main results

* `CHeaders.Term.evaluateAll_eq_mapM`: the terms of a list are evaluated one after another.
-/

namespace CHeaders.Term

/-- The refusal of a value that is no term. -/
def notTerm (operation : String) (v : Value) : Fault :=
  .refusal .plan operation "a Call, list, Sequence, str or int" v

mutual

/-- What a term stands for. The characters of a text and the numbers of a byte string that are
given as the arguments of a call are terms that stand for themselves. -/
def evaluate : Value → Outcome Value
  | .call op (.list args) => do
    let given ← evaluateAll args
    return .fragment (← Operation.call op given)
  | .call op (.tuple args) => do
    let given ← evaluateAll args
    return .fragment (← Operation.call op given)
  | .call op (.set args) => do
    let given ← evaluateAll args
    return .fragment (← Operation.call op given)
  | .call op (.dict entries) => do
    let given ← evaluateKeys entries
    return .fragment (← Operation.call op given)
  | .call op args =>
    match args.items? with
    | some given => do return .fragment (← Operation.call op given)
    | none => throw (.notIterable args.kind)
  | .list items | .tuple items => do return Value.ofList (← evaluateAll items)
  | .nil => return .nil
  | .cons head tail => return .cons head tail
  | .foreign serial => return .foreign serial
  | .text s => return .text s
  | .fragment s => return .fragment s
  | .int n => return .int n
  | v => throw (notTerm "evaluate_term" v)

/-- What the terms of a list stand for. -/
def evaluateAll : List Value → Outcome (List Value)
  | [] => return []
  | t :: ts => do
    let v ← evaluate t
    let vs ← evaluateAll ts
    return v :: vs

/-- What the keys of a mapping stand for. -/
def evaluateKeys : List (Value × Value) → Outcome (List Value)
  | [] => return []
  | (k, _) :: es => do
    let v ← evaluate k
    let vs ← evaluateKeys es
    return v :: vs

end

/-- The terms of a list are evaluated one after another. -/
theorem evaluateAll_eq_mapM (ts : List Value) : evaluateAll ts = ts.mapM evaluate := by
  induction ts with
  | nil => simp [evaluateAll]
  | cons t ts ih => simp [evaluateAll, ih, List.mapM_cons]

end CHeaders.Term
