import CHeaders.Proofs.Result
import CHeaders.Term

/-!
# Forms of terms

Terms are loosely typed values, so it has to be said which values are terms. A term is a text, a
whole number, a list, a tuple or a sequence of terms, or a call whose arguments are terms. Stored
terms know lists only: in a *plain* term there are neither tuples nor sequences. Every term has a
plain form, in which lists stand for both.

## Main definitions

* `CHeaders.Term.IsTerm`: the values that are terms.
* `CHeaders.Term.IsPlain`: the terms without tuples and sequences.
* `CHeaders.Term.listed`: the plain form of a term.

## Main results

* `CHeaders.Term.IsTerm.isPlain_listed`: the plain form is plain.
* `CHeaders.Term.IsPlain.listed_eq`: a plain term is its own plain form.
* `CHeaders.Term.result_evaluate_list`, `CHeaders.Term.result_evaluate_call`: what lists and calls
  evaluate to.
-/

namespace CHeaders.Term

/-- The values that are terms. A sequence of terms ends in `nil`, and the name in a call is a text
of either kind. -/
inductive IsTerm : Value → Prop
  | text (s : Text) : IsTerm (.text s)
  | fragment (s : Text) : IsTerm (.fragment s)
  | int (n : Int) : IsTerm (.int n)
  | list {ts : List Value} (h : ∀ t ∈ ts, IsTerm t) : IsTerm (.list ts)
  | tuple {ts : List Value} (h : ∀ t ∈ ts, IsTerm t) : IsTerm (.tuple ts)
  | sequence {ts : List Value} (h : ∀ t ∈ ts, IsTerm t) : IsTerm (Value.ofList ts)
  | call {op : Value} {ts : List Value} (hop : op.text?.isSome) (h : ∀ t ∈ ts, IsTerm t) :
      IsTerm (.call op (.list ts))
  | callTuple {op : Value} {ts : List Value} (hop : op.text?.isSome) (h : ∀ t ∈ ts, IsTerm t) :
      IsTerm (.call op (.tuple ts))

/-- The terms without tuples and sequences. -/
inductive IsPlain : Value → Prop
  | text (s : Text) : IsPlain (.text s)
  | fragment (s : Text) : IsPlain (.fragment s)
  | int (n : Int) : IsPlain (.int n)
  | list {ts : List Value} (h : ∀ t ∈ ts, IsPlain t) : IsPlain (.list ts)
  | call {op : Value} {ts : List Value} (hop : op.text?.isSome) (h : ∀ t ∈ ts, IsPlain t) :
      IsPlain (.call op (.list ts))

mutual

/-- The plain form of a term: lists stand for tuples and sequences at any depth. -/
def listed : Value → Value
  | .call op (.list ts) | .call op (.tuple ts) => .call op (.list (listedAll ts))
  | .list ts | .tuple ts => .list (listedAll ts)
  | .nil => .list []
  | .cons head tail => .list (listed head :: listedChain tail)
  | v => v

/-- The plain forms of several terms. -/
def listedAll : List Value → List Value
  | [] => []
  | t :: ts => listed t :: listedAll ts

/-- The plain forms of the terms of a sequence. -/
def listedChain : Value → List Value
  | .cons head tail => listed head :: listedChain tail
  | _ => []

end

/-- The plain forms of several terms are their plain forms one by one. -/
@[simp] theorem listedAll_eq_map (ts : List Value) : listedAll ts = ts.map listed := by
  induction ts with
  | nil => rfl
  | cons t ts ih => rw [listedAll, ih, List.map_cons]

/-- The plain forms of the terms of a sequence are those of the list that it was made of. -/
theorem listedChain_ofList (ts : List Value) : listedChain (Value.ofList ts) = ts.map listed := by
  induction ts with
  | nil => rfl
  | cons t ts ih =>
    change listed t :: listedChain (Value.ofList ts) = _
    rw [ih, List.map_cons]

/-- The plain form of a sequence is a list. -/
theorem listed_ofList (ts : List Value) : listed (Value.ofList ts) = .list (ts.map listed) := by
  cases ts with
  | nil => rfl
  | cons t ts =>
    change Value.list (listed t :: listedChain (Value.ofList ts)) = _
    rw [listedChain_ofList, List.map_cons]

/-- The plain form of a term is plain. -/
theorem IsTerm.isPlain_listed {t : Value} (h : IsTerm t) : IsPlain (listed t) := by
  induction h with
  | text s => exact .text s
  | fragment s => exact .fragment s
  | int n => exact .int n
  | list _ ih | tuple _ ih =>
    simpa only [listed, listedAll_eq_map] using .list (List.forall_mem_map.mpr ih)
  | sequence _ ih =>
    rw [listed_ofList]
    exact .list (List.forall_mem_map.mpr ih)
  | call hop _ ih | callTuple hop _ ih =>
    simpa only [listed, listedAll_eq_map] using .call hop (List.forall_mem_map.mpr ih)

/-- A plain term is a term. -/
theorem IsPlain.isTerm {t : Value} (h : IsPlain t) : IsTerm t := by
  induction h with
  | text s => exact .text s
  | fragment s => exact .fragment s
  | int n => exact .int n
  | list _ ih => exact .list ih
  | call hop _ ih => exact .call hop ih

/-- A plain term is its own plain form. -/
theorem IsPlain.listed_eq {t : Value} (h : IsPlain t) : listed t = t := by
  induction h with
  | text s => rfl
  | fragment s => rfl
  | int n => rfl
  | list _ ih => simp only [listed, listedAll_eq_map, List.map_congr_left ih, List.map_id']
  | call _ _ ih => simp only [listed, listedAll_eq_map, List.map_congr_left ih, List.map_id']

/-! ## Evaluation -/

/-- The results of several terms are their results one by one. -/
theorem result_evaluateAll (ts : List Value) :
    (evaluateAll ts).result = ts.mapM fun t => (evaluate t).result := by
  rw [evaluateAll_eq_mapM, Outcome.result_mapM]

/-- The result of the evaluation of a list. -/
theorem result_evaluate_list (ts : List Value) :
    (evaluate (.list ts)).result = (evaluateAll ts).result.map Value.ofList := by
  rw [evaluate, Outcome.result_bind]
  rcases (evaluateAll ts).result with f | vs <;> rfl

/-- The result of the evaluation of a call. -/
theorem result_evaluate_call (op : Value) (args : List Value) :
    (evaluate (.call op (.list args))).result =
      (evaluateAll args).result.bind fun given =>
        (Operation.call op given).result.map Value.fragment := by
  rw [evaluate, Outcome.result_bind]
  rcases (evaluateAll args).result with f | vs
  · rfl
  · simp only [Except.bind, Outcome.result_bind]
    rcases (Operation.call op vs).result with f | r <;> rfl

/-- A list can be evaluated if and only if its items can. -/
theorem evaluate_list_eq_ok_iff {ts : List Value} {v : Value} :
    (evaluate (.list ts)).result = .ok v ↔
      ∃ vs, List.Forall₂ (fun t w => (evaluate t).result = .ok w) ts vs ∧ Value.ofList vs = v := by
  rw [result_evaluate_list, map_eq_ok_iff, result_evaluateAll]
  simp only [mapM_eq_ok_iff]

/-- A call can be evaluated if and only if its arguments can and the operation returns. -/
theorem evaluate_call_eq_ok_iff {op : Value} {ts : List Value} {v : Value} :
    (evaluate (.call op (.list ts))).result = .ok v ↔
      ∃ vs r, List.Forall₂ (fun t w => (evaluate t).result = .ok w) ts vs ∧
        (Operation.call op vs).result = .ok r ∧ .fragment r = v := by
  rw [result_evaluate_call]
  change ((evaluateAll ts).result >>= fun given => _) = _ ↔ _
  rw [bind_eq_ok_iff, result_evaluateAll]
  simp only [mapM_eq_ok_iff, map_eq_ok_iff, exists_and_left]

/-- A tuple stands for the same as a list. -/
theorem result_evaluate_tuple (ts : List Value) :
    (evaluate (.tuple ts)).result = (evaluate (.list ts)).result := by
  rw [evaluate, evaluate]

/-- A call with a tuple of arguments stands for the same as a call with a list of them. -/
theorem result_evaluate_callTuple (op : Value) (ts : List Value) :
    (evaluate (.call op (.tuple ts))).result = (evaluate (.call op (.list ts))).result := by
  rw [evaluate, evaluate]

/-- A sequence stands for itself. -/
theorem result_evaluate_ofList (ts : List Value) :
    (evaluate (Value.ofList ts)).result = .ok (Value.ofList ts) := by
  rcases ts with _ | ⟨t, ts⟩ <;> rfl

end CHeaders.Term
