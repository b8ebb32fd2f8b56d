import CHeaders.Proofs.Term.Form

/-!
# Settled terms

A sequence in a term stands for itself: its terms are not evaluated. A list is evaluated item by
item. So a term and its plain form, in which lists stand for sequences, stand for the same value if
nothing in a sequence would be changed by evaluation. Such a term is *settled*.

## Main definitions

* `CHeaders.Term.isInert`: the terms that evaluation does not change, neither as they are nor in
  their plain form.
* `CHeaders.Term.isSettled`: the terms all of whose sequences are inert.

## Main results

* `CHeaders.Term.IsTerm.evaluate_listed`: a settled term stands for the same as its plain form.
-/

namespace CHeaders.Term

/-- Whether a term is a text, a number or a sequence of such terms. -/
def isInert : Value → Bool
  | .text _ | .fragment _ | .int _ | .nil => true
  | .cons head tail => isInert head && isInert tail
  | _ => false

mutual

/-- Whether all sequences in a term are inert. -/
def isSettled : Value → Bool
  | .call _ (.list ts) | .call _ (.tuple ts) | .list ts | .tuple ts => allSettled ts
  | .cons head tail => isInert (.cons head tail)
  | _ => true

/-- Whether several terms are settled. -/
def allSettled : List Value → Bool
  | [] => true
  | t :: ts => isSettled t && allSettled ts

end

/-- Several terms are settled if each of them is. -/
theorem allSettled_iff {ts : List Value} : allSettled ts = true ↔ ∀ t ∈ ts, isSettled t = true := by
  induction ts with
  | nil => simp [allSettled]
  | cons t ts ih => rw [allSettled, Bool.and_eq_true, ih, List.forall_mem_cons]

/-- A sequence is inert if its terms are. -/
theorem isInert_ofList {ts : List Value} :
    isInert (Value.ofList ts) = true ↔ ∀ t ∈ ts, isInert t = true := by
  induction ts with
  | nil => simp [Value.ofList, isInert]
  | cons t ts ih =>
    change (isInert t && isInert (Value.ofList ts)) = true ↔ _
    rw [Bool.and_eq_true, ih, List.forall_mem_cons]

/-- A sequence is settled if it is inert. -/
theorem isSettled_ofList (ts : List Value) :
    isSettled (Value.ofList ts) = isInert (Value.ofList ts) := by
  rcases ts with _ | ⟨t, ts⟩ <;> rfl

/-! ## Evaluation -/

/-- The results of several plain forms are the results of the terms, if this holds of each term. -/
theorem evaluateAll_listed {ts : List Value}
    (h : ∀ t ∈ ts, (evaluate (listed t)).result = (evaluate t).result) :
    (evaluateAll (ts.map listed)).result = (evaluateAll ts).result := by
  rw [result_evaluateAll, result_evaluateAll]
  induction ts with
  | nil => rfl
  | cons t ts ih =>
    obtain ⟨ht, hts⟩ := List.forall_mem_cons.mp h
    rw [List.map_cons, List.mapM_cons, List.mapM_cons, ht, ih hts]

/-- The plain form of an inert term stands for the term. -/
theorem IsTerm.evaluate_listed_of_isInert {t : Value} (h : IsTerm t) (hinert : isInert t = true) :
    (evaluate (listed t)).result = .ok t := by
  induction h with
  | text s => rfl
  | fragment s => rfl
  | int n => rfl
  | sequence _ ih =>
    have hitems := isInert_ofList.mp hinert
    have hwalk := mapM_eq_ok_map (g := id) fun t ht => ih t ht (hitems t ht)
    rw [listed_ofList, result_evaluate_list, result_evaluateAll, List.mapM_map]
    change Except.map _ (List.mapM (fun t => (evaluate (listed t)).result) _) = _
    rw [hwalk, List.map_id]
    rfl
  | list | tuple | call | callTuple => cases hinert

/-- A settled term and its plain form stand for the same.

**Proof sketch.** By induction on the term. A list, a tuple and the arguments of a call are
settled item by item. A sequence is settled if it is inert, and then it is what its plain form
stands for. -/
theorem IsTerm.evaluate_listed {t : Value} (h : IsTerm t) (hsettled : isSettled t = true) :
    (evaluate (listed t)).result = (evaluate t).result := by
  induction h with
  | text s => rfl
  | fragment s => rfl
  | int n => rfl
  | list _ ih =>
    have hitems := allSettled_iff.mp hsettled
    rw [listed, listedAll_eq_map, result_evaluate_list, result_evaluate_list,
      evaluateAll_listed fun t ht => ih t ht (hitems t ht)]
  | tuple _ ih =>
    have hitems := allSettled_iff.mp hsettled
    rw [listed, listedAll_eq_map, result_evaluate_tuple, result_evaluate_list, result_evaluate_list,
      evaluateAll_listed fun t ht => ih t ht (hitems t ht)]
  | @sequence ts hts _ =>
    rw [isSettled_ofList] at hsettled
    rw [(IsTerm.sequence hts).evaluate_listed_of_isInert hsettled, result_evaluate_ofList]
  | call _ _ ih =>
    have hitems := allSettled_iff.mp hsettled
    rw [listed, listedAll_eq_map, result_evaluate_call, result_evaluate_call,
      evaluateAll_listed fun t ht => ih t ht (hitems t ht)]
  | callTuple _ _ ih =>
    have hitems := allSettled_iff.mp hsettled
    rw [listed, listedAll_eq_map, result_evaluate_callTuple, result_evaluate_call,
      result_evaluate_call, evaluateAll_listed fun t ht => ih t ht (hitems t ht)]

end CHeaders.Term
