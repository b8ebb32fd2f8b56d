import CHeaders.Proofs.Term.Form

/-!
# Terms that are evaluated in part

A term that has been evaluated stands for itself: a generated text, a number or a sequence is a term
again, and evaluation leaves it as it is. So it makes no difference for the whole whether a part of
it is evaluated beforehand. A part is given by its place, a context with one hole, which lies among
the items of a list or a tuple or among the arguments of a call, at any depth. The values around the
hole may be any values, so also the fault of a term that cannot be evaluated stays what it is.

A place within a sequence is no such place: the terms of a sequence are not evaluated.

## Main definitions

* `CHeaders.Term.Frame`: what holds terms that are evaluated.
* `CHeaders.Term.Context`, `CHeaders.Term.Context.fill`: a place in a term, and the term with a
  value in that place.

## Main results

* `CHeaders.Term.evaluate_value`: what a term stands for stands for itself.
* `CHeaders.Term.Context.evaluate_fill`: what a part stands for may take its place.
-/

namespace CHeaders.Term

/-- What holds terms that are evaluated: a list, a tuple, or a call with a list or a tuple of
arguments. -/
inductive Frame where
  | list
  | tuple
  | call (op : Value)
  | callTuple (op : Value)

/-- The terms in their frame. -/
def Frame.around : Frame → List Value → Value
  | list, ts => .list ts
  | tuple, ts => .tuple ts
  | call op, ts => .call op (.list ts)
  | callTuple op, ts => .call op (.tuple ts)

/-- A place in a term: the term itself, or a place in one of the terms that a frame holds. -/
inductive Context where
  | hole
  | item (frame : Frame) (before : List Value) (inner : Context) (after : List Value)

/-- The term with a value in the place. -/
def Context.fill : Context → Value → Value
  | hole, t => t
  | item frame before inner after, t => frame.around (before ++ inner.fill t :: after)

/-- A call stands for a generated text, whatever holds its arguments.

**Proof sketch.** By what holds the arguments. In each case the evaluation of a call ends with the
text that its operation has written. -/
theorem exists_fragment_of_evaluate_call {op args v : Value}
    (h : (evaluate (.call op args)).result = .ok v) : ∃ r, v = .fragment r := by
  have hmade : ∀ {vs : List Value},
      (Operation.call op vs >>= fun r => pure (Value.fragment r)).result = .ok v →
        ∃ r, v = .fragment r := by
    intro vs h
    obtain ⟨r, -, hr⟩ := Outcome.result_bind_eq_ok_iff.mp h
    exact ⟨r, (Except.ok.inj hr).symm⟩
  have hgiven : ∀ {given : Outcome (List Value)},
      (given >>= fun vs => Operation.call op vs >>= fun r => pure (Value.fragment r)).result =
        .ok v → ∃ r, v = .fragment r := by
    intro given h
    obtain ⟨vs, -, h⟩ := Outcome.result_bind_eq_ok_iff.mp h
    exact hmade h
  cases args with
  | list ts | tuple ts | set ts | dict es =>
    rw [evaluate] at h
    exact hgiven h
  | _ =>
    unfold evaluate at h
    split at h
    · exact hmade h
    · cases h

/-- What a term stands for stands for itself. -/
theorem evaluate_value {t v : Value} (h : (evaluate t).result = .ok v) :
    (evaluate v).result = .ok v := by
  cases t with
  | call op args =>
    obtain ⟨r, rfl⟩ := exists_fragment_of_evaluate_call h
    rfl
  | list ts =>
    obtain ⟨vs, -, rfl⟩ := evaluate_list_eq_ok_iff.mp h
    exact result_evaluate_ofList vs
  | tuple ts =>
    rw [result_evaluate_tuple] at h
    obtain ⟨vs, -, rfl⟩ := evaluate_list_eq_ok_iff.mp h
    exact result_evaluate_ofList vs
  | nil | cons head tail | foreign serial | text s | fragment s | int n =>
    obtain rfl := Except.ok.inj h
    rfl
  | _ => cases h

/-- The result of what a frame holds depends on the results of the terms only. -/
theorem Frame.evaluate_around (frame : Frame) {ts us : List Value}
    (h : (evaluateAll ts).result = (evaluateAll us).result) :
    (evaluate (frame.around ts)).result = (evaluate (frame.around us)).result := by
  cases frame with
  | list => rw [around, around, result_evaluate_list, result_evaluate_list, h]
  | tuple =>
    rw [around, around, result_evaluate_tuple, result_evaluate_tuple, result_evaluate_list,
      result_evaluate_list, h]
  | call op => rw [around, around, result_evaluate_call, result_evaluate_call, h]
  | callTuple op =>
    rw [around, around, result_evaluate_callTuple, result_evaluate_callTuple, result_evaluate_call,
      result_evaluate_call, h]

/-- The results of several terms stay the same if one of them is replaced by a term with the same
result. -/
theorem evaluateAll_replace {t u : Value} (h : (evaluate t).result = (evaluate u).result)
    (before after : List Value) :
    (evaluateAll (before ++ t :: after)).result = (evaluateAll (before ++ u :: after)).result := by
  rw [result_evaluateAll, result_evaluateAll, List.mapM_append, List.mapM_append, List.mapM_cons,
    List.mapM_cons, h]

/-- What a part of a term stands for may take its place, and the whole has the same result.

**Proof sketch.** By induction on the place. What a frame holds is evaluated term by term, so its
result depends on the results of the terms only, and what the part stands for has the same result as
the part. -/
theorem Context.evaluate_fill (c : Context) {t v : Value} (h : (evaluate t).result = .ok v) :
    (evaluate (c.fill v)).result = (evaluate (c.fill t)).result := by
  induction c with
  | hole => rw [fill, fill, evaluate_value h, h]
  | item frame before inner after ih => exact frame.evaluate_around (evaluateAll_replace ih ..)

end CHeaders.Term
