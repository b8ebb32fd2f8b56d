import CHeaders.Proofs.Operation
import CHeaders.Proofs.Term.Form

/-!
# Which terms can be evaluated

A plain term is well formed if every call in it names an operation that takes the number of its
arguments and accepts what they stand for, which can be told without evaluating them. Evaluation
returns exactly on the well formed terms in which no number below a call has too many digits to be
written, and refuses every other term whose numbers can be written.

## Main definitions

* `CHeaders.Term.isWellFormed`: the terms that can be evaluated, but for the length of numbers.
* `CHeaders.Term.fits`: no number below a call is too long.
* `CHeaders.Term.Stands`: what the value of a term looks like.

## Main results

* `CHeaders.Term.IsPlain.meets`: what the evaluation of a plain term gives.
* `CHeaders.Term.IsPlain.judged_evaluate`: how the evaluation of a term that can be written ends.
* `CHeaders.Term.evaluate_iff`: evaluation returns exactly on the terms that are well formed and
  fit.
-/

namespace CHeaders.Term

open Operation (isCount isInhabitedText)

/-! ## Well formed terms -/

/-- Whether an operation writes nothing for what the given terms stand for: the fields of an empty
list, or no arguments at all. -/
def leavesBlank : Operation → List Value → Bool
  | .fields, [.list []] => true
  | .args, [.int n] => n == 0
  | _, _ => false

/-- Whether a term stands for a text that holds something. -/
def isInhabited : Value → Bool
  | .text s | .fragment s => Text.isInhabited s
  | .call op (.list args) => !(op.text?.bind Operation.find?).any (leavesBlank · args)
  | _ => false

/-- Whether a term is a list. -/
def isList : Value → Bool
  | .list _ => true
  | _ => false

/-- Whether an operation accepts what the given terms stand for. -/
def accepts : Operation → List Value → Bool
  | .braced, [body] | .anonymous _, [body] => !isList body
  | .typedef, [name, body] | .tagged _, [name, body] => isInhabited name && !isList body
  | .params, [types] | .fields, [types] => isList types
  | .initializerList, [n] | .args, [n] => isCount n
  | .introduceVars, d :: ds => (d :: ds).all isInhabited
  | .introduceNonNull, [type, name, init] => [type, name, init].all isInhabited
  | .chainExpr, [expr] => isInhabited expr
  | _, _ => false

/-- Whether a call names an operation that takes the number of its arguments and accepts them. -/
def isAccepted (op : Value) (args : List Value) : Bool :=
  match op.text?.bind Operation.find? with
  | some o => o.takes args.length && accepts o args
  | none => false

mutual

/-- Whether a plain term is well formed: its calls are accepted, at any depth. -/
def isWellFormed : Value → Bool
  | .call op (.list args) => allWellFormed args && isAccepted op args
  | .list ts => allWellFormed ts
  | .text _ | .fragment _ | .int _ => true
  | _ => false

/-- Whether several terms are well formed. -/
def allWellFormed : List Value → Bool
  | [] => true
  | t :: ts => isWellFormed t && allWellFormed ts

end

mutual

/-- Whether no number below a call has too many digits to be written. -/
def fits : Value → Bool
  | .call _ args => args.isWritable
  | .list ts => allFit ts
  | _ => true

/-- Whether this holds of several terms. -/
def allFit : List Value → Bool
  | [] => true
  | t :: ts => fits t && allFit ts

end

/-- Several terms are well formed if each of them is. -/
@[simp] theorem allWellFormed_eq_all (ts : List Value) :
    allWellFormed ts = ts.all isWellFormed := by
  induction ts with
  | nil => rfl
  | cons t ts ih => rw [allWellFormed, ih, List.all_cons]

/-- Several terms fit if each of them does. -/
@[simp] theorem allFit_eq_all (ts : List Value) : allFit ts = ts.all fits := by
  induction ts with
  | nil => rfl
  | cons t ts ih => rw [allFit, ih, List.all_cons]

/-! ## What terms stand for -/

/-- Texts and numbers stand for themselves, a list stands for a sequence of what its items stand
for, and a call for a generated text, which is blank only in known cases. -/
inductive Stands : Value → Value → Prop
  | text (s : Text) : Stands (.text s) (.text s)
  | fragment (s : Text) : Stands (.fragment s) (.fragment s)
  | int (n : Int) : Stands (.int n) (.int n)
  | list {ts vs : List Value} (h : List.Forall₂ Stands ts vs) : Stands (.list ts) (Value.ofList vs)
  | call {op : Value} {args : List Value} {r : Text}
      (h : Text.isInhabited r = isInhabited (.call op (.list args))) :
      Stands (.call op (.list args)) (.fragment r)

/-- A sequence is no text. -/
theorem text?_ofList (vs : List Value) : (Value.ofList vs).text? = none := by
  cases vs <;> rfl

/-- A sequence is no count. -/
theorem isCount_ofList (vs : List Value) : isCount (Value.ofList vs) = false := by
  cases vs <;> rfl

/-- What an operation asks of a value can be told from the term. -/
theorem Stands.questions {t v : Value} (h : Stands t v) :
    v.isSequence = isList t ∧ isInhabitedText v = isInhabited t ∧ isCount v = isCount t ∧
      Operation.IsGiven v := by
  cases h with
  | text s => exact ⟨rfl, rfl, rfl, .text s⟩
  | fragment s => exact ⟨rfl, rfl, rfl, .fragment s⟩
  | int n => exact ⟨rfl, rfl, rfl, .int n⟩
  | list h =>
    refine ⟨Sequence.isSequence_ofList _, ?_, isCount_ofList _, .sequence _⟩
    rw [isInhabitedText, text?_ofList]
    rfl
  | call h => exact ⟨rfl, h, rfl, .fragment _⟩

/-- Whether all values are texts that hold something can be told from the terms. -/
theorem all_isInhabitedText {ts vs : List Value} (h : List.Forall₂ Stands ts vs) :
    vs.all isInhabitedText = ts.all isInhabited := by
  induction h with
  | nil => rfl
  | cons htv _ ih => rw [List.all_cons, List.all_cons, ih, htv.questions.2.1]

/-- An operation admits values if it accepts the terms that stand for them. -/
theorem admits_eq_accepts (op : Operation) {ts vs : List Value} (h : List.Forall₂ Stands ts vs) :
    op.admits vs = accepts op ts := by
  have hall := all_isInhabitedText h
  cases h with
  | nil => cases op <;> rfl
  | cons htv htail =>
    obtain ⟨hsequence, htext, hcount, -⟩ := htv.questions
    cases htail with
    | nil => cases op <;> simp_all [Operation.admits, accepts]
    | cons huw htail =>
      obtain ⟨hsequence', htext', hcount', -⟩ := huw.questions
      cases htail with
      | nil => cases op <;> simp_all [Operation.admits, accepts]
      | cons hxy htail => cases htail <;> cases op <;> simp_all [Operation.admits, accepts]

/-- Whether an operation writes nothing can be told from the terms. -/
theorem leavesBlank_eq (op : Operation) {ts vs : List Value} (h : List.Forall₂ Stands ts vs) :
    op.leavesBlank vs = leavesBlank op ts := by
  cases h with
  | nil => cases op <;> rfl
  | cons htv htail =>
    cases htail with
    | nil =>
      cases htv with
      | list h => cases h <;> cases op <;> rfl
      | _ => cases op <;> rfl
    | cons huw htail => cases op <;> simp [Operation.leavesBlank, leavesBlank]

/-- What terms stand for can be given to an operation. -/
theorem isGiven_of_stands {ts vs : List Value} (h : List.Forall₂ Stands ts vs) :
    ∀ v ∈ vs, Operation.IsGiven v := by
  induction h with
  | nil => simp
  | cons htv _ ih => exact List.forall_mem_cons.mpr ⟨htv.questions.2.2.2, ih⟩

/-! ## Evaluation -/

/-- What the evaluation of a term gives. A value is as the term says, and shows the numbers that are
in the term; a fault means that the term is not well formed or does not fit, and it is a refusal if
the numbers in the term can be written. -/
def Meets (t : Value) : Except Fault Value → Prop
  | .ok v => isWellFormed t = true ∧ fits t = true ∧ Stands t v ∧ v.isWritable = t.isWritable
  | .error f => (isWellFormed t && fits t) = false ∧ (t.isWritable = true → f.isRefusal = true)

/-- The values of several terms. -/
def MeetsAll (ts : List Value) : Except Fault (List Value) → Prop
  | .ok vs => ts.all isWellFormed = true ∧ ts.all fits = true ∧ List.Forall₂ Stands ts vs ∧
      vs.all Value.isWritable = ts.all Value.isWritable
  | .error f => (ts.all isWellFormed && ts.all fits) = false ∧
      (ts.all Value.isWritable = true → f.isRefusal = true)

/-- Terms are evaluated one after another up to the first fault.

**Proof sketch.** If the first term fails, then it is not as it has to be, and neither are all
terms. If a later one fails, it is these that are not, as the first term is. Otherwise what holds of
the first value and of the others holds of all of them. -/
theorem Meets.cons {t : Value} {ts : List Value} {x : Except Fault Value}
    {xs : Except Fault (List Value)} (ht : Meets t x) (hts : MeetsAll ts xs) :
    MeetsAll (t :: ts) (x >>= fun v => xs >>= fun vs => .ok (v :: vs)) := by
  rcases x with f | v
  · obtain ⟨hbad, hrefusal⟩ := ht
    refine ⟨?_, fun hwritable => ?_⟩
    · rw [List.all_cons, List.all_cons]
      simp only [Bool.and_eq_false_iff] at hbad ⊢
      tauto
    · rw [List.all_cons, Bool.and_eq_true] at hwritable
      exact hrefusal hwritable.1
  · obtain ⟨hform, hfit, hstands, hshown⟩ := ht
    rcases xs with f | vs
    · obtain ⟨hbad, hrefusal⟩ := hts
      refine ⟨?_, fun hwritable => ?_⟩
      · rwa [List.all_cons, List.all_cons, hform, hfit, Bool.true_and, Bool.true_and]
      · rw [List.all_cons, Bool.and_eq_true] at hwritable
        exact hrefusal hwritable.2
    · obtain ⟨hforms, hfits, hstandsAll, hshownAll⟩ := hts
      refine ⟨?_, ?_, .cons hstands hstandsAll, ?_⟩
      · rw [List.all_cons, hform, hforms, Bool.true_and]
      · rw [List.all_cons, hfit, hfits, Bool.true_and]
      · rw [List.all_cons, List.all_cons, hshown, hshownAll]

/-- The values of several terms, if each term is evaluated as it says. -/
theorem meetsAll {ts : List Value} (h : ∀ t ∈ ts, Meets t (evaluate t).result) :
    MeetsAll ts (evaluateAll ts).result := by
  rw [evaluateAll_eq_mapM, Outcome.result_mapM]
  induction ts with
  | nil => exact ⟨rfl, rfl, .nil, rfl⟩
  | cons t ts ih =>
    obtain ⟨ht, hts⟩ := List.forall_mem_cons.mp h
    rw [List.mapM_cons]
    exact ht.cons (ih hts)

/-- A term whose numbers can be written fits. -/
theorem IsPlain.fits_of_isWritable {t : Value} (h : IsPlain t) :
    t.isWritable = true → fits t = true := by
  induction h with
  | text s | fragment s | int n => exact fun _ => rfl
  | list _ ih =>
    intro hwritable
    rw [Value.isWritable, Value.allWritable_eq_all, List.all_eq_true] at hwritable
    rw [fits, allFit_eq_all, List.all_eq_true]
    exact fun t ht => ih t ht (hwritable t ht)
  | call _ _ _ =>
    intro hwritable
    rw [Value.isWritable, Bool.and_eq_true] at hwritable
    exact hwritable.2

section Call

variable {op : Value} {args given : List Value} {o : Operation}

/-- No number below a call is too long if its arguments can be written. -/
theorem fits_call (op : Value) (args : List Value) :
    fits (.call op (.list args)) = args.all Value.isWritable := by
  rw [fits, Value.isWritable, Value.allWritable_eq_all]

/-- A call can be written if its arguments can be. -/
theorem isWritable_call (hop : op.text?.isSome) :
    (Value.call op (.list args)).isWritable = args.all Value.isWritable := by
  rw [Value.isWritable, Value.isWritable_of_text hop, Value.isWritable, Value.allWritable_eq_all,
    Bool.true_and]

/-- An operation that takes as many values accepts the terms if it admits what they stand for. -/
theorem isAccepted_eq_admits (ho : op.text?.bind Operation.find? = some o)
    (htakes : o.takes args.length = true) (hstands : List.Forall₂ Stands args given) :
    isAccepted op args = o.admits given := by
  rw [isAccepted, ho, admits_eq_accepts o hstands]
  simp only [htakes, Bool.true_and]

/-- Nothing is accepted by an unknown operation, or by one that takes another number of values. -/
theorem isAccepted_eq_false
    (hnot : ∀ o, op.text?.bind Operation.find? = some o → o.takes args.length = false) :
    isAccepted op args = false := by
  rw [isAccepted]
  cases ho : op.text?.bind Operation.find? with
  | none => rfl
  | some o => simp only [hnot o ho, Bool.false_and]

/-- What an operation answers to the values of the arguments is what the call gives. -/
theorem meets_of_answers (hop : op.text?.isSome) (ho : op.text?.bind Operation.find? = some o)
    (htakes : o.takes args.length = true) (h : MeetsAll args (.ok given)) {r : Except Fault Text}
    (hr : o.Answers given r) : Meets (.call op (.list args)) (r.map Value.fragment) := by
  obtain ⟨hforms, -, hstands, hshown⟩ := h
  have hform : isWellFormed (.call op (.list args)) = o.admits given := by
    rw [isWellFormed, allWellFormed_eq_all, hforms, Bool.true_and,
      isAccepted_eq_admits ho htakes hstands]
  have hfits : fits (.call op (.list args)) = given.all Value.isWritable := by
    rw [fits_call, hshown]
  have hwritable : (Value.call op (.list args)).isWritable = given.all Value.isWritable := by
    rw [isWritable_call hop, hshown]
  rcases r with f | r
  · obtain ⟨hbad, hrefuses⟩ := hr
    refine ⟨by rw [hform, hfits, hbad], fun h => ?_⟩
    obtain ⟨v, -, kind, -, operation, expected, rfl⟩ := hrefuses (hwritable.symm.trans h)
    rfl
  · obtain ⟨hadmits, hshows, hinhabited⟩ := hr
    refine ⟨hform.trans hadmits, hfits.trans hshows, .call ?_, (hwritable.trans hshows).symm⟩
    rw [hinhabited, leavesBlank_eq o hstands, isInhabited, ho]
    rfl

/-- The call of an operation on what its arguments stand for: it is run if it takes as many values,
and the call is refused otherwise. -/
theorem meets_call (hop : op.text?.isSome) (h : MeetsAll args (.ok given)) :
    Meets (.call op (.list args)) ((Operation.call op given).result.map Value.fragment) := by
  have hlength : given.length = args.length := h.2.2.1.length_eq.symm
  by_cases htakes : ∃ o, op.text?.bind Operation.find? = some o ∧ o.takes args.length = true
  · obtain ⟨o, ho, htakes⟩ := htakes
    have hgiven := isGiven_of_stands h.2.2.1
    rw [Operation.result_call_of_takes ho (hlength ▸ htakes)]
    exact meets_of_answers hop ho htakes h (o.run_spec (fun _ => hgiven) (hlength ▸ htakes))
  · have hnot : ∀ o, op.text?.bind Operation.find? = some o → o.takes args.length = false :=
      fun o ho => Bool.eq_false_iff.mpr fun hn => htakes ⟨o, ho, hn⟩
    obtain ⟨operation, expected, shown, hcall⟩ :=
      Operation.result_call_of_not_takes (Value.isWritable_of_text hop) (hlength ▸ hnot)
    rw [hcall]
    refine ⟨?_, fun _ => rfl⟩
    rw [isWellFormed, isAccepted_eq_false hnot, Bool.and_false, Bool.false_and]

/-- A call whose arguments fail fails as they do. -/
theorem meets_call_error {f : Fault} (hop : op.text?.isSome) (hargs : ∀ t ∈ args, IsPlain t)
    (h : MeetsAll args (.error f)) : Meets (.call op (.list args)) (.error f) := by
  obtain ⟨hbad, hrefusal⟩ := h
  refine ⟨?_, fun hwritable => hrefusal ((isWritable_call hop).symm.trans hwritable)⟩
  by_contra hgood
  rw [Bool.not_eq_false, Bool.and_eq_true, fits_call, isWellFormed, allWellFormed_eq_all,
    Bool.and_eq_true, List.all_eq_true (p := Value.isWritable)] at hgood
  have hfits : args.all fits = true := List.all_eq_true.mpr fun t ht =>
    (hargs t ht).fits_of_isWritable (hgood.2 t ht)
  rw [hgood.1.1, hfits] at hbad
  cases hbad

end Call

/-- What the evaluation of a plain term gives.

**Proof sketch.** By induction on the term. The items of a list are evaluated one after another. So
are the arguments of a call; then the operation is run on what they stand for, and what it asks of
these values can be told from the arguments. -/
theorem IsPlain.meets {t : Value} (h : IsPlain t) : Meets t (evaluate t).result := by
  induction h with
  | text s => exact ⟨rfl, rfl, .text s, rfl⟩
  | fragment s => exact ⟨rfl, rfl, .fragment s, rfl⟩
  | int n => exact ⟨rfl, rfl, .int n, rfl⟩
  | @list ts _ ih =>
    have hall := meetsAll ih
    rw [result_evaluate_list]
    cases hwalk : (evaluateAll ts).result with
    | error f =>
      rw [hwalk] at hall
      obtain ⟨hbad, hrefusal⟩ := hall
      refine ⟨by rwa [isWellFormed, fits, allWellFormed_eq_all, allFit_eq_all], ?_⟩
      rwa [Value.isWritable, Value.allWritable_eq_all]
    | ok vs =>
      rw [hwalk] at hall
      obtain ⟨hforms, hfits, hstands, hshown⟩ := hall
      refine ⟨by rwa [isWellFormed, allWellFormed_eq_all], by rwa [fits, allFit_eq_all],
        .list hstands, ?_⟩
      rw [Value.isWritable_ofList, hshown, Value.isWritable, Value.allWritable_eq_all]
  | @call op args hop hargs ih =>
    have hall := meetsAll ih
    rw [result_evaluate_call]
    cases hwalk : (evaluateAll args).result with
    | error f =>
      rw [hwalk] at hall
      exact meets_call_error hop hargs hall
    | ok given =>
      rw [hwalk] at hall
      exact meets_call hop hall

/-- The numbers below the calls of a plain term that can be evaluated are not too long. -/
theorem IsPlain.fits_of_evaluate {t v : Value} (h : IsPlain t)
    (hv : (evaluate t).result = .ok v) : fits t = true := by
  have hmeets := h.meets
  rw [hv] at hmeets
  exact hmeets.2.1

/-- The evaluation of a term whose numbers can be written ends in nothing but the refusals of
operations, and gives a value that can be written.

**Proof sketch.** By induction on the term. The terms of a list and the arguments of a call are
evaluated one by one, and the operation is called on what they stand for. -/
theorem IsPlain.judged_evaluate {t : Value} (h : IsPlain t) : t.isWritable = true →
    Judged (fun v => Operation.IsGiven v ∧ v.isWritable = true) (·.IsRefusalOf Operation.kinds)
      (evaluate t).result := by
  induction h with
  | text s => exact fun _ => ⟨.text s, rfl⟩
  | fragment s => exact fun _ => ⟨.fragment s, rfl⟩
  | int n => exact fun hwritable => ⟨.int n, hwritable⟩
  | list _ ih =>
    intro hwritable
    rw [Value.isWritable, Value.allWritable_eq_all, List.all_eq_true] at hwritable
    rw [result_evaluate_list, result_evaluateAll]
    refine (Judged.mapM fun t ht => ih t ht (hwritable t ht)).map fun vs hvs => ⟨.sequence vs, ?_⟩
    rw [Value.isWritable_ofList, List.all_eq_true]
    exact fun v hv => (hvs v hv).2
  | @call op args _ _ ih =>
    intro hwritable
    rw [Value.isWritable, Value.isWritable, Bool.and_eq_true, Value.allWritable_eq_all,
      List.all_eq_true] at hwritable
    rw [result_evaluate_call, result_evaluateAll]
    refine (Judged.mapM fun t ht => ih t ht (hwritable.2 t ht)).bind (fun _ hf => hf)
      fun given hgiven => ?_
    refine (Operation.judged_call hwritable.1 (fun v hv => (hgiven v hv).1)
      fun v hv => (hgiven v hv).2).map fun r _ => ⟨.fragment r, rfl⟩

/-- Evaluation returns exactly on the plain terms that are well formed and in which no number below
a call is too long. A term that is not well formed is refused, if its numbers can be written. What
is returned looks as the term says.

**Proof sketch.** What evaluation gives meets the term: a value comes with everything that is
claimed of the term, and a fault with its contrary. -/
theorem evaluate_iff {t : Value} (h : IsPlain t) :
    ((∃ v, (evaluate t).result = .ok v) ↔ isWellFormed t = true ∧ fits t = true) ∧
    (isWellFormed t = false → t.isWritable = true →
      ∃ f, (evaluate t).result = .error f ∧ f.isRefusal = true) ∧
    ∀ v, (evaluate t).result = .ok v → Stands t v := by
  have hmeets := h.meets
  cases hresult : (evaluate t).result with
  | ok v =>
    rw [hresult] at hmeets
    obtain ⟨hform, hfits, hstands, -⟩ := hmeets
    refine ⟨⟨fun _ => ⟨hform, hfits⟩, fun _ => ⟨v, rfl⟩⟩, ?_, ?_⟩
    · intro hnot
      exact absurd (hform.symm.trans hnot) (by decide)
    · intro w hw
      exact Except.ok.inj hw ▸ hstands
  | error f =>
    rw [hresult] at hmeets
    obtain ⟨hbad, hrefusal⟩ := hmeets
    refine ⟨⟨?_, ?_⟩, fun _ hwritable => ⟨f, rfl, hrefusal hwritable⟩, ?_⟩
    · rintro ⟨v, hv⟩
      cases hv
    · rintro ⟨hform, hfits⟩
      rw [hform, hfits] at hbad
      cases hbad
    · exact fun v hv => by cases hv

/-- A structure with a single field. -/
def point : Value :=
  .call (.text "struct") (.list [.text "Point",
    .call (.text "indexedFields") (.list [.list [.text "int"]])])

/-- The structure is a plain term. -/
theorem isPlain_point : IsPlain point := by
  have hfields : IsPlain (.call (.text "indexedFields") (.list [.list [.text "int"]])) :=
    .call rfl (List.forall_mem_singleton.mpr (.list (List.forall_mem_singleton.mpr (.text "int"))))
  exact .call rfl (List.forall_mem_cons.mpr ⟨.text "Point", List.forall_mem_singleton.mpr hfields⟩)

/-- The structure is well formed, so it can be evaluated. -/
theorem evaluate_point : IsPlain point ∧ ∃ v, (evaluate point).result = .ok v :=
  ⟨isPlain_point, (evaluate_iff isPlain_point).1.mpr ⟨by decide, by decide +kernel⟩⟩

/-- A number between braces. -/
def bracedNumber (n : Int) : Value :=
  .call (.text "braced") (.list [.int n])

/-- A number between braces is a well formed plain term, whatever the number is. -/
theorem isWellFormed_bracedNumber (n : Int) :
    IsPlain (bracedNumber n) ∧ isWellFormed (bracedNumber n) = true :=
  ⟨.call rfl (List.forall_mem_singleton.mpr (.int n)), rfl⟩

/-- A number that is too long to be written cannot be put between braces. -/
theorem not_evaluate_bracedNumber {n : Int} (hlong : Decimal.isWritable n = false) :
    ¬∃ v, (evaluate (bracedNumber n)).result = .ok v := by
  rintro ⟨v, hv⟩
  have hfits := (isWellFormed_bracedNumber n).1.fits_of_evaluate hv
  have hnot : fits (bracedNumber n) = false := by
    simp [bracedNumber, fits, Value.isWritable, Value.allWritable, hlong]
  rw [hnot] at hfits
  cases hfits

/-- There is a well formed plain term that cannot be evaluated: the least number that is too long to
be written, between braces. -/
theorem bracedNumber_fails : ∃ t, IsPlain t ∧ isWellFormed t = true ∧
    ¬∃ v, (evaluate t).result = .ok v := by
  exact ⟨bracedNumber Decimal.leastUnwritable, (isWellFormed_bracedNumber _).1,
    (isWellFormed_bracedNumber _).2, not_evaluate_bracedNumber Decimal.isWritable_leastUnwritable⟩

end CHeaders.Term
