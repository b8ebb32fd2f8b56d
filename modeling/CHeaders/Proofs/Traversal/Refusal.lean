import CHeaders.Proofs.Sequence

/-!
# In whose name a sequence is refused

A traversal is made in the name of an operation, and most of what it refuses it refuses in this
name: a value that is no sequence, a handler set in which a handler is missing, an answer that is no
step, an end that is not the empty sequence. One refusal is not its own. Each cell goes through the
routing step before its handler is called, and a cell whose tail is no sequence is refused there, in
the name of the routing step.

So a traversal refuses in the name of its operation if and only if it does not come to such a cell,
be it because there is none or because something else goes wrong in front of it. The cell is the
last one of its chain. Handlers that answer every call lead up to it, and so do the ones that write
parameters and fields.

## Main definitions

* `CHeaders.Fault.IsNamed`: the refusals in the name of an operation.
* `CHeaders.Handlers.RefusesNothing`: handlers that leave refusing to the traversal.
* `CHeaders.Handlers.ComesTo`: a traversal gets to a cell whose tail is no sequence.

## Main results

* `CHeaders.pieces_refusal`, `CHeaders.traverse_refusal`: what a traversal may refuse.
* `CHeaders.AnswersInFull.comesTo_iff`: which chains lead to such a cell.
* `CHeaders.Indexed.judged_params`, `CHeaders.Indexed.judged_fields`: how parameters and fields are
  refused.
* `CHeaders.refusals_named_iff`: when the refusals carry the name of the operation.
-/

namespace CHeaders

open Value (chain)

/-- The fault is a refusal in the name of the operation. -/
def Fault.IsNamed (operation : String) (f : Fault) : Prop :=
  ∃ kind expected given, f = .refused kind operation expected given

/-- What is refused is refused in the name of the operation that refuses it. -/
theorem Fault.isNamed_of_isRefusal {kind : Refusal} {operation expected : String} {given : Value}
    (h : (refusal kind operation expected given).isRefusal = true) :
    (refusal kind operation expected given).IsNamed operation := by
  cases hgiven : given.isWritable with
  | false =>
    rw [refusal_of_not_isWritable hgiven] at h
    cases h
  | true =>
    rw [refusal_of_isWritable hgiven]
    exact ⟨kind, expected, given, rfl⟩

/-- The handlers of a set refuse nothing: if something goes wrong in one of them, it is something
else. -/
structure Handlers.RefusesNothing (h : Handlers) : Prop where
  last : ∀ onNil ∈ h.onNil, ∀ args f, onNil args = .error f → f.isRefusal = false
  step : ∀ onCons ∈ h.onCons, ∀ head tail args f, onCons head tail args = .error f →
    f.isRefusal = false

/-- A traversal comes to a cell whose tail is `last`, which is no sequence: both handlers are there,
and the cells in front of it are passed. -/
def Handlers.ComesTo (h : Handlers) (args : List Value) (v last : Value) : Prop :=
  ∃ onNil onCons front head p, h.onNil = some onNil ∧ h.onCons = some onCons ∧
    v = chain front (.cons head last) ∧ last.isSequence = false ∧
    Passes onCons (.cons head last) front args p

variable {h : Handlers} {onNil : Handler} {onCons : Value → Value → Handler}
  {args : List Value} {v last : Value} {separator : Text} {operation : String} {f : Fault}

/-! ## Traversals -/

/-- A piece that is no text is a fault, but it is not refused. -/
theorem Fragment.not_isRefusal_of_texts {index : Nat} {vs : List Value}
    (hf : texts index vs = .error f) : f.isRefusal = false := by
  induction vs generalizing index with
  | nil => cases hf
  | cons v vs ih =>
    rw [texts] at hf
    cases hv : v.text? with
    | none =>
      rw [hv] at hf
      obtain rfl := Except.error.inj hf
      rfl
    | some t =>
      rw [hv] at hf
      cases hrest : texts (index + 1) vs with
      | error g =>
        rw [hrest] at hf
        obtain rfl := Except.error.inj hf
        exact ih hrest
      | ok ts =>
        rw [hrest] at hf
        cases hf

/-- Nothing is refused when pieces are joined. -/
theorem Fragment.not_isRefusal_of_join {vs : List Value} (hf : join separator vs = .error f) :
    f.isRefusal = false := by
  rw [join] at hf
  cases htexts : texts 0 (vs.filter Value.isTrue) with
  | error g =>
    rw [htexts] at hf
    obtain rfl := Except.error.inj hf
    exact not_isRefusal_of_texts htexts
  | ok ts =>
    rw [htexts] at hf
    cases hf

/-- A handler set is complete, or it is refused in the name of the operation. -/
theorem Handlers.judged_resolve (h : Handlers) (operation : String) :
    Judged (fun both => h.onNil = some both.1 ∧ h.onCons = some both.2) (·.IsNamed operation)
      (h.resolve operation) := by
  unfold resolve
  split
  · exact ⟨_, _, _, rfl⟩
  · exact ⟨_, _, _, rfl⟩
  · next hnil hcons => exact ⟨hnil, hcons⟩

/-- What is refused on the way through a chain is refused in the name of the operation, or it is a
cell whose tail is no sequence, and the cells in front of it are passed.

**Proof sketch.** By induction on the chain, along the cases of the traversal. The first cell is
looked at together with its tail. If that is a sequence, the handler is called, and only what it
answers can be refused; behind a step the traversal goes on as it would have begun there. -/
theorem pieces_refusal
    (hnil : ∀ args f, onNil args = .error f → f.isRefusal = false)
    (hcons : ∀ head tail args f, onCons head tail args = .error f → f.isRefusal = false)
    (hf : (pieces operation onNil onCons args v).result = .error f)
    (hrefusal : f.isRefusal = true) :
    f.IsNamed operation ∨ ∃ front head last p, v = chain front (.cons head last) ∧
      last.isSequence = false ∧ Passes onCons (.cons head last) front args p ∧
      f = Sequence.malformed "dispatch" last := by
  fun_induction pieces operation onNil onCons args v with
  | case1 args head tail htail called g hcall =>
    obtain rfl := Except.error.inj hf
    cases hrefusal.symm.trans (hcons _ _ _ _ hcall)
  | case2 args head tail htail called piece next hcall hnext =>
    obtain rfl := Except.error.inj hf
    cases hrefusal
  | case3 args head tail htail called piece next hcall args' hnext rest ih =>
    have hrest : rest.result = .error f := by
      cases hresult : rest.result with
      | error g => simpa [hresult, Except.map] using hf
      | ok ps => simp [hresult, Except.map] at hf
    obtain hnamed | ⟨front, head', last, p, rfl, hlast, hp, rfl⟩ := ih hrest
    · exact .inl hnamed
    · exact .inr ⟨head :: front, head', last, _, rfl, hlast, .step hcall hnext hp, rfl⟩
  | case4 args head tail htail called other hcall hother =>
    obtain rfl := Except.error.inj hf
    exact .inl (Fault.isNamed_of_isRefusal hrefusal)
  | case5 args head tail htail =>
    obtain rfl := Except.error.inj hf
    exact .inr ⟨[], head, tail, _, rfl, by simpa using htail, .done args, rfl⟩
  | case6 args =>
    cases hlast : onNil args with
    | error g =>
      rw [hlast] at hf
      obtain rfl := Except.error.inj hf
      cases hrefusal.symm.trans (hnil _ _ hlast)
    | ok piece =>
      rw [hlast] at hf
      cases hf
  | case7 args v hcell hempty =>
    obtain rfl := Except.error.inj hf
    exact .inl (Fault.isNamed_of_isRefusal hrefusal)

/-- What is refused by a traversal is refused in the name of the operation, or it is a cell whose
tail is no sequence.

**Proof sketch.** A value that is no sequence and a handler that is missing are refused in the name
of the operation. On the way through the chain the faults are those of the pieces, and joining them
refuses nothing. -/
theorem traverse_refusal (hquiet : h.RefusesNothing)
    (hf : (traverse v h args separator operation).result = .error f)
    (hrefusal : f.isRefusal = true) :
    f.IsNamed operation ∨
      ∃ last, h.ComesTo args v last ∧ f = Sequence.malformed "dispatch" last := by
  cases hv : v.isSequence with
  | false =>
    rw [traverse_of_not_isSequence hv] at hf
    obtain rfl := Except.error.inj hf
    exact .inl (Fault.isNamed_of_isRefusal hrefusal)
  | true =>
    have hhandlers := h.judged_resolve operation
    rw [traverse, if_pos hv] at hf
    rcases hresolve : h.resolve operation with g | ⟨onNil, onCons⟩
    · rw [hresolve] at hf hhandlers
      obtain rfl := Except.error.inj hf
      exact .inl hhandlers
    · rw [hresolve] at hf hhandlers
      obtain ⟨hnil, hcons⟩ := hhandlers
      change (pieces operation onNil onCons args v).result.bind (Fragment.join separator) = _ at hf
      cases hpieces : (pieces operation onNil onCons args v).result with
      | error g =>
        rw [hpieces] at hf
        obtain rfl := Except.error.inj hf
        obtain hnamed | ⟨front, head, last, p, hv, hlast, hp, rfl⟩ :=
          pieces_refusal (hquiet.last onNil hnil) (hquiet.step onCons hcons) hpieces hrefusal
        · exact .inl hnamed
        · exact .inr ⟨last, ⟨onNil, onCons, front, head, p, hnil, hcons, hv, hlast, hp⟩, rfl⟩
      | ok ps =>
        rw [hpieces] at hf
        cases hrefusal.symm.trans (Fragment.not_isRefusal_of_join hf)

/-- A cell whose tail is no sequence is refused in the name of the routing step if the traversal
comes to it. -/
theorem Handlers.ComesTo.result_traverse (hcomes : h.ComesTo args v last) :
    (traverse v h args separator operation).result =
      .error (Sequence.malformed "dispatch" last) := by
  obtain ⟨onNil, onCons, front, head, p, hnil, hcons, rfl, hlast, hp⟩ := hcomes
  rw [hp.traverse_malformed hlast hnil hcons separator]

/-- A value that is no sequence is its own end. -/
theorem Value.unwind_of_not_isSequence (hv : v.isSequence = false) : v.unwind = ([], v) := by
  cases v <;> first | rfl | cases hv

/-- The end of cells in front of something that is no cell. -/
theorem Value.unwind_chain_cons {head : Value} (front : List Value)
    (hlast : last.isSequence = false) :
    (chain front (.cons head last)).unwind = (front ++ [head], last) := by
  rw [← chain_concat, unwind_chain _ (unwind_of_not_isSequence hlast)]

/-- Handlers that answer in full lead to the last cell of each chain that does not end in a
sequence. -/
theorem AnswersInFull.comesTo_iff (hfull : AnswersInFull onNil onCons)
    (hnil : h.onNil = some onNil) (hcons : h.onCons = some onCons) (args : List Value)
    (v last : Value) :
    h.ComesTo args v last ↔ v.unwind.1 ≠ [] ∧ v.unwind.2 = last ∧ last.isSequence = false := by
  constructor
  · rintro ⟨_, _, front, head, p, -, -, rfl, hlast, -⟩
    rw [Value.unwind_chain_cons front hlast]
    exact ⟨by simp, rfl, hlast⟩
  · rintro ⟨hcells, rfl, hlast⟩
    obtain ⟨front, head, hheads⟩ := (List.eq_nil_or_concat' v.unwind.1).resolve_left hcells
    obtain ⟨p, texts, hp, -⟩ := hfull.exists_passes (.cons head v.unwind.2) front args
    have hv : v = chain front (.cons head v.unwind.2) := by
      rw [← Value.chain_concat, ← hheads, v.chain_unwind]
    exact ⟨onNil, onCons, front, head, p, hnil, hcons, hv, hlast, hp⟩

/-! ## Parameters and fields -/

/-- A chain that ends in a sequence is a sequence. -/
theorem Value.isSequence_of_unwind (hv : v.unwind.2.isSequence = true) : v.isSequence = true := by
  cases v <;> first | rfl | exact hv

/-- The heads and the end of a chain can be written if the chain can be. -/
theorem Value.isWritable_unwind (hv : v.isWritable = true) :
    v.unwind.1.all isWritable = true ∧ v.unwind.2.isWritable = true := by
  rwa [← v.chain_unwind, isWritable_chain, Bool.and_eq_true] at hv

namespace Indexed

/-- The handlers that write declarators answer for heads that can be written. -/
theorem answersFor {heads : List Value} (hheads : heads.all Value.isWritable = true)
    (ending : Text) : AnswersFor Indexed.onNil (Indexed.onCons ending) heads := by
  refine ⟨fun head hhead tail args => ?_, fun _ => ⟨_, _, rfl, rfl⟩⟩
  have hwritable : [head].all Value.isWritable = true := by
    rw [List.all_cons, List.all_eq_true.mp hheads head hhead]
    rfl
  exact ⟨_, _, _, Fault.whenShown_ok hwritable _, rfl⟩

/-- The handlers that write declarators refuse nothing. -/
theorem refusesNothing (ending : Text) : (declarators ending).RefusesNothing := by
  constructor
  · intro onNil' hnil args f hf
    obtain rfl := Option.some.inj hnil
    cases hf
  · intro onCons' hcons head tail args f hf
    obtain rfl := Option.some.inj hcons
    rw [Indexed.onCons, Fault.whenShown] at hf
    split at hf
    · cases hf
    · obtain rfl := Except.error.inj hf
      rfl

/-- If a value can be written, then there are fields for it if it ends in the empty sequence, and
all other ends are refused. -/
theorem judged_fields (hv : v.isWritable = true) :
    Judged (fun _ => v.unwind.2 = .nil)
      (Sequence.RefusesEnd "indexedFields" v.unwind.1 v.unwind.2) (fields v) := by
  have hheads := answersFor (Value.isWritable_unwind hv).1 ";"
  unfold fields
  split
  · exact hheads.judged_traverse (h := declarators ";") rfl rfl _ _ _
  · next hseq =>
    rw [Value.unwind_of_not_isSequence (by simpa using hseq)]
    exact .mismatch _ (.inl rfl) (by rintro rfl; exact hseq rfl)

/-- If a value can be written, then there are parameters for it if it ends in the empty sequence,
and all other ends are refused. -/
theorem judged_params (hv : v.isWritable = true) :
    Judged (fun _ => v.unwind.2 = .nil)
      (Sequence.RefusesEnd "indexedParams" v.unwind.1 v.unwind.2) (params v) := by
  have hheads := answersFor (Value.isWritable_unwind hv).1 ""
  unfold params
  split
  · split
    · exact rfl
    · exact (hheads.judged_traverse (h := declarators "") rfl rfl _ _ _).bind (fun _ hf => hf)
        fun _ hend => hend
  · next hseq =>
    rw [Value.unwind_of_not_isSequence (by simpa using hseq)]
    exact .mismatch _ (.inl rfl) (by rintro rfl; exact hseq rfl)

end Indexed

/-! ## Names -/

/-- A tail that can be written and is no sequence is refused in the name of the routing step
only. -/
theorem Sequence.isNamed_malformed_iff (hlast : last.isWritable = true) :
    (malformed "dispatch" last).IsNamed operation ↔ operation = "dispatch" := by
  rw [malformed, Fault.refusal_of_isWritable hlast]
  constructor
  · rintro ⟨_, _, _, heq⟩
    exact (Fault.refused.inj heq).2.1.symm
  · rintro rfl
    exact ⟨_, _, _, rfl⟩

/-- A value that can be written is refused in the name of the operation unless there is a last cell
whose tail is no sequence. -/
theorem Sequence.isNamed_iff_of_judged {α : Type} {r : Except Fault α}
    (hr : Judged (fun _ => v.unwind.2 = .nil) (RefusesEnd operation v.unwind.1 v.unwind.2) r)
    (hv : v.isWritable = true) (hoperation : operation ≠ "dispatch") :
    (∀ f, r = .error f → f.IsNamed operation) ↔
      v.unwind.1 = [] ∨ v.unwind.2.isSequence = true := by
  have hwritable := (Value.isWritable_unwind hv).2
  cases r with
  | ok a =>
    have hend : v.unwind.2 = .nil := hr
    rw [hend]
    exact iff_of_true (by simp) (.inr rfl)
  | error f =>
    have hend : RefusesEnd operation v.unwind.1 v.unwind.2 f := hr
    cases hend with
    | malformed hcells hlast =>
      refine iff_of_false (fun hnamed => ?_) (by simp [hcells, hlast])
      exact hoperation ((isNamed_malformed_iff hwritable).mp (hnamed _ rfl))
    | mismatch expected hlast hnil =>
      refine iff_of_true (fun g hg => ?_) hlast
      obtain rfl := Except.error.inj hg
      rw [Fault.refusal_of_isWritable hwritable]
      exact ⟨_, _, _, rfl⟩

/-- When the refusals of a traversal carry the name of its operation: if and only if the traversal
does not come to a cell whose tail is no sequence, unless the operation is the routing step itself,
or the refusal cannot be shown because a number in the tail is too long. The refusal of that cell
carries the name of the routing step. Handlers that answer in full come to it on each chain that
does not end in a sequence, and so do parameters and fields: their faults name them if and only if
the value is no cell or the end of its chain is a sequence.

**Proof sketch.** A refusal is made by the traversal, since the handlers refuse nothing, so it
carries the name of the operation unless it is that of the cell to which the traversal comes. The
fault of this cell is a refusal if its tail can be written. -/
theorem refusals_named_iff (hquiet : h.RefusesNothing) (v : Value) (args : List Value)
    (separator : Text) (operation : String) :
    ((∀ f, (traverse v h args separator operation).result = .error f →
        f.isRefusal = true → f.IsNamed operation) ↔
      operation = "dispatch" ∨ ∀ last, h.ComesTo args v last → last.isWritable = false) ∧
    (∀ last, h.ComesTo args v last →
      (traverse v h args separator operation).result =
        .error (Sequence.malformed "dispatch" last)) ∧
    (∀ onNil onCons, h.onNil = some onNil → h.onCons = some onCons → AnswersInFull onNil onCons →
      ∀ last, h.ComesTo args v last ↔
        v.unwind.1 ≠ [] ∧ v.unwind.2 = last ∧ last.isSequence = false) ∧
    (v.isWritable = true →
      ((∀ f, Indexed.params v = .error f → f.IsNamed "indexedParams") ↔
        v.unwind.1 = [] ∨ v.unwind.2.isSequence = true) ∧
      ((∀ f, Indexed.fields v = .error f → f.IsNamed "indexedFields") ↔
        v.unwind.1 = [] ∨ v.unwind.2.isSequence = true)) := by
  refine ⟨⟨fun hnamed => ?_, fun hnames f hf hrefusal => ?_⟩,
    fun last hcomes => hcomes.result_traverse,
    fun onNil onCons hnil hcons hfull => hfull.comesTo_iff hnil hcons args v,
    fun hv => ⟨?_, ?_⟩⟩
  · refine or_iff_not_imp_left.mpr fun hoperation last hcomes => ?_
    by_contra hlast
    have hwritable : last.isWritable = true := by simpa using hlast
    have hrefused := hnamed _ hcomes.result_traverse
      (congrArg Fault.isRefusal (Fault.refusal_of_isWritable hwritable ..))
    exact hoperation ((Sequence.isNamed_malformed_iff hwritable).mp hrefused)
  · obtain hnamed | ⟨last, hcomes, rfl⟩ := traverse_refusal hquiet hf hrefusal
    · exact hnamed
    · obtain rfl | hunwritable := hnames
      · exact Fault.isNamed_of_isRefusal hrefusal
      · have hlong := hunwritable last hcomes
        rw [Sequence.malformed, Fault.refusal_of_not_isWritable hlong] at hrefusal
        cases hrefusal
  · exact Sequence.isNamed_iff_of_judged (Indexed.judged_params hv) hv (by decide)
  · exact Sequence.isNamed_iff_of_judged (Indexed.judged_fields hv) hv (by decide)

/-- A cell with a number behind it. -/
def numberBehind : Value :=
  .cons (.text "int") (.int 5)

/-- A number behind a cell is refused in the name of the routing step, also where it is fields or
parameters that are asked for. -/
theorem refusals_named_iff_numberBehind :
    (Indexed.declarators ";").RefusesNothing ∧ numberBehind.isWritable = true ∧
    (traverse numberBehind (Indexed.declarators ";") [.int 0] " " "traverse").result =
      .error (Sequence.malformed "dispatch" (.int 5)) ∧
    (¬∀ f, (traverse numberBehind (Indexed.declarators ";") [.int 0] " " "traverse").result =
      .error f → f.isRefusal = true → f.IsNamed "traverse") ∧
    (¬∀ f, Indexed.params numberBehind = .error f → f.IsNamed "indexedParams") ∧
    ¬∀ f, Indexed.fields numberBehind = .error f → f.IsNamed "indexedFields" := by
  have hquiet : (Indexed.declarators ";").RefusesNothing := Indexed.refusesNothing ";"
  have hwritable : numberBehind.isWritable = true := by decide +kernel
  obtain ⟨hnamed, hrefused, -, hindexed⟩ :=
    refusals_named_iff hquiet numberBehind [.int 0] " " "traverse"
  have hstops : (Indexed.declarators ";").ComesTo [.int 0] numberBehind (.int 5) :=
    ⟨_, _, [], .text "int", _, rfl, rfl, rfl, rfl, .done _⟩
  obtain ⟨hparams, hfields⟩ := hindexed hwritable
  have hcell : ¬(numberBehind.unwind.1 = [] ∨ numberBehind.unwind.2.isSequence = true) := by
    simp [numberBehind, Value.unwind, Value.isSequence]
  refine ⟨hquiet, hwritable, hrefused _ hstops, fun h => ?_, mt hparams.mp hcell,
    mt hfields.mp hcell⟩
  obtain hname | hunwritable := hnamed.mp h
  · exact absurd hname (by decide)
  · exact absurd (hunwritable _ hstops) (by decide +kernel)

end CHeaders
