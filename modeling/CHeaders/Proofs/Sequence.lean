import CHeaders.Proofs.Operation
import CHeaders.Proofs.Traversal

/-!
# Ends of sequences

A chain of cells is gone through in two ways. A walk looks at the tail of each cell, which has to be
a sequence; what kind of sequence it is does not matter to it. A traversal looks at the tails too,
and at the end it asks for the empty sequence. So the two agree on every chain but for those that
end in a sequence of another family: these have their terms, and they are refused by traversals.

What agrees in any case is the order: if there are terms, then the handler for cells is called with
one after the other, also if the end is refused.

## Main definitions

* `CHeaders.HandlerCall.head?`: the term that a call for a cell gets.

## Main results

* `CHeaders.Value.end_cases`: the ends of chains.
* `CHeaders.Sequence.toList_eq_ok_iff`: which values have terms.
* `CHeaders.unwind_of_traverse`: what is traversed ends in the empty sequence.
* `CHeaders.AnswersFor.judged_traverse`, `CHeaders.AnswersInFull.exists_traverse_iff`: how
  traversals by handlers that answer end, and which values they traverse.
* `CHeaders.Sequence.consumers_agree_iff`: when walks and traversals agree.
-/

namespace CHeaders

open Value (chain)

/-! ## Ends -/

/-- The end of a chain is no cell. -/
theorem Value.unwind_end (v : Value) : v.unwind.2.unwind = ([], v.unwind.2) := by
  fun_induction unwind v with
  | case1 h t ih => exact ih
  | case2 v hcell =>
    cases v <;> first | rfl | exact absurd rfl (hcell _ _)

/-- The last head of a chain is that of a cell in front of its end. -/
theorem Value.chain_concat (front : List Value) (head last : Value) :
    chain (front ++ [head]) last = chain front (.cons head last) :=
  List.foldr_append

/-- The end of a chain is the empty sequence, a sequence of another family, or no sequence. -/
theorem Value.end_cases (v : Value) : v.unwind.2 = .nil ∨ (∃ serial, v.unwind.2 = .foreign serial) ∨
    v.unwind.2.isSequence = false := by
  have hend := v.unwind_end
  generalize v.unwind.2 = last at hend ⊢
  cases last with
  | nil => exact .inl rfl
  | foreign serial => exact .inr (.inl ⟨serial, rfl⟩)
  | cons h t => simp [unwind] at hend
  | _ => exact .inr (.inr rfl)

namespace Sequence

/-- A sequence is walked through to its end, which has to be a sequence. -/
theorem walk_eq {v : Value} (h : v.isSequence = true) :
    walk v = (v.unwind.1, if v.unwind.2.isSequence then none
      else some (malformed "iter_terms" v.unwind.2)) := by
  fun_induction walk v with
  | case1 head tail htail terms fault hwalk ih =>
    have ih := ih htail
    rw [hwalk] at ih
    obtain ⟨rfl, rfl⟩ := Prod.mk.inj ih
    rfl
  | case2 head tail htail =>
    have hend : tail.unwind = ([], tail) := by
      cases tail <;> first | rfl | exact absurd rfl htail
    simp [Value.unwind, hend, htail]
  | case3 v hcell =>
    have hend : v.unwind = ([], v) := by
      cases v <;> first | rfl | exact absurd rfl (hcell _ _)
    rw [hend, if_pos h, if_pos h]

/-- A value has terms if and only if it is a chain that ends in a sequence, and then its terms are
its heads. -/
theorem toList_eq_ok_iff {v : Value} {xs : List Value} :
    toList v = .ok xs ↔ v.unwind.2.isSequence = true ∧ v.unwind.1 = xs := by
  cases hv : v.isSequence with
  | false =>
    have hend : v.unwind = ([], v) := by cases v <;> first | rfl | cases hv
    have hwalk : walk v = ([], some (mismatch "iter_terms" v)) := by
      cases v <;> first | rfl | cases hv
    simp [toList, hwalk, hend, hv]
  | true =>
    rw [toList, walk_eq hv]
    cases hend : v.unwind.2.isSequence <;> simp

/-- A value has a length if and only if it has terms, and then it is their number. -/
theorem length_eq_ok_iff {v : Value} {n : Nat} :
    length v = .ok n ↔ v.unwind.2.isSequence = true ∧ v.unwind.1.length = n := by
  rw [length, map_eq_ok_iff]
  constructor
  · rintro ⟨xs, hxs, rfl⟩
    obtain ⟨hend, rfl⟩ := toList_eq_ok_iff.mp hxs
    exact ⟨hend, rfl⟩
  · rintro ⟨hend, rfl⟩
    exact ⟨_, toList_eq_ok_iff.mpr ⟨hend, rfl⟩, rfl⟩

end Sequence

/-! ## Traversals -/

/-- The term that a call for a cell gets. -/
def HandlerCall.head? : HandlerCall → Option Value
  | onNil _ => none
  | onCons head _ _ => some head

variable {h : Handlers} {onNil : Handler} {onCons : Value → Value → Handler} {rest : Value}
  {heads args : List Value} {p : Passage} {separator : Text} {operation : String}

/-- The cells that are passed are passed in order. -/
theorem Passes.filterMap_calls (hp : Passes onCons rest heads args p) :
    p.calls.filterMap HandlerCall.head? = heads := by
  induction hp with
  | done => rfl
  | @step head _ _ heads _ _ p _ _ _ ih =>
    exact congrArg (head :: ·) ih

/-- Handlers that answer for the heads go through a chain that ends in the empty sequence. -/
theorem AnswersFor.traverse_nil (hfor : AnswersFor onNil onCons heads)
    (hnil : h.onNil = some onNil) (hcons : h.onCons = some onCons) (args : List Value) :
    (∃ t, (traverse (chain heads .nil) h args separator operation).result = .ok t) ∧
      (traverse (chain heads .nil) h args separator operation).calls.filterMap
        HandlerCall.head? = heads := by
  obtain ⟨p, texts, hp, htexts⟩ := hfor.exists_passes .nil args
  obtain ⟨last, text, hlast, htext⟩ := hfor.last p.args
  have hall : List.Forall₂ (fun v t => v.text? = some t) (p.pieces ++ [last]) (texts ++ [text]) :=
    List.rel_append htexts (.cons htext .nil)
  rw [hp.traverse_chain_nil hlast hnil hcons]
  refine ⟨⟨_, Fragment.join_eq_ok separator hall⟩, ?_⟩
  rw [List.filterMap_append, hp.filterMap_calls]
  exact List.append_nil heads

/-- A chain that ends in a sequence of another family is refused behind its last cell. -/
theorem AnswersFor.traverse_foreign (hfor : AnswersFor onNil onCons heads)
    (hnil : h.onNil = some onNil) (hcons : h.onCons = some onCons) (args : List Value)
    (serial : Nat) :
    (traverse (chain heads (.foreign serial)) h args separator operation).result =
        .error (Sequence.mismatch operation (.foreign serial)) ∧
      (traverse (chain heads (.foreign serial)) h args separator operation).calls.filterMap
        HandlerCall.head? = heads := by
  obtain ⟨p, texts, hp, -⟩ := hfor.exists_passes (.foreign serial) args
  rw [hp.traverse_chain_foreign hnil hcons separator]
  exact ⟨rfl, hp.filterMap_calls⟩

/-- A value that is no sequence is refused before any handler is called. -/
theorem traverse_of_not_isSequence {v : Value} (hv : v.isSequence = false) :
    (traverse v h args separator operation).result = .error (Sequence.mismatch operation v) := by
  rw [traverse, if_neg (by simp [hv])]
  rfl

/-- How a chain is refused whose end is not the empty sequence: if there is a last cell, and its
tail is no sequence, then the routing step refuses this cell; any other end is refused in the name
of the operation. -/
inductive Sequence.RefusesEnd (operation : String) (heads : List Value) (last : Value) :
    Fault → Prop
  | malformed (hcells : heads ≠ []) (hlast : last.isSequence = false) :
      RefusesEnd operation heads last (Sequence.malformed "dispatch" last)
  | mismatch (expected : String) (hlast : heads = [] ∨ last.isSequence = true)
      (hnil : last ≠ .nil) :
      RefusesEnd operation heads last (.refusal .typeMismatch operation expected last)

/-- Handlers that answer for all heads traverse the values that end in the empty sequence, and all
other ends are refused.

**Proof sketch.** By the ends of chains. The cells in front of the end are passed; if the end is no
sequence, then it is refused together with the last cell, so the cells in front of that one are
passed. -/
theorem AnswersFor.judged_traverse {v : Value} (hfor : AnswersFor onNil onCons v.unwind.1)
    (hnil : h.onNil = some onNil) (hcons : h.onCons = some onCons) (args : List Value)
    (separator : Text) (operation : String) :
    Judged (fun _ => v.unwind.2 = .nil) (Sequence.RefusesEnd operation v.unwind.1 v.unwind.2)
      (traverse v h args separator operation).result := by
  suffices hchain : ∀ heads last, AnswersFor onNil onCons heads → (last = .nil ∨
      (∃ serial, last = .foreign serial) ∨ last.isSequence = false) →
      Judged (fun _ => last = .nil) (Sequence.RefusesEnd operation heads last)
        (traverse (chain heads last) h args separator operation).result by
    have hv := hchain v.unwind.1 v.unwind.2 hfor v.end_cases
    rwa [v.chain_unwind] at hv
  rintro heads last hheads (rfl | ⟨serial, rfl⟩ | hlast)
  · have hreturns : ∃ t, (traverse (chain heads .nil) h args separator operation).result = .ok t :=
      (hheads.traverse_nil hnil hcons args).1
    obtain ⟨t, ht⟩ := hreturns
    rw [ht]
    exact rfl
  · rw [(hheads.traverse_foreign hnil hcons args serial).1]
    exact .mismatch _ (.inr rfl) (by simp)
  · rcases List.eq_nil_or_concat' heads with rfl | ⟨front, head, rfl⟩
    · rw [chain, List.foldr_nil, traverse_of_not_isSequence hlast]
      exact .mismatch _ (.inl rfl) (by rintro rfl; cases hlast)
    · obtain ⟨p, texts, hp, -⟩ :=
        (hheads.mono (List.subset_append_left front [head])).exists_passes (.cons head last) args
      rw [Value.chain_concat, hp.traverse_malformed hlast hnil hcons separator]
      exact .malformed (by simp) hlast

/-- What is gone through to its end ends in the empty sequence. -/
theorem judged_pieces (operation : String) (onNil : Handler) (onCons : Value → Value → Handler)
    (args : List Value) (v : Value) :
    Judged (fun _ => v.unwind.2 = .nil) (fun _ => True)
      (pieces operation onNil onCons args v).result := by
  fun_induction pieces operation onNil onCons args v with
  | case3 args head tail htail called piece next hcall args' hnext rest ih =>
    exact ih.map fun _ hend => hend
  | case6 args => cases onNil args <;> trivial
  | _ => trivial

/-- What is traversed ends in the empty sequence, whatever the handlers are. -/
theorem unwind_of_traverse {v : Value} {t : Text}
    (ht : (traverse v h args separator operation).result = .ok t) : v.unwind.2 = .nil := by
  rw [traverse] at ht
  split at ht
  · split at ht
    · cases ht
    · obtain ⟨vs, hvs, -⟩ := bind_eq_ok_iff.mp ht
      exact (judged_pieces operation _ _ args v).of_eq_ok hvs
  · cases ht

/-- A value is traversed by handlers that answer in full if and only if it ends in the empty
sequence. If it ends in a sequence, the handler for cells is called with its heads in order. -/
theorem AnswersInFull.exists_traverse_iff (hfull : AnswersInFull onNil onCons)
    (hnil : h.onNil = some onNil) (hcons : h.onCons = some onCons) (v : Value)
    (args : List Value) (separator : Text) (operation : String) :
    ((∃ t, (traverse v h args separator operation).result = .ok t) ↔ v.unwind.2 = .nil) ∧
    (v.unwind.2.isSequence = true →
      (traverse v h args separator operation).calls.filterMap HandlerCall.head? = v.unwind.1) := by
  have hfor := hfull.answersFor v.unwind.1
  have hv := v.chain_unwind
  refine ⟨⟨fun ⟨t, ht⟩ => unwind_of_traverse ht, fun hend => ?_⟩, fun hseq => ?_⟩
  · rw [hend] at hv
    rw [← hv]
    exact (hfor.traverse_nil hnil hcons args).1
  · have hcalls : ∀ last, (last = .nil ∨ (∃ serial, last = .foreign serial) ∨
        last.isSequence = false) → last.isSequence = true →
        (traverse (chain v.unwind.1 last) h args separator operation).calls.filterMap
          HandlerCall.head? = v.unwind.1 := by
      rintro last (rfl | ⟨serial, rfl⟩ | hlast) hlast'
      · exact (hfor.traverse_nil hnil hcons args).2
      · exact (hfor.traverse_foreign hnil hcons args serial).2
      · cases hlast.symm.trans hlast'
    have hend := hcalls v.unwind.2 v.end_cases hseq
    rwa [hv] at hend

/-! ## Fields -/

/-- There are fields for a value if and only if it ends in the empty sequence and can be written. -/
theorem Indexed.exists_fields_iff (v : Value) :
    (∃ t, fields v = .ok t) ↔ v.unwind.2 = .nil ∧ v.isWritable = true := by
  have hfields (vs : List Value) :
      (∃ t, fields (Value.ofList vs) = .ok t) ↔ vs.all Value.isWritable = true := by
    rw [fields_ofList, Fault.whenShown]
    split <;> simp_all
  have hv := v.chain_unwind
  constructor
  · rintro ⟨t, ht⟩
    have hend : v.unwind.2 = .nil := by
      rw [fields] at ht
      split at ht
      · exact unwind_of_traverse ht
      · cases ht
    rw [hend] at hv
    rw [← hv] at ht ⊢
    exact ⟨by rw [hv, hend], (Value.isWritable_ofList _).trans ((hfields _).mp ⟨t, ht⟩)⟩
  · rintro ⟨hend, hwritable⟩
    rw [hend] at hv
    rw [← hv] at hwritable ⊢
    exact (hfields _).mpr ((Value.isWritable_ofList _).symm.trans hwritable)

namespace Sequence

/-- When walks and traversals agree on a value: if and only if it does not end in a sequence of
another family. It has terms and a length if it ends in a sequence, it is traversed by handlers that
answer in full if it ends in the empty sequence, and there are fields for it if they can be written
besides. If there are terms, then their number is the length, and the traversal calls the handler
for cells with one after the other. -/
theorem consumers_agree_iff (hfull : AnswersInFull onNil onCons) (hnil : h.onNil = some onNil)
    (hcons : h.onCons = some onCons) (v : Value) (args : List Value) (separator : Text)
    (operation : String) :
    (((∃ xs, toList v = .ok xs) ↔
        ∃ t, (traverse v h args separator operation).result = .ok t) ↔
      ∀ serial, v.unwind.2 ≠ .foreign serial) ∧
    ((∃ xs, toList v = .ok xs) ↔ v.unwind.2.isSequence = true) ∧
    ((∃ n, length v = .ok n) ↔ v.unwind.2.isSequence = true) ∧
    ((∃ t, (traverse v h args separator operation).result = .ok t) ↔ v.unwind.2 = .nil) ∧
    ((∃ t, Indexed.fields v = .ok t) ↔ v.unwind.2 = .nil ∧ v.isWritable = true) ∧
    ∀ xs, toList v = .ok xs → length v = .ok xs.length ∧
      (traverse v h args separator operation).calls.filterMap HandlerCall.head? = xs := by
  obtain ⟨htraverse, hcalls⟩ := hfull.exists_traverse_iff hnil hcons v args separator operation
  have hlist : (∃ xs, toList v = .ok xs) ↔ v.unwind.2.isSequence = true := by
    simp only [toList_eq_ok_iff, exists_and_left, exists_eq', and_true]
  have hlength : (∃ n, length v = .ok n) ↔ v.unwind.2.isSequence = true := by
    simp only [length_eq_ok_iff, exists_and_left, exists_eq', and_true]
  refine ⟨?_, hlist, hlength, htraverse, Indexed.exists_fields_iff v, fun xs hxs => ?_⟩
  · rw [hlist, htraverse]
    obtain hend | ⟨serial, hend⟩ | hend := v.end_cases
    · simp [hend, Value.isSequence]
    · simp [hend, Value.isSequence]
    · refine iff_of_true ?_ fun serial hforeign => by rw [hforeign] at hend; cases hend
      rw [hend]
      refine iff_of_false Bool.false_ne_true fun hempty => ?_
      rw [hempty] at hend
      cases hend
  · obtain ⟨hend, rfl⟩ := toList_eq_ok_iff.mp hxs
    exact ⟨length_eq_ok_iff.mpr ⟨hend, rfl⟩, hcalls hend⟩

/-- Handlers that write a star for each term. -/
def stars : Handlers where
  family := "Stars"
  onNil := some fun _ => .ok (.fragment "")
  onCons := some fun _ _ args => .ok (.step (.fragment "*") (.tuple args))

/-- A cell in front of a sequence of another family. -/
def endedElsewhere : Value :=
  .cons (.text "int") (.foreign 0)

/-- A cell in front of a sequence of another family has a term and a length, and it is refused by
traversals, by that for fields among others. -/
theorem consumers_agree_iff_elsewhere :
    toList endedElsewhere = .ok [.text "int"] ∧ length endedElsewhere = .ok 1 ∧
    (¬∃ t, (traverse endedElsewhere stars [] " " "traverse").result = .ok t) ∧
    (¬∃ t, Indexed.fields endedElsewhere = .ok t) ∧
    ¬((∃ xs, toList endedElsewhere = .ok xs) ↔
      ∃ t, (traverse endedElsewhere stars [] " " "traverse").result = .ok t) := by
  obtain ⟨hagree, -, -, htraverse, hfields, hterms⟩ := consumers_agree_iff (h := stars)
    ⟨fun _ _ _ => ⟨_, _, _, rfl, rfl⟩, fun _ => ⟨_, _, rfl, rfl⟩⟩ rfl rfl endedElsewhere [] " "
    "traverse"
  have hlist : toList endedElsewhere = .ok [.text "int"] := rfl
  refine ⟨hlist, (hterms _ hlist).1, fun h => ?_, fun h => ?_, fun h => hagree.mp h 0 rfl⟩
  · cases htraverse.mp h
  · cases (hfields.mp h).1

end Sequence

end CHeaders
