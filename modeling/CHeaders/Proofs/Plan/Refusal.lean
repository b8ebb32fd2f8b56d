import CHeaders.Proofs.Plan.Schema
import CHeaders.Proofs.Value.Order

/-!
# How documents are refused

A document that is not read as a plan is refused as a malformed plan, with one exception. The
refusal of a mapping without a name shows the keys of the mapping in order. If they have no order,
then this is what goes wrong.

## Main definitions

* `CHeaders.Plan.HasUnorderedKeys`: the mappings without a name whose keys have no order.

## Main results

* `CHeaders.Plan.reports_refusal`: what comes of a document, for all documents whose keys are
  scalars.
-/

namespace CHeaders.Plan

open Value (IsPart)

/-- The document is a mapping without a name, and its keys are not all in one class of values that
have an order to each other. -/
def HasUnorderedKeys (d : Value) : Prop :=
  ∃ es, d.bare = .dict es ∧ Value.lookup "name" es = none ∧ 2 ≤ es.length ∧
    ¬∃ c, ∀ e ∈ es, e.1.orderClass = some c

/-- The fault is the refusal of a malformed plan, and what it shows can be written. -/
def IsShownRefusal (f : Fault) : Prop :=
  ∃ operation expected given, f = .refused .plan operation expected given ∧
    given.isWritable = true

/-- A refusal that shows a part of a document that can be written can be shown. -/
theorem isShownRefusal_of_showsPart {d : Value} {f : Fault} (hwritable : d.isWritable = true)
    (h : f.ShowsPart d) : IsShownRefusal f := by
  obtain ⟨operation, expected, given, rfl, hgiven⟩ := h
  exact ⟨_, _, _, rfl, hgiven.isWritable_eq hwritable⟩

/-- A mapping without a name is refused if its keys have an order.

**Proof sketch.** Without a name the keys are sorted to be shown. If they have no order, that is the
fault. Otherwise the sorted keys are refused, and they can be shown since they are parts of the
document. -/
theorem readDocument_nameless {d : Value} {es : List (Value × Value)}
    (hwritable : d.isWritable = true) (hes : d.bare = .dict es)
    (hname : Value.lookup "name" es = none) (hscalar : ∀ e ∈ es, e.1.isScalar = true) :
    ∃ f, readDocument d = .error f ∧
      (HasUnorderedKeys d ∧ f.isOrder = true ∨ ¬HasUnorderedKeys d ∧ IsShownRefusal f) := by
  have hunordered : HasUnorderedKeys d ↔ ¬((es.map Prod.fst).length ≤ 1 ∨
      ∃ c, ∀ k ∈ es.map Prod.fst, Value.orderClass k = some c) := by
    simp only [HasUnorderedKeys, hes, Value.dict.injEq, exists_eq_left', hname, true_and,
      List.length_map, List.forall_mem_map, not_or, Nat.not_le]
    rfl
  have hkeys : ∀ k ∈ es.map Prod.fst, k.isWritable = true := by
    have hentries := IsPart.isWritable_eq (IsPart.refl.bare) hwritable
    rw [hes, Value.isWritable, Value.entriesWritable_eq_all, List.all_eq_true] at hentries
    exact List.forall_mem_map.mpr fun e he => ((Bool.and_eq_true _ _).mp (hentries e he)).1
  have hsort := Value.decides_sortBy id (es.map Prod.fst)
    (List.forall_mem_map.mpr hscalar)
  simp only [readDocument, hes, hname]
  cases hkeysSorted : Value.sortBy id (es.map Prod.fst) with
  | error f =>
    rw [hkeysSorted] at hsort
    exact ⟨f, rfl, .inl ⟨hunordered.mpr hsort.1, hsort.2⟩⟩
  | ok keys =>
    rw [hkeysSorted] at hsort
    refine ⟨_, rfl, .inr ⟨fun h => hunordered.mp h hsort.1, _, _, _, rfl, ?_⟩⟩
    rw [Value.isWritable, Value.allWritable_eq_all, List.all_eq_true]
    exact fun k hk => hkeys k (hsort.2.mem_iff.mp hk)

/-- What is not a mapping is refused. -/
theorem readDocument_of_not_dict {d : Value} (h : ∀ es, d.bare ≠ .dict es) :
    readDocument d = .error (.refused .plan "plan_from_dict" "a mapping" d) := by
  rw [readDocument]
  split
  · rename_i es hes
    exact absurd hes (h es)
  · rfl

/-- What comes of a document: something is read, or the document is refused, or its keys have no
order.

**Proof sketch.** What is no mapping is shown as a whole, and of a mapping with a name a part is
shown. Only a mapping without a name has its keys sorted. -/
theorem judged_readDocument {d : Value} (hcut : d.isCut = false) (hwritable : d.isWritable = true)
    (hscalar : ∀ es, d.bare = .dict es → ∀ e ∈ es, e.1.isScalar = true) :
    Judged (fun _ => ¬HasUnorderedKeys d)
      (fun f => HasUnorderedKeys d ∧ f.isOrder = true ∨ ¬HasUnorderedKeys d ∧ IsShownRefusal f)
      (readDocument d) := by
  by_cases hdict : ∃ es, d.bare = .dict es
  · obtain ⟨es, hes⟩ := hdict
    cases hname : Value.lookup "name" es with
    | none =>
      obtain ⟨f, hf, h⟩ := readDocument_nameless hwritable hes hname (hscalar es hes)
      rw [hf]
      exact h
    | some name =>
      have hnot : ¬HasUnorderedKeys d := by simp [HasUnorderedKeys, hes, hname]
      have hentries : IsPart d (.dict es) := hes ▸ IsPart.refl.bare
      have hread := decides_readDocument hcut hes hname
        ((hentries.entry hname).isWritable_eq hwritable)
      exact Judged.imp hread (fun _ _ => hnot)
        fun f hf => .inr ⟨hnot, isShownRefusal_of_showsPart hwritable hf.2⟩
  · have hnot : ¬HasUnorderedKeys d := fun ⟨es, hes, _⟩ => hdict ⟨es, hes⟩
    rw [readDocument_of_not_dict fun es hes => hdict ⟨es, hes⟩]
    exact .inr ⟨hnot, _, _, _, rfl, hwritable⟩

/-- What comes of a document without cycles whose numbers can be written and whose keys are scalars:
if it is a mapping without a name and its keys have no order, then this is what goes wrong;
otherwise a plan is read, or the document is refused as a malformed plan. -/
theorem reports_refusal {d : Value} (hcut : d.isCut = false) (hwritable : d.isWritable = true)
    (hscalar : ∀ es, d.bare = .dict es → ∀ e ∈ es, e.1.isScalar = true) :
    (HasUnorderedKeys d → ∃ f, ofDocument d = .error f ∧ f.isOrder = true) ∧
    (¬HasUnorderedKeys d → (∃ p, ofDocument d = .ok p) ∨
      ∃ operation expected given,
        ofDocument d = .error (.refused .plan operation expected given)) := by
  have hread := judged_readDocument hcut hwritable hscalar
  rw [ofDocument]
  cases hd : readDocument d with
  | ok p =>
    rw [hd] at hread
    exact ⟨fun h => absurd h hread, fun _ => .inl ⟨p, rfl⟩⟩
  | error f =>
    rw [hd] at hread
    rcases hread with ⟨hunordered, hf⟩ | ⟨hnot, operation, expected, given, rfl, hgiven⟩
    · refine ⟨fun _ => ⟨f.worded, rfl, ?_⟩, fun hnot => absurd hunordered hnot⟩
      cases f <;> simp_all [Fault.isOrder, Fault.worded]
    · refine ⟨fun h => absurd h hnot, fun _ => .inr ⟨operation, expected, given, ?_⟩⟩
      rw [Fault.whenShown, Fault.worded, Fault.refusal_of_isWritable hgiven]

/-- A mapping with a number and a text as keys. -/
def mixedKeys : Value :=
  .dict [(.int 1, .text "a"), (.text "b", .text "c")]

/-- A mapping with a number and a text as keys and without a name is not refused: its keys have no
order. -/
theorem reports_mixedKeys : ∃ f, ofDocument mixedKeys = .error f ∧ f.isOrder = true := by
  have hscalar : ∀ es, mixedKeys.bare = .dict es → ∀ e ∈ es, e.1.isScalar = true := by
    rintro es ⟨⟩
    simp [Value.isScalar, Value.bare]
  refine (reports_refusal rfl (by decide +kernel) hscalar).1 ⟨_, rfl, rfl, Nat.le_refl 2, ?_⟩
  rintro ⟨c, hc⟩
  have hnumber : some Value.OrderClass.number = some c := hc (.int 1, .text "a") (by simp)
  have htext : some Value.OrderClass.text = some c := hc (.text "b", .text "c") (by simp)
  cases hnumber.trans htext.symm

end CHeaders.Plan
