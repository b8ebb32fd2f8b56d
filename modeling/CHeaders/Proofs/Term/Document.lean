import CHeaders.Plan.Document
import CHeaders.Proofs.Result
import CHeaders.Proofs.Term.Form
import CHeaders.Proofs.Value.Reordered

/-!
# Documents of terms

Every term has a document, and reading that document gives the plain form of the term. So writing
and reading keep a plain term as it is, and after one round nothing changes any more.

## Main definitions

* `CHeaders.Term.document`: the document of a plain term.

## Main results

* `CHeaders.Term.IsTerm.toDocument_eq`: a term is written as the document of its plain form.
* `CHeaders.Term.IsPlain.ofShown_reordered`: the document of a plain term is read as that term, in
  whatever order its entries are.
-/

namespace CHeaders.Term

mutual

/-- The document of a plain term: a call becomes a mapping with its name and its arguments. -/
def document : Value → Value
  | .call op (.list ts) => callDocument op (documents ts)
  | .list ts => .list (documents ts)
  | v => v

/-- The documents of several plain terms. -/
def documents : List Value → List Value
  | [] => []
  | t :: ts => document t :: documents ts

end

/-- The documents of several terms are their documents one by one. -/
@[simp] theorem documents_eq_map (ts : List Value) : documents ts = ts.map document := by
  induction ts with
  | nil => rfl
  | cons t ts ih => rw [documents, ih, List.map_cons]

/-! ## Writing -/

/-- The documents of the terms of a sequence are those of the list that it was made of. -/
theorem chainToDocuments_ofList (ts : List Value) :
    chainToDocuments (Value.ofList ts) = ts.mapM toDocument := by
  induction ts with
  | nil => rfl
  | cons t ts ih =>
    change chainToDocuments (.cons t (Value.ofList ts)) = _
    simp only [chainToDocuments, ih, List.mapM_cons]

/-- A sequence is written as a list. -/
theorem toDocument_ofList (ts : List Value) :
    toDocument (Value.ofList ts) = (ts.mapM toDocument).map Value.list := by
  cases ts with
  | nil => rfl
  | cons t ts =>
    have hwalk : Sequence.toList (.cons t (Value.ofList ts)) = .ok (t :: ts) :=
      Sequence.toList_ofList (t :: ts)
    change toDocument (.cons t (Value.ofList ts)) = _
    simp only [toDocument, hwalk, chainToDocuments_ofList, List.mapM_cons]
    rcases toDocument t with e | d
    · rfl
    · rcases ts.mapM toDocument with e | ds <;> rfl

/-- A list of terms whose documents are known. -/
theorem mapM_toDocument {ts : List Value} (h : ∀ t ∈ ts, toDocument t = .ok (document (listed t))) :
    ts.mapM toDocument = .ok ((ts.map listed).map document) := by
  rw [List.map_map]
  exact mapM_eq_ok_map h

/-- A term is written as the document of its plain form. -/
theorem IsTerm.toDocument_eq {t : Value} (h : IsTerm t) :
    toDocument t = .ok (document (listed t)) := by
  induction h with
  | text s => rfl
  | fragment s => rfl
  | int n => rfl
  | list _ ih | tuple _ ih =>
    simp only [toDocument, toDocuments_eq_mapM, mapM_toDocument ih, listed, listedAll_eq_map,
      document, documents_eq_map]
    rfl
  | sequence _ ih =>
    rw [toDocument_ofList, mapM_toDocument ih, listed_ofList]
    simp only [document, documents_eq_map]
    rfl
  | call _ _ ih | callTuple _ _ ih =>
    simp only [toDocument, toDocuments_eq_mapM, mapM_toDocument ih, listed, listedAll_eq_map,
      document, documents_eq_map]
    rfl

/-! ## Reading -/

/-- The operation that a mapping names, if it names one by a text. -/
theorem operationOf_eq_ok {d op : Value} {entries : List (Value × Value)}
    (h : Value.lookup "op" entries = some op) (hop : op.text?.isSome) :
    operationOf d entries = .ok op := by
  simp only [operationOf, h, hop, if_true]

/-- The arguments in a mapping are what is found under their key. -/
theorem argsOf_eq {entries : List (Value × Value)} {v : Value}
    (h : Value.lookup "args" entries = some v) : argsOf entries = argsIn v v := by
  induction entries with
  | nil => simp [Value.lookup] at h
  | cons e es ih =>
    rw [Value.lookup] at h
    rw [argsOf]
    split at h
    · rename_i hkey
      obtain rfl := Option.some.inj h
      rw [if_pos hkey]
    · rename_i hkey
      rw [if_neg hkey, ih h]

/-- Documents that are read as known terms, whatever a refusal would show. -/
theorem ofDocuments_eq_ok {ts ds : List Value}
    (h : List.Forall₂ (fun d t => ∀ shown, ofShown shown d = .ok t) ds ts) :
    ofDocuments ds = .ok ts := by
  rw [ofDocuments_eq_mapM, mapM_eq_ok_iff]
  exact h.imp fun d t hd => hd d

/-- The document of a plain term is read as that term, in whatever order its entries are.

**Proof sketch.** By induction on the term. The items of a list are reordered one by one. In the
mapping of a call the two keys differ, so the name and the list of the arguments are found wherever
they stand; the name is a text and stays as it is, the arguments are reordered one by one. -/
theorem IsPlain.ofShown_reordered {t : Value} (h : IsPlain t) :
    ∀ {d}, (document t).Reordered d → ∀ shown, ofShown shown d = .ok t := by
  have hread : ∀ {ts ds : List Value},
      (∀ t ∈ ts, ∀ {d}, (document t).Reordered d → ∀ shown, ofShown shown d = .ok t) →
      List.Forall₂ Value.Reordered (ts.map document) ds → ofDocuments ds = .ok ts := by
    intro ts ds hts hds
    rw [List.forall₂_map_left_iff] at hds
    refine ofDocuments_eq_ok (List.Forall₂.flip ?_)
    exact ((List.forall₂_and_left _ _).mpr ⟨hts, hds⟩).imp fun t d htd => htd.1 htd.2
  induction h with
  | text s =>
    intro d hd shown
    obtain rfl := Value.reordered_text.mp hd
    rfl
  | fragment s =>
    intro d hd shown
    obtain rfl := Value.reordered_fragment.mp hd
    rfl
  | int n =>
    intro d hd shown
    obtain rfl := Value.reordered_int.mp hd
    rfl
  | list _ ih =>
    intro d hd shown
    rw [document, documents_eq_map] at hd
    obtain ⟨ds, rfl, hds⟩ := Value.reordered_list.mp hd
    rw [ofShown, hread ih hds]
    rfl
  | @call op ts hop _ ih =>
    intro d hd shown
    rw [document, documents_eq_map] at hd
    obtain ⟨gs, rfl, hgs⟩ := hd.fields_eq (by simp)
    obtain ⟨op', hop', hname⟩ := hgs "op" op rfl
    obtain ⟨args, hargs, hlist⟩ := hgs "args" (.list (ts.map document)) rfl
    obtain ⟨ds, rfl, hds⟩ := Value.reordered_list.mp hlist
    obtain rfl : op' = op := by
      cases op <;> simp_all [Value.text?]
    rw [ofShown, operationOf_eq_ok hop' hop, argsOf_eq hargs, argsIn, hread ih hds]
    rfl

/-- The document of a plain term holds no cycle. -/
theorem IsPlain.isCut_document {t : Value} (h : IsPlain t) : (document t).isCut = false := by
  have hall : ∀ ts : List Value, (∀ t ∈ ts, (document t).isCut = false) →
      Value.anyCut (ts.map document) = false := by
    intro ts hts
    induction ts with
    | nil => rfl
    | cons t ts ih =>
      rw [List.map_cons, Value.anyCut, hts t List.mem_cons_self,
        ih fun u hu => hts u (List.mem_cons_of_mem t hu)]
      rfl
  induction h with
  | text s => rfl
  | fragment s => rfl
  | int n => rfl
  | list _ ih => simp only [document, documents_eq_map, Value.isCut, hall _ ih]
  | @call op ts hop _ ih =>
    have hcut : op.isCut = false := by cases op <;> simp_all [Value.text?, Value.isCut]
    simp only [document, documents_eq_map, callDocument, Value.record, List.map_cons, List.map_nil,
      Value.isCut, Value.entriesCut, hall _ ih, hcut]
    rfl

end CHeaders.Term
