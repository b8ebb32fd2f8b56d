import CHeaders.Proofs.Plan.Form
import CHeaders.Proofs.Term.Document

/-!
# Documents of plans

Every typed plan has a document, and reading that document gives the plain form of the plan. The
name is read as an ordinary text; everything else is what it was. What is read does not depend on
the order of the entries in any mapping of the document.

A part of a document that holds itself is completed before it is read. The documents of plans hold
no such parts, and a value that *stays* is not changed by completing it.

## Main definitions

* `CHeaders.Plan.document`: the document of a plan with plain terms.
* `CHeaders.Plan.reread`: the plan with its name as an ordinary text.

## Main results

* `CHeaders.Plan.IsTyped.toDocument_eq`: a typed plan is written as the document of its plain form.
* `CHeaders.Plan.IsTyped.ofDocument_reordered`: the document of a plan is read as that plan, in
  whatever order its entries are.
-/

namespace CHeaders

namespace Value

/-- Completing the value as a part of another one does not change it. -/
def Stays (v : Value) : Prop := ∀ whole, v.within whole = v

/-- A value without cycles stays. -/
theorem stays_of_not_isCut {v : Value} (h : v.isCut = false) : v.Stays :=
  fun whole => within_of_not_isCut h whole

/-- A text that may be missing holds no cycle. -/
theorem Optional.isCut_eq {v : Value} (h : Optional IsText v) : v.isCut = false := by
  obtain rfl | h := h
  · rfl
  · obtain ⟨t, rfl | rfl⟩ := isText_iff.mp h <;> rfl

/-- A text that may be missing stays. -/
theorem Optional.stays {v : Value} (h : Optional IsText v) : v.Stays :=
  stays_of_not_isCut h.isCut_eq

/-- A text stays. -/
theorem IsText.stays {v : Value} (h : IsText v) : v.Stays :=
  Optional.stays (.inr h)

/-- A list of texts stays. -/
theorem stays_of_isText {vs : List Value} (h : ∀ v ∈ vs, IsText v) : (Value.list vs).Stays := by
  refine stays_of_not_isCut (isCut_list_eq_false.mpr fun v hv => ?_)
  exact Optional.isCut_eq (.inr (h v hv))

end Value

namespace Plan

open Value (IsText Optional)

/-! ## Writing -/

/-- The document of a declaration whose term is plain. -/
def declarationDocument : Value → Value
  | .declaration term comment => .record [("term", Term.document term), ("comment", comment)]
  | v => v

/-- The document of a plan whose terms are plain. -/
def document : Plan → Value
  | ⟨name, .list ds, guard, files⟩ =>
    .record [("name", name), ("include_guard", guard), ("includes", files),
      ("declarations", .list (ds.map declarationDocument))]
  | _ => .none

variable {isText isComment : Value → Prop}

/-- A declaration is written as the document of its plain form. -/
theorem IsDeclaration.toDocument_eq {d : Value} (hd : IsDeclaration isComment d) :
    declarationToDocument d = .ok (declarationDocument (listedDeclaration d)) := by
  obtain ⟨hterm, hcomment⟩ := hd
  rw [declarationToDocument, declarationParts]
  change (Term.toDocument _ >>= _) = _
  rw [hterm.toDocument_eq]
  rfl

/-- A typed plan is written as the document of its plain form. -/
theorem IsTyped.toDocument_eq {p : Plan} (hp : IsTyped isText isComment p) :
    p.toDocument = .ok p.listed.document := by
  obtain @⟨name, guard, files, ds, hname, hguard, hfiles, hds⟩ := hp
  have hwalk : ds.mapM declarationToDocument =
      .ok (ds.map fun d => declarationDocument (listedDeclaration d)) :=
    mapM_eq_ok_map fun d hd => (hds d hd).toDocument_eq
  have hlisted : (Plan.mk name (.list ds) guard (.list files)).listed.document =
      .record [("name", name), ("include_guard", guard), ("includes", .list files),
        ("declarations", .list (ds.map fun d => declarationDocument (listedDeclaration d)))] := by
    rw [listed, document, List.map_map]
    rfl
  rw [hlisted, toDocument]
  change (ds.mapM declarationToDocument >>= _) = _
  rw [hwalk]
  rfl

/-! ## Reading -/

/-- The plan with its name as an ordinary text. -/
def reread (p : Plan) : Plan :=
  { p with name := .text p.name.display }

/-- A mapping that is read as a declaration: under its keys stand the document of the term, in any
order, and the comment. -/
inductive Depicts : Value → Value → Prop
  | mk {term comment d : Value} {es : List (Value × Value)}
      (hterm : Value.lookup "term" es = some d) (hd : (Term.document term).Reordered d)
      (hcomment : Value.lookup "comment" es = some comment) (hstays : comment.Stays) :
      Depicts (.declaration term comment) (.dict es)

/-- A reordering of the document of a plain term stays. -/
theorem stays_of_reordered {t d : Value} (ht : Term.IsPlain t)
    (hd : (Term.document t).Reordered d) : d.Stays :=
  Value.stays_of_not_isCut (hd.isCut_eq ▸ ht.isCut_document)

/-- A mapping that depicts a declaration with a plain term is read as that declaration. -/
theorem Depicts.declarationOfDocument_eq {d m : Value} (hm : Depicts d m)
    (hplain : ∀ term comment, d = .declaration term comment → Term.IsPlain term) :
    declarationOfDocument m = .ok d := by
  obtain ⟨hterm, hd, hcomment, hstays⟩ := hm
  have ht := hplain _ _ rfl
  simp only [declarationOfDocument, Value.bare, hterm, hcomment, Option.getD_some,
    stays_of_reordered ht hd _, hstays _, Term.ofDocument, ht.ofShown_reordered hd]
  rfl

/-- The name of a plan is read as an ordinary text. -/
theorem nameOf_eq {v : Value} (h : IsText v) : nameOf v = .ok v.display := by
  obtain ⟨t, rfl | rfl⟩ := Value.isText_iff.mp h <;> rfl

/-- A guard that is a text or missing is read as it is. -/
theorem guardOf_eq {v : Value} (h : Optional IsText v) : guardOf v = .ok v := by
  obtain rfl | h := h
  · rfl
  · rw [guardOf, show v.text?.isSome = true from h, Bool.or_true, if_pos rfl]

/-- A list whose items are allowed is read as it is, if its items stay. -/
theorem listOf_eq {expected : String} {allowed : Value → Bool} {items : List Value}
    (hallowed : ∀ v ∈ items, allowed v = true) (hstays : ∀ v ∈ items, v.Stays) :
    listOf expected allowed (.list items) = .ok items := by
  cases items with
  | nil => rfl
  | cons v vs =>
    have hall : (v :: vs).all allowed = true := List.all_eq_true.mpr hallowed
    have hmap : (v :: vs).map (·.within (.list (v :: vs))) = (v :: vs).map id :=
      List.map_congr_left fun w hw => hstays w hw _
    have htrue : (Value.list (v :: vs)).isTrue = true := rfl
    simp only [listOf, htrue, if_true, Value.bare, hall, hmap, List.map_id]

/-- A mapping under whose keys stand the parts of a plan is read as that plan, with its name as an
ordinary text. -/
theorem readDocument_eq {name guard : Value} {text : Text} {files ds items : List Value}
    {es : List (Value × Value)} (hname : Value.lookup "name" es = some name)
    (hguard : Value.lookup "include_guard" es = some guard)
    (hfiles : Value.lookup "includes" es = some (.list files))
    (hitems : Value.lookup "declarations" es = some (.list items)) (hsame : name.Stays)
    (htext : nameOf name = .ok text) (hoptional : Optional IsText guard)
    (htexts : ∀ f ∈ files, IsText f) (hlist : (Value.list items).Stays)
    (hstays : ∀ m ∈ items, m.Stays) (hwalk : items.mapM declarationOfDocument = .ok ds) :
    readDocument (.dict es) = .ok ⟨.text text, .list ds, guard, .list files⟩ := by
  have hincludes : listOf "a list of header names" (fun v => v.text?.isSome) (.list files) =
      .ok files :=
    listOf_eq (fun v hv => htexts v hv) fun v hv => (htexts v hv).stays
  have hdeclarations : listOf "a list of declarations" (fun _ => true) (.list items) = .ok items :=
    listOf_eq (fun _ _ => rfl) hstays
  simp only [readDocument, Value.bare, hname, hsame _, htext, entry, hguard, hfiles, hitems,
    Option.getD_some, hoptional.stays _, guardOf_eq hoptional, Value.stays_of_isText htexts _,
    hlist _, hincludes, hdeclarations]
  change (items.mapM declarationOfDocument >>= _) = _
  rw [hwalk]
  rfl

/-- What depicts declarations with plain terms, one by one, is read as these declarations. -/
theorem mapM_declarationOfDocument {ds items : List Value} (h : List.Forall₂ Depicts ds items)
    (hplain : ∀ term comment, Value.declaration term comment ∈ ds → Term.IsPlain term) :
    items.mapM declarationOfDocument = .ok ds := by
  have hmem : List.Forall₂ (fun d m => d ∈ ds ∧ Depicts d m) ds items :=
    (List.forall₂_and_left _ _).mpr ⟨fun _ hd => hd, h⟩
  rw [mapM_eq_ok_iff]
  refine List.Forall₂.flip (hmem.imp fun d m hdm => ?_)
  exact hdm.2.declarationOfDocument_eq fun term comment heq => hplain term comment (heq ▸ hdm.1)

/-- A mapping under whose keys stand the parts of a typed plan is read as that plan. -/
theorem IsTyped.readDocument_eq {name guard : Value} {files ds : List Value}
    {es : List (Value × Value)}
    (hp : IsTyped IsText isComment ⟨name, .list ds, guard, .list files⟩) (items : List Value)
    (hplain : (Plan.mk name (.list ds) guard (.list files)).HasTerms Term.IsPlain)
    (hname : Value.lookup "name" es = some name)
    (hguard : Value.lookup "include_guard" es = some guard)
    (hfiles : Value.lookup "includes" es = some (.list files))
    (hitems : Value.lookup "declarations" es = some (.list items))
    (hlist : (Value.list items).Stays) (hstays : ∀ m ∈ items, m.Stays)
    (hdepicts : List.Forall₂ Depicts ds items) :
    readDocument (.dict es) = .ok (reread ⟨name, .list ds, guard, .list files⟩) := by
  obtain ⟨htext, hoptional, htexts, hds⟩ := hp
  exact Plan.readDocument_eq hname hguard hfiles hitems htext.stays (nameOf_eq htext) hoptional
    htexts hlist hstays (mapM_declarationOfDocument hdepicts (hplain ds rfl))

/-! ## Reading what was written -/

/-- The document of a plan is a record of its parts. -/
theorem document_mk (name guard : Value) (files ds : List Value) :
    document ⟨name, .list ds, guard, .list files⟩ =
      .record [("name", name), ("include_guard", guard), ("includes", .list files),
        ("declarations", .list (ds.map declarationDocument))] := rfl

/-- A reordering of a text that may be missing is that text. -/
theorem eq_of_reordered {v w : Value} (hv : Optional IsText v) (h : v.Reordered w) : w = v := by
  obtain rfl | hv := hv
  · exact Value.reordered_none.mp h
  · obtain ⟨t, rfl | rfl⟩ := Value.isText_iff.mp hv
    · exact Value.reordered_text.mp h
    · exact Value.reordered_fragment.mp h

/-- A reordering of the document of a declaration depicts it. -/
theorem IsDeclaration.depicts {d m : Value} (hd : IsDeclaration (Optional IsText) d)
    (h : (declarationDocument d).Reordered m) : Depicts d m := by
  obtain @⟨term, comment, hterm, hcomment⟩ := hd
  obtain ⟨es, rfl, hes⟩ := h.fields_eq (by simp)
  obtain ⟨term', hterm', hreordered⟩ := hes "term" (Term.document term) rfl
  obtain ⟨comment', hcomment', hsame⟩ := hes "comment" comment rfl
  obtain rfl := eq_of_reordered hcomment hsame
  exact ⟨hterm', hreordered, hcomment', hcomment.stays⟩

/-- The document of a declaration with a plain term and a comment without cycles holds no
cycle. -/
theorem isCut_declarationDocument {term comment : Value} (hterm : Term.IsPlain term)
    (hcomment : comment.isCut = false) :
    (declarationDocument (.declaration term comment)).isCut = false := by
  simp only [declarationDocument, Value.record, List.map_cons, List.map_nil, Value.isCut,
    Value.entriesCut, hterm.isCut_document, hcomment]
  rfl

/-- A list of texts is not changed when entries are put in another order. -/
theorem eq_list_of_reordered {files : List Value} {v : Value} (hfiles : ∀ f ∈ files, IsText f)
    (h : (Value.list files).Reordered v) : v = .list files := by
  obtain ⟨gs, rfl, hgs⟩ := Value.reordered_list.mp h
  have hwalk : List.Forall₂ (fun f g => f ∈ files ∧ Value.Reordered f g) files gs :=
    (List.forall₂_and_left _ _).mpr ⟨fun _ hf => hf, hgs⟩
  have heq : List.Forall₂ (· = ·) files gs :=
    hwalk.imp fun f g h => (eq_of_reordered (.inr (hfiles f h.1)) h.2).symm
  rw [List.forall₂_eq_eq_eq] at heq
  rw [heq]

/-- The documents of declarations depict them in whatever order their entries are, and nothing in
them is cut off. -/
theorem depicts_of_reordered {ds : List Value} {v : Value}
    (hds : ∀ d ∈ ds, IsDeclaration (Optional IsText) d)
    (hplain : ∀ term comment, Value.declaration term comment ∈ ds → Term.IsPlain term)
    (h : (Value.list (ds.map declarationDocument)).Reordered v) :
    ∃ items, v = .list items ∧ List.Forall₂ Depicts ds items ∧ v.isCut = false := by
  obtain ⟨items, rfl, hitems⟩ := Value.reordered_list.mp h
  rw [List.forall₂_map_left_iff] at hitems
  have hwalk : List.Forall₂ (fun d m => d ∈ ds ∧ (declarationDocument d).Reordered m) ds items :=
    (List.forall₂_and_left _ _).mpr ⟨fun _ hd => hd, hitems⟩
  refine ⟨items, rfl, hwalk.imp fun d m h => (hds d h.1).depicts h.2, ?_⟩
  rw [h.isCut_eq, Value.isCut_list_eq_false]
  refine List.forall_mem_map.mpr fun d hd => ?_
  obtain @⟨term, comment, -, hcomment⟩ := hds d hd
  exact isCut_declarationDocument (hplain _ _ hd) hcomment.isCut_eq

/-- The document of a plan is read as that plan, in whatever order its entries are.

**Proof sketch.** Each entry of the document has its counterpart among the entries in the other
order: texts and lists of texts are the same there, and the documents of declarations depict the
same declarations. -/
theorem IsTyped.ofDocument_reordered {p : Plan} (hp : IsTyped IsText (Optional IsText) p)
    (hplain : p.HasTerms Term.IsPlain) {d : Value} (hd : p.document.Reordered d) :
    ofDocument d = .ok p.reread := by
  have hp' := hp
  obtain @⟨name, guard, files, ds, hname, hguard, hfiles, hds⟩ := hp'
  rw [document_mk] at hd
  obtain ⟨es, rfl, hes⟩ := hd.fields_eq (by simp)
  obtain ⟨name', hname', hsame⟩ := hes "name" name rfl
  obtain rfl := eq_of_reordered (.inr hname) hsame
  obtain ⟨guard', hguard', hsame⟩ := hes "include_guard" guard rfl
  obtain rfl := eq_of_reordered hguard hsame
  obtain ⟨files', hfiles', hsame⟩ := hes "includes" (.list files) rfl
  obtain rfl := eq_list_of_reordered hfiles hsame
  obtain ⟨list, hlist, hsame⟩ := hes "declarations" _ rfl
  obtain ⟨items, rfl, hdepicts, hcut⟩ := depicts_of_reordered hds (hplain ds rfl) hsame
  have hread := hp.readDocument_eq items hplain hname' hguard' hfiles' hlist
    (Value.stays_of_not_isCut hcut)
    (fun m hm => Value.stays_of_not_isCut (Value.isCut_list_eq_false.mp hcut m hm)) hdepicts
  rw [ofDocument, hread, Fault.whenShown_ok rfl]

/-- The document of a plan is read as that plan, whatever its comments are and whatever text its
name stands for. -/
theorem ofDocument_document_eq {name guard : Value} {text : Text} {files ds : List Value}
    (hname : name.isCut = false) (htext : nameOf name = .ok text) (hguard : Optional IsText guard)
    (hfiles : ∀ f ∈ files, IsText f)
    (hds : ∀ d ∈ ds, IsDeclaration (·.isCut = false) d)
    (hplain : ∀ term comment, Value.declaration term comment ∈ ds → Term.IsPlain term) :
    ofDocument (document ⟨name, .list ds, guard, .list files⟩) =
      .ok ⟨.text text, .list ds, guard, .list files⟩ := by
  have hcut : ∀ m ∈ ds.map declarationDocument, m.isCut = false := by
    refine List.forall_mem_map.mpr fun d hd => ?_
    obtain @⟨term, comment, -, hcomment⟩ := hds d hd
    exact isCut_declarationDocument (hplain _ _ hd) hcomment
  have hdepicts : List.Forall₂ Depicts ds (ds.map declarationDocument) := by
    rw [List.forall₂_map_right_iff, List.forall₂_same]
    intro d hd
    obtain @⟨term, comment, -, hcomment⟩ := hds d hd
    exact ⟨Value.lookup_of_field rfl, .same _, Value.lookup_of_field rfl,
      Value.stays_of_not_isCut hcomment⟩
  rw [ofDocument, document_mk, Value.record,
    readDocument_eq (Value.lookup_of_field rfl) (Value.lookup_of_field rfl)
      (Value.lookup_of_field rfl) (Value.lookup_of_field rfl) (Value.stays_of_not_isCut hname) htext
      hguard hfiles (Value.stays_of_not_isCut (Value.isCut_list_eq_false.mpr hcut))
      (fun m hm => Value.stays_of_not_isCut (hcut m hm))
      (mapM_declarationOfDocument hdepicts hplain),
    Fault.whenShown_ok rfl]

/-- The document of a typed plan is read as that plan, whatever its comments are. -/
theorem IsTyped.ofDocument_document {p : Plan} (hp : IsTyped IsText (·.isCut = false) p)
    (hplain : p.HasTerms Term.IsPlain) : ofDocument p.document = .ok p.reread := by
  obtain @⟨name, guard, files, ds, hname, hguard, hfiles, hds⟩ := hp
  exact ofDocument_document_eq (Optional.isCut_eq (.inr hname)) (nameOf_eq hname) hguard hfiles hds
    (hplain ds rfl)

end Plan

end CHeaders
