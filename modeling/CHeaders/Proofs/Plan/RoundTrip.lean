import CHeaders.Plan.Storage
import CHeaders.Proofs.Json.Reader
import CHeaders.Proofs.Plan.Schema

/-!
# Plans that are written and read again

A typed plan that is written as a document and read again is its plain form: lists stand for the
tuples and the sequences in its terms. The same holds when the document is stored in JSON, where the
entries of mappings stand in the order of their keys and generated texts come back as ordinary ones.
A plan that was read from a document stays as it is.

## Main definitions

* `CHeaders.Json.Inverts`: what is written of a document is read as that document, up to the order
  of entries and to generated texts.
* `CHeaders.Plan.Restores`: reading gave the plain form of a plan.

## Main results

* `CHeaders.Plan.IsTyped.inverts`: JSON inverts the documents of plans whose numbers can be written
  and whose texts hold no halves of a pair side by side.
* `CHeaders.Plan.roundTrip`: writing and reading plans, as documents and in JSON.
-/

namespace CHeaders

open Value (IsText Optional)

namespace Value

/-- The texts of several entries are read one by one. -/
theorem entriesAsRead_eq_map (es : List (Value × Value)) :
    entriesAsRead es = es.map fun e => (e.1.asRead, e.2.asRead) := by
  induction es with
  | nil => rfl
  | cons e es ih => rw [entriesAsRead, ih, List.map_cons]

mutual

/-- A reordering stays one when the texts in it are read. -/
theorem Reordered.asRead : ∀ {v w : Value}, Reordered v w → Reordered v.asRead w.asRead
  | _, _, .same v => .same v.asRead
  | _, _, .list h => .list h.asRead
  | _, _, @Reordered.dict _ fs gs h hperm => by
    have hread : (entriesAsRead fs).Perm (entriesAsRead gs) := by
      rw [entriesAsRead_eq_map, entriesAsRead_eq_map]
      exact hperm.map _
    exact .dict h.asRead hread

/-- The same for lists. -/
theorem AllReordered.asRead : ∀ {xs ys : List Value}, AllReordered xs ys →
    AllReordered (allAsRead xs) (allAsRead ys)
  | _, _, .nil => .nil
  | _, _, .cons hhead htail => .cons hhead.asRead htail.asRead

/-- The same for entries. -/
theorem EntriesReordered.asRead : ∀ {es fs : List (Value × Value)}, EntriesReordered es fs →
    EntriesReordered (entriesAsRead es) (entriesAsRead fs)
  | _, _, .nil => .nil
  | _, _, .cons hvalue htail => .cons hvalue.asRead htail.asRead

end

/-- A text that may be missing has no part that is not a number. -/
theorem Optional.isNaNFree {v : Value} (h : Optional IsText v) : v.isNaNFree = true := by
  obtain rfl | h := h
  · rfl
  · obtain ⟨t, rfl | rfl⟩ := Value.isText_iff.mp h <;> rfl

end Value

namespace Term

/-- A plain term has no part that is not a number. -/
theorem IsPlain.isNaNFree {t : Value} (h : IsPlain t) : t.isNaNFree = true := by
  induction h with
  | text s => rfl
  | fragment s => rfl
  | int n => rfl
  | list _ ih => simpa [Value.isNaNFree] using ih
  | call hop _ ih =>
    simpa [Value.isNaNFree, Value.Optional.isNaNFree (.inr hop)] using ih

/-- A plain term stays plain when its texts are read.

**Proof sketch.** By induction on the term. Reading goes item by item, both through a term and
through its document. -/
theorem IsPlain.isPlain_asRead {t : Value} (h : IsPlain t) :
    IsPlain t.asRead ∧ (document t).asRead = document t.asRead := by
  have hall : ∀ {ts : List Value},
      (∀ t ∈ ts, IsPlain t.asRead ∧ (document t).asRead = document t.asRead) →
      (∀ t ∈ ts.map Value.asRead, IsPlain t) ∧
        (ts.map document).map Value.asRead = (ts.map Value.asRead).map document := by
    intro ts hts
    refine ⟨List.forall_mem_map.mpr fun t ht => (hts t ht).1, ?_⟩
    rw [List.map_map, List.map_map]
    exact List.map_congr_left fun t ht => (hts t ht).2
  induction h with
  | text s => exact ⟨.text s, rfl⟩
  | fragment s => exact ⟨.text s, rfl⟩
  | int n => exact ⟨.int n, rfl⟩
  | list _ ih =>
    obtain ⟨hplain, hdocuments⟩ := hall ih
    rw [Value.asRead, Value.allAsRead_eq_map]
    refine ⟨.list hplain, ?_⟩
    rw [document, documents_eq_map, Value.asRead, Value.allAsRead_eq_map, hdocuments, document,
      documents_eq_map]
  | @call op ts hop _ ih =>
    obtain ⟨hplain, hdocuments⟩ := hall ih
    obtain ⟨s, hs⟩ := Option.isSome_iff_exists.mp hop
    rw [Value.asRead, Value.asRead, Value.allAsRead_eq_map]
    refine ⟨.call ?_ hplain, ?_⟩
    · rw [Json.asRead_of_text hs]
      rfl
    · simp only [document, documents_eq_map, callDocument, Value.record, List.map_cons,
        List.map_nil, Value.asRead, Value.entriesAsRead, Value.allAsRead_eq_map, hdocuments]

/-- The document of a plain term is plan data. -/
theorem IsPlain.isPlanData_document {t : Value} (h : IsPlain t) : (document t).isPlanData := by
  induction h with
  | text s => rfl
  | fragment s => rfl
  | int n => rfl
  | list _ ih => simpa [document, Value.isPlanData] using ih
  | call hop _ ih =>
    simpa [document, callDocument, Value.record, Value.isPlanData, Value.entriesPlanData,
      Value.IsText.isPlanData hop] using ih

end Term

namespace Plan

/-- The plan in which every generated text has become an ordinary one. -/
def asRead (p : Plan) : Plan :=
  ⟨p.name.asRead, p.declarations.asRead, p.guard.asRead, p.includes.asRead⟩

/-- A text stays a text when it is read. -/
theorem isText_asRead {v : Value} (h : IsText v) : IsText v.asRead := by
  obtain ⟨t, ht⟩ := Option.isSome_iff_exists.mp h
  rw [Json.asRead_of_text ht]
  rfl

/-- A text that may be missing stays one when it is read. -/
theorem optional_asRead {v : Value} (h : Optional IsText v) : Optional IsText v.asRead := by
  obtain rfl | h := h
  · exact .inl rfl
  · exact .inr (isText_asRead h)

/-- A declaration with a plain term stays one when its texts are read. -/
theorem IsDeclaration.asRead {d : Value} (hd : IsDeclaration (Optional IsText) d)
    (hplain : ∀ term comment, d = .declaration term comment → Term.IsPlain term) :
    ∃ term comment, d.asRead = .declaration term comment ∧ Term.IsPlain term ∧
      Optional IsText comment ∧ (declarationDocument d).asRead = declarationDocument d.asRead := by
  obtain @⟨term, comment, -, hcomment⟩ := hd
  obtain ⟨hterm, hdocument⟩ := (hplain _ _ rfl).isPlain_asRead
  refine ⟨term.asRead, comment.asRead, rfl, hterm, optional_asRead hcomment, ?_⟩
  simp only [declarationDocument, Value.record, List.map_cons, List.map_nil, Value.asRead,
    Value.entriesAsRead, hdocument]

/-- A typed plan with plain terms stays one when its texts are read, and its document becomes the
document of that plan.

**Proof sketch.** Part by part. Texts are read as texts, and declarations as declarations whose
terms are plain, so the document of what is read is what is read of the document. -/
theorem IsTyped.isTyped_asRead {p : Plan} (hp : IsTyped IsText (Optional IsText) p)
    (hplain : p.HasTerms Term.IsPlain) :
    IsTyped IsText (Optional IsText) p.asRead ∧ p.asRead.HasTerms Term.IsPlain ∧
      p.document.asRead = p.asRead.document := by
  obtain @⟨name, guard, files, ds, hname, hguard, hfiles, hds⟩ := hp
  have hread : ∀ d ∈ ds, ∃ term comment, d.asRead = .declaration term comment ∧
      Term.IsPlain term ∧ Optional IsText comment ∧
      (declarationDocument d).asRead = declarationDocument d.asRead :=
    fun d hd => (hds d hd).asRead fun term comment heq => hplain ds rfl _ _ (heq ▸ hd)
  have hasRead : (Plan.mk name (.list ds) guard (.list files)).asRead =
      ⟨name.asRead, .list (ds.map Value.asRead), guard.asRead, .list (files.map Value.asRead)⟩ := by
    simp only [asRead, Value.asRead, Value.allAsRead_eq_map]
  rw [hasRead]
  refine ⟨⟨isText_asRead hname, optional_asRead hguard, ?_, ?_⟩, ?_, ?_⟩
  · exact List.forall_mem_map.mpr fun f hf => isText_asRead (hfiles f hf)
  · refine List.forall_mem_map.mpr fun d hd => ?_
    obtain ⟨term, comment, heq, hterm, hcomment, -⟩ := hread d hd
    exact heq ▸ ⟨hterm.isTerm, hcomment⟩
  · intro ds' hds' term comment hmem
    obtain rfl := Value.list.inj hds'
    obtain ⟨d, hd, heq⟩ := List.mem_map.mp hmem
    obtain ⟨term', comment', heq', hterm, -, -⟩ := hread d hd
    obtain ⟨rfl, -⟩ := Value.declaration.inj (heq.symm.trans heq')
    exact hterm
  · have hdocuments : (ds.map declarationDocument).map Value.asRead =
        (ds.map Value.asRead).map declarationDocument := by
      rw [List.map_map, List.map_map]
      refine List.map_congr_left fun d hd => ?_
      obtain ⟨-, -, -, -, -, hdocument⟩ := hread d hd
      exact hdocument
    simp only [document_mk, Value.record, List.map_cons, List.map_nil, Value.asRead,
      Value.entriesAsRead, Value.allAsRead_eq_map, hdocuments]

/-- The document of a typed plan with plain terms is plan data. -/
theorem IsTyped.isPlanData_document {p : Plan} (hp : IsTyped IsText (Optional IsText) p)
    (hplain : p.HasTerms Term.IsPlain) : p.document.isPlanData := by
  obtain @⟨name, guard, files, ds, hname, hguard, hfiles, hds⟩ := hp
  have hdeclarations : ∀ d ∈ ds, (declarationDocument d).isPlanData := by
    intro d hd
    have hterm := hplain ds rfl
    obtain ⟨-, hcomment⟩ := hds d hd
    simp [declarationDocument, Value.record, Value.isPlanData, Value.entriesPlanData,
      (hterm _ _ hd).isPlanData_document, hcomment.isPlanData]
  have hincludes : ∀ f ∈ files, f.isPlanData := fun f hf => (hfiles f hf).isPlanData
  simp [document_mk, Value.record, Value.isPlanData, Value.entriesPlanData, hname.isPlanData,
    hguard.isPlanData]
  exact ⟨hincludes, hdeclarations⟩

/-! ## What is restored -/

/-- Reading gave the plain form of the plan `p`, whose document is equal to that of `p`. -/
structure Restores (p q : Plan) : Prop where
  equals : q.toValue.equals p.listed.toValue = true
  documents : ∃ d d', p.toDocument = .ok d ∧ q.toDocument = .ok d' ∧ d'.equals d = true

/-- A plan that is the plain form of `p` up to generated texts restores it. -/
theorem IsTyped.restores {p q : Plan} (hp : IsTyped IsText (Optional IsText) p)
    (hq : IsTyped IsText (Optional IsText) q) (hplain : q.HasTerms Term.IsPlain)
    (h : q.asRead = p.listed.asRead) : Restores p q := by
  have hlisted := hp.isTyped_listed
  have hterms := hp.hasTerms_listed
  have hsame := hq.listed_eq hplain
  have hdata : q.toValue.isPlanData := hsame ▸ hq.isPlanData_listed
  constructor
  · refine Value.equals_of_asRead_eq hdata hp.isPlanData_listed ?_
    simp only [asRead, Plan.mk.injEq] at h
    simp only [toValue, Value.asRead, h]
  · refine ⟨p.listed.document, q.document, hp.toDocument_eq, ?_, ?_⟩
    · rw [hq.toDocument_eq, hsame]
    · refine Value.equals_of_asRead_eq (hq.isPlanData_document hplain)
        (hlisted.isPlanData_document hterms) ?_
      rw [(hq.isTyped_asRead hplain).2.2, (hlisted.isTyped_asRead hterms).2.2, h]

/-- A typed plan with plain terms stays one when its name is read. -/
theorem IsTyped.isTyped_reread {p : Plan} (hp : IsTyped IsText (Optional IsText) p)
    (hplain : p.HasTerms Term.IsPlain) : IsTyped IsText (Optional IsText) p.reread ∧
      p.reread.HasTerms Term.IsPlain ∧ p.reread.asRead = p.asRead := by
  obtain @⟨name, guard, files, ds, hname, hguard, hfiles, hds⟩ := hp
  refine ⟨⟨rfl, hguard, hfiles, hds⟩, hplain, ?_⟩
  obtain ⟨t, rfl | rfl⟩ := Value.isText_iff.mp hname <;> rfl

/-- A plan whose texts are ordinary stays as it is when they are read. -/
theorem asRead_asRead (p : Plan) : p.asRead.asRead = p.asRead := by
  simp only [asRead, Value.asRead_asRead]

/-- The document of the plain form of a plan, or of that form with ordinary texts, is read as a plan
that restores it, in whatever order its entries are. -/
theorem IsTyped.restores_of_reordered {p : Plan} (hp : IsTyped IsText (Optional IsText) p)
    {d : Value} (hd : p.listed.document.Reordered d ∨ p.listed.document.asRead.Reordered d) :
    ∃ q, ofDocument d = .ok q ∧ Restores p q := by
  have hlisted := hp.isTyped_listed
  have hterms := hp.hasTerms_listed
  obtain ⟨hread, hreadTerms, hdocument⟩ := hlisted.isTyped_asRead hterms
  obtain hd | hd := hd
  · obtain ⟨hq, hqterms, hqread⟩ := hlisted.isTyped_reread hterms
    exact ⟨_, hlisted.ofDocument_reordered hterms hd, hp.restores hq hqterms hqread⟩
  · obtain ⟨hq, hqterms, hqread⟩ := hread.isTyped_reread hreadTerms
    rw [hdocument] at hd
    refine ⟨_, hread.ofDocument_reordered hreadTerms hd, hp.restores hq hqterms ?_⟩
    rw [hqread, asRead_asRead]

end Plan

/-! ## JSON -/

namespace Json

/-- What is written of the document is read as the document, up to the order of entries and to
generated texts. -/
def Inverts (d : Value) : Prop :=
  ∃ s d', write d = .ok s ∧ parse (Text.ofString s) = .ok d' ∧ d.asRead.Reordered d'

/-- The items of a faithful list are faithful. -/
theorem IsFaithful.item {vs : List Value} (h : IsFaithful (.list vs)) : ∀ v ∈ vs, IsFaithful v := by
  cases h with
  | text hv => simp [Value.text?] at hv
  | list h => exact h

/-- The fields of a faithful record are faithful. -/
theorem IsFaithful.field {fields : List (String × Value)} (h : IsFaithful (.record fields)) :
    ∀ e ∈ fields, IsFaithful e.2 := by
  rw [Value.record] at h
  cases h with
  | text hv => simp [Value.text?] at hv
  | dict _ _ h => exact fun e he => h _ (List.mem_map.mpr ⟨e, he, rfl⟩)

/-- The number in a faithful document can be written. -/
theorem IsFaithful.isWritable_int {n : Int} (h : IsFaithful (.int n)) :
    Decimal.isWritable n = true := by
  cases h with
  | int h => exact h
  | text hv => simp [Value.text?] at hv

/-- Strings hold no halves of pairs. -/
theorem isJoined_ofString (s : String) : isJoined (Text.ofString s).letters = true := by
  have hchars : ∀ cs : List Char, isJoined (cs.map .char) = true := by
    intro cs
    induction cs with
    | nil => rfl
    | cons c cs ih =>
      cases cs with
      | nil => rfl
      | cons c' cs =>
        have hvalid : c.toNat < 0xD800 ∨ (0xDFFF < c.toNat ∧ c.toNat < 0x110000) := c.valid
        have hhigh : Text.isHighHalf (Letter.char c).code = false := by
          rw [Bool.eq_false_iff]
          intro h
          simp only [Text.isHighHalf, Letter.code, Bool.and_eq_true] at h
          have hlow := of_decide_eq_true h.1
          have hhigh := of_decide_eq_true h.2
          omega
        rw [List.map_cons, List.map_cons, isJoined, hhigh]
        exact ih
  exact hchars s.toList

/-- A record is faithful if its fields are and no name of a field stands twice. -/
theorem isFaithful_record {fields : List (String × Value)} (hnames : (fields.map Prod.fst).Nodup)
    (h : ∀ e ∈ fields, IsFaithful e.2) : IsFaithful (.record fields) := by
  refine .dict ?_ (Value.nodup_keyTexts_record hnames) ?_
  · exact List.forall_mem_map.mpr fun e _ => ⟨_, rfl, isJoined_ofString e.1⟩
  · exact List.forall_mem_map.mpr h

end Json

/-- If the document of a plain term is faithful, then so is the arranged document, and the numbers
in the term can be written.

**Proof sketch.** By induction on the term. The document of a call holds the name of the operation
and the list of the documents of the arguments; arranging only changes the order of the two. -/
theorem Term.IsPlain.isFaithful_arranged {t : Value} (h : IsPlain t) :
    Json.IsFaithful (document t) → Json.IsFaithful (arranged t) ∧ t.isWritable = true := by
  have hall : ∀ {ts : List Value},
      (∀ t ∈ ts, Json.IsFaithful (document t) →
        Json.IsFaithful (arranged t) ∧ t.isWritable = true) →
      Json.IsFaithful (.list (ts.map document)) →
      Json.IsFaithful (.list (ts.map arranged)) ∧ ts.all Value.isWritable = true := by
    intro ts hts hfaithful
    have hitem := fun t ht => hts t ht (hfaithful.item _ (List.mem_map.mpr ⟨t, ht, rfl⟩))
    refine ⟨.list (List.forall_mem_map.mpr fun t ht => (hitem t ht).1), ?_⟩
    exact List.all_eq_true.mpr fun t ht => (hitem t ht).2
  induction h with
  | text s => exact fun h => ⟨h, rfl⟩
  | fragment s => exact fun h => ⟨h, rfl⟩
  | int n => exact fun h => ⟨h, h.isWritable_int⟩
  | list _ ih =>
    intro h
    rw [document, documents_eq_map] at h
    rw [arranged, arrangedAll_eq_map, Value.isWritable, Value.allWritable_eq_all]
    exact hall ih h
  | @call op ts hop _ ih =>
    intro h
    rw [document, documents_eq_map] at h
    have hfield := h.field
    obtain ⟨hargs, hwritable⟩ := hall ih (hfield ("args", _) (by simp))
    have hname := hfield ("op", op) (by simp)
    have hshown : op.isWritable = true := (Plan.write_optional (.inr hop)).2.1
    rw [arranged, arrangedAll_eq_map, Value.isWritable, Value.isWritable,
      Value.allWritable_eq_all, hwritable, hshown]
    refine ⟨Json.isFaithful_record (by simp) ?_, rfl⟩
    exact List.forall_mem_cons.mpr ⟨hargs, List.forall_mem_cons.mpr ⟨hname, by simp⟩⟩

namespace Plan

/-- If the document of a declaration is faithful, then so is the arranged document, and the numbers
in the declaration can be written. -/
theorem isFaithful_arrangedDeclaration {term comment : Value} (hterm : Term.IsPlain term)
    (hcomment : Optional IsText comment)
    (h : Json.IsFaithful (declarationDocument (.declaration term comment))) :
    Json.IsFaithful (arrangedDeclaration (.declaration term comment)) ∧
      (Value.declaration term comment).isWritable = true := by
  have hparts := h.field
  obtain ⟨harranged, hwritable⟩ :=
    hterm.isFaithful_arranged (hparts ("term", Term.document term) (by simp))
  have hshown : comment.isWritable = true := (write_optional hcomment).2.1
  refine ⟨Json.isFaithful_record (by simp) ?_, ?_⟩
  · exact List.forall_mem_cons.mpr ⟨hparts ("comment", comment) (by simp),
      List.forall_mem_cons.mpr ⟨harranged, by simp⟩⟩
  · rw [Value.isWritable, hwritable, hshown]
    rfl

/-- If the document of a plan is faithful, then so is the arranged document, and the numbers in the
plan can be written.

**Proof sketch.** Part by part: a faithful document has faithful entries and items, so this holds of
each declaration, and all other parts are texts or missing. -/
theorem IsTyped.isFaithful_arranged {p : Plan} (hp : IsTyped IsText (Optional IsText) p)
    (hplain : p.HasTerms Term.IsPlain) (h : Json.IsFaithful p.document) :
    Json.IsFaithful p.arranged ∧ p.toValue.isWritable = true := by
  obtain @⟨name, guard, files, ds, hname, hguard, hfiles, hds⟩ := hp
  rw [document_mk] at h
  have hfield := h.field
  have hdocuments := (hfield ("declarations", .list (ds.map declarationDocument)) (by simp)).item
  have hdeclarations : ∀ d ∈ ds,
      Json.IsFaithful (arrangedDeclaration d) ∧ d.isWritable = true := by
    intro d hd
    have hterm := hplain ds rfl
    have hdocument := hdocuments _ (List.mem_map.mpr ⟨d, hd, rfl⟩)
    obtain @⟨term, comment, -, hcomment⟩ := hds d hd
    exact isFaithful_arrangedDeclaration (hterm _ _ hd) hcomment hdocument
  constructor
  · refine Json.isFaithful_record (by simp) ?_
    simp only [List.forall_mem_cons]
    exact ⟨.list (List.forall_mem_map.mpr fun d hd => (hdeclarations d hd).1),
      hfield ("include_guard", guard) (by simp), hfield ("includes", .list files) (by simp),
      hfield ("name", name) (by simp), by simp⟩
  · have hnameShown : name.isWritable = true := (write_optional (.inr hname)).2.1
    have hguardShown : guard.isWritable = true := (write_optional hguard).2.1
    have hfilesShown : files.all Value.isWritable = true :=
      List.all_eq_true.mpr fun f hf => (write_optional (.inr (hfiles f hf))).2.1
    have hdsShown : ds.all Value.isWritable = true :=
      List.all_eq_true.mpr fun d hd => (hdeclarations d hd).2
    simp only [toValue, Value.isWritable, Value.allWritable_eq_all, hnameShown, hguardShown,
      hfilesShown, hdsShown, Bool.and_self]

/-- JSON inverts the documents of plans whose numbers can be written and whose texts hold no halves
of a pair side by side. -/
theorem IsTyped.inverts {p : Plan} (hp : IsTyped IsText (Optional IsText) p)
    (hplain : p.HasTerms Term.IsPlain) (h : Json.IsFaithful p.document) :
    Json.Inverts p.document := by
  obtain ⟨hfaithful, hwritable⟩ := hp.isFaithful_arranged hplain h
  have hwrite : Json.write p.document = .ok (Json.form p.arranged) := by
    rw [hp.write_document hplain]
    exact Fault.whenShown_ok (by simpa using hwritable) _
  exact ⟨_, _, hwrite, Json.parse_form hfaithful, (hp.reordered_arranged hplain).asRead⟩

/-- The value holds no cycle and no real that is not a number. -/
def IsClean (v : Value) : Prop := v.isCut = false ∧ v.isNaNFree = true

/-- What may be missing is clean if it is a part of a clean document. -/
theorem IsClean.optional {d v : Value} (hd : IsClean d) (hv : Optional (Value.IsPart d) v) :
    IsClean v := by
  obtain rfl | hpart := hv
  · exact ⟨rfl, rfl⟩
  · exact ⟨hpart.isCut_eq hd.1, hpart.isNaNFree_eq hd.2⟩

/-- A plan that was read from a clean document is written as a document that is read as it again.

**Proof sketch.** What is read from a clean document is typed, its terms are plain, and it is its
own form after reading. So it is written as its document, and that is read as it. No part of it is a
number that is none, so it is equal to itself. -/
theorem roundTrip_of_ofDocument {d : Value} {p : Plan} (hd : IsClean d)
    (h : ofDocument d = .ok p) :
    p.toDocument = .ok p.document ∧ ofDocument p.document = .ok p ∧
      p.toValue.equals p.toValue = true := by
  obtain ⟨htyped, hterms, hreread⟩ := holdsPartsOf_of_ofDocument hd.1 h
  have hp : IsTyped IsText IsClean p := htyped.imp (fun _ h => h) fun _ h => hd.optional h
  have hplain : p.HasTerms Term.IsPlain :=
    fun ds hds term comment hmem => (hterms ds hds term comment hmem).1
  have hcut : IsTyped IsText (·.isCut = false) p := hp.imp (fun _ h => h) fun _ h => h.1
  have hread := hcut.ofDocument_document hplain
  rw [hreread] at hread
  refine ⟨?_, hread, Value.equals_self ?_⟩
  · rw [hp.toDocument_eq, hp.listed_eq hplain]
  · obtain @⟨name, guard, files, ds, hname, hguard, hfiles, hds⟩ := hp
    have hdeclarations : ∀ d ∈ ds, d.isNaNFree = true := by
      intro d hd
      have hterm := hplain ds rfl
      obtain ⟨-, hcomment⟩ := hds d hd
      rw [Value.isNaNFree, (hterm _ _ hd).isNaNFree, hcomment.2]
      rfl
    have hincludes : ∀ f ∈ files, f.isNaNFree = true :=
      fun f hf => Optional.isNaNFree (.inr (hfiles f hf))
    simp only [toValue, Value.isNaNFree, Value.allNaNFree_eq_all, hguard.isNaNFree,
      Optional.isNaNFree (.inr hname), List.all_eq_true.mpr hdeclarations,
      List.all_eq_true.mpr hincludes, Bool.and_self]

/-- Writing and reading plans, as documents and in JSON.

The first part is about documents: a typed plan is written, and what is written is read as its plain
form. The second part says that a plan with plain terms is its own plain form. The third part is
about JSON, where the entries stand in order. It assumes that JSON inverts the document of the plan,
and adds that this is so if the numbers in the document can be written and no halves of a pair stand
side by side in its texts. The fourth part starts with any document that is read as a plan.

**Proof sketch.** The plain form of a typed plan is typed and has plain terms. So its document is
read as the plan, in whatever order the entries are. In JSON they are in order, and if JSON inverts
the document, what is read is the document in another order. -/
theorem roundTrip :
    (∀ p : Plan, IsTyped IsText (Optional IsText) p →
      ∃ d q, p.toDocument = .ok d ∧ ofDocument d = .ok q ∧ Restores p q) ∧
    (∀ p : Plan, IsTyped IsText (Optional IsText) p → p.HasTerms Term.IsPlain → p.listed = p) ∧
    (∀ (p : Plan) (d : Value), IsTyped IsText (Optional IsText) p → p.toDocument = .ok d →
      (Json.IsFaithful d → Json.Inverts d) ∧
      (Json.Inverts d → ∃ d' q, d.Reordered d' ∧ Json.IsOrdered d' ∧
        p.toJson = .ok (Json.form d') ∧ ofJson (.text (Json.form d')) = .ok q ∧ Restores p q)) ∧
    ∀ (d : Value) (p : Plan), IsClean d → ofDocument d = .ok p →
      ∃ d' q, p.toDocument = .ok d' ∧ ofDocument d' = .ok q ∧
        q.toValue.equals p.toValue = true := by
  refine ⟨fun p hp => ?_, fun p hp hplain => hp.listed_eq hplain, fun p d hp hd => ?_,
    fun d p hd h => ?_⟩
  · obtain ⟨q, hq, hrestores⟩ := hp.restores_of_reordered (.inl (.same _))
    exact ⟨_, q, hp.toDocument_eq, hq, hrestores⟩
  · have hlisted := hp.isTyped_listed
    have hterms := hp.hasTerms_listed
    obtain rfl : p.listed.document = d := Except.ok.inj (hp.toDocument_eq.symm.trans hd)
    refine ⟨hlisted.inverts hterms, fun hinverts => ?_⟩
    obtain ⟨s, d', hwrite, hparse, hreordered⟩ := hinverts
    obtain ⟨q, hq, hrestores⟩ := hp.restores_of_reordered (.inr hreordered)
    have hform : Json.form p.listed.arranged = s := by
      rw [hlisted.write_document hterms, Fault.whenShown] at hwrite
      split at hwrite
      · exact Except.ok.inj hwrite
      · simp at hwrite
    refine ⟨p.listed.arranged, q, hlisted.reordered_arranged hterms,
      hlisted.isOrdered_arranged hterms, ?_, ?_, hrestores⟩
    · rw [toJson, hd, hform]
      exact hwrite
    · rw [hform, ofJson, ofJsonText, hparse]
      exact hq
  · obtain ⟨hwrite, hread, hequals⟩ := roundTrip_of_ofDocument hd h
    exact ⟨_, p, hwrite, hread, hequals⟩

/-- A plan with a tuple and a sequence in its term. -/
def sample : Plan :=
  ⟨.text "demo", .list [.declaration
    (.call (.text "indexedArgs") (.tuple [.cons (.int 1) .nil])) (.text "first")],
    .none, .list [.text "a.h"]⟩

/-- The sample is typed. -/
theorem isTyped_sample : IsTyped IsText (Optional IsText) sample := by
  have hone : ∀ t ∈ [Value.int 1], Term.IsTerm t := by simpa using Term.IsTerm.int 1
  have hchain : Term.IsTerm (.cons (.int 1) .nil) := .sequence hone
  refine ⟨rfl, .inl rfl, by simp [IsText, Value.text?], ?_⟩
  refine List.forall_mem_singleton.mpr ⟨.callTuple rfl ?_, .inr rfl⟩
  exact List.forall_mem_singleton.mpr hchain

/-- The sample is written, read and stored as every other plan.

**Proof sketch.** The document of the sample is faithful, entry by entry and item by item, so JSON
inverts it. Then each part of the general statement is applied. -/
theorem roundTrip_sample :
    (∃ d q, sample.toDocument = .ok d ∧ ofDocument d = .ok q ∧ Restores sample q) ∧
    (∃ d d' q, sample.toDocument = .ok d ∧ d.Reordered d' ∧ Json.IsOrdered d' ∧
      sample.toJson = .ok (Json.form d') ∧ ofJson (.text (Json.form d')) = .ok q ∧
      Restores sample q) ∧
    sample.listed.listed = sample.listed ∧
    ∃ d' q, sample.listed.reread.toDocument = .ok d' ∧ ofDocument d' = .ok q ∧
      q.toValue.equals sample.listed.reread.toValue = true := by
  have hlisted := isTyped_sample.isTyped_listed
  have hterms := isTyped_sample.hasTerms_listed
  have htext : ∀ s : String, Json.IsFaithful (.text s) :=
    fun s => .text rfl (Json.isJoined_ofString s)
  have hone : Json.IsFaithful (.int 1) := .int (by decide +kernel)
  have hterm : Json.IsFaithful (.record [("op", .text "indexedArgs"),
      ("args", .list [.list [.int 1]])]) := by
    refine Json.isFaithful_record (by simp) (List.forall_mem_cons.mpr ⟨htext "indexedArgs", ?_⟩)
    exact List.forall_mem_singleton.mpr
      (.list (List.forall_mem_singleton.mpr (.list (List.forall_mem_singleton.mpr hone))))
  have hdeclaration : Json.IsFaithful (declarationDocument (.declaration
      (.call (.text "indexedArgs") (.list [.list [.int 1]])) (.text "first"))) := by
    refine Json.isFaithful_record (by simp) (List.forall_mem_cons.mpr ⟨hterm, ?_⟩)
    exact List.forall_mem_singleton.mpr (htext "first")
  have hfaithful : Json.IsFaithful sample.listed.document := by
    refine Json.isFaithful_record (by simp) (List.forall_mem_cons.mpr ⟨htext "demo", ?_⟩)
    exact List.forall_mem_cons.mpr ⟨.none, List.forall_mem_cons.mpr
      ⟨.list (List.forall_mem_singleton.mpr (htext "a.h")), List.forall_mem_singleton.mpr
        (.list (List.forall_mem_singleton.mpr hdeclaration))⟩⟩
  refine ⟨roundTrip.1 sample isTyped_sample, ?_,
    roundTrip.2.1 sample.listed hlisted hterms,
    roundTrip.2.2.2 sample.listed.document _ ⟨rfl, rfl⟩
      (hlisted.ofDocument_reordered hterms (.same _))⟩
  obtain ⟨hinverts, hjson⟩ :=
    roundTrip.2.2.1 sample _ isTyped_sample isTyped_sample.toDocument_eq
  obtain ⟨d', q, hstored⟩ := hjson (hinverts hfaithful)
  exact ⟨_, d', q, isTyped_sample.toDocument_eq, hstored⟩

end Plan

end CHeaders
