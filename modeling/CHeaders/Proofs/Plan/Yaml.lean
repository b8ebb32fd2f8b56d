import CHeaders.Plan.Storage
import CHeaders.Proofs.Plan.Document
import CHeaders.Proofs.Yaml.Writer

/-!
# Plans in YAML

A generated text has no form in YAML, although it may stand wherever a text may stand in a term. So
a plan is written in YAML exactly if there is no generated text in its terms and none of its numbers
is too long, and the first generated text is what is refused. What is written is read as a plan with
the same document.

## Main definitions

* `CHeaders.Term.generated`, `CHeaders.Plan.generated`: the generated texts in a term and in the
  terms of a plan.

## Main results

* `CHeaders.Term.IsTerm.formless_document`: only the generated texts in a term have no form.
* `CHeaders.Plan.yamlRoundTrip`: writing plans in YAML and reading them.
-/

namespace CHeaders

namespace Term

mutual

/-- The generated texts in a term, in the order in which they stand. -/
def generated : Value → List Value
  | .fragment s => [.fragment s]
  | .call op (.list ts) | .call op (.tuple ts) => generated op ++ allGenerated ts
  | .list ts | .tuple ts => allGenerated ts
  | .cons head tail => generated head ++ generated tail
  | _ => []

/-- The generated texts in several terms. -/
def allGenerated : List Value → List Value
  | [] => []
  | t :: ts => generated t ++ allGenerated ts

end

/-- The generated texts in several terms are those in each of them. -/
@[simp] theorem allGenerated_eq_flatMap (ts : List Value) :
    allGenerated ts = ts.flatMap generated := by
  induction ts with
  | nil => rfl
  | cons t ts ih => rw [allGenerated, ih, List.flatMap_cons]

/-- The generated texts in a sequence are those in the list that it was made of. -/
theorem generated_ofList (ts : List Value) :
    generated (Value.ofList ts) = ts.flatMap generated := by
  induction ts with
  | nil => rfl
  | cons t ts ih =>
    change generated t ++ generated (Value.ofList ts) = _
    rw [ih, List.flatMap_cons]

/-- The parts without a form in several documents are the generated texts in their terms, if this
holds of each of them. -/
theorem formless_documents {ts : List Value}
    (h : ∀ t ∈ ts, Yaml.formless (document (listed t)) = generated t) :
    Yaml.allFormless ((ts.map listed).map document) = ts.flatMap generated := by
  rw [Yaml.allFormless_eq_flatMap, List.map_map, List.flatMap_map]
  exact List.flatMap_congr h

/-- A name has no form exactly if it was generated. -/
theorem formless_name {op : Value} (h : op.text?.isSome) : Yaml.formless op = generated op := by
  obtain ⟨s, rfl | rfl⟩ := Value.isText_iff.mp h <;> rfl

/-- The parts without a form in the document of a term are the generated texts in the term. -/
theorem IsTerm.formless_document {t : Value} (h : IsTerm t) :
    Yaml.formless (document (listed t)) = generated t := by
  induction h with
  | text s => rfl
  | fragment s => rfl
  | int n => rfl
  | list _ ih | tuple _ ih =>
    simp only [listed, listedAll_eq_map, document, documents_eq_map, Yaml.formless,
      formless_documents ih, generated, allGenerated_eq_flatMap]
  | sequence _ ih =>
    rw [listed_ofList, generated_ofList]
    simp only [document, documents_eq_map, Yaml.formless, formless_documents ih]
  | call hop _ ih | callTuple hop _ ih =>
    simp only [listed, listedAll_eq_map, document, documents_eq_map, callDocument, Value.record,
      List.map_cons, List.map_nil, Yaml.formless, Yaml.entriesFormless, formless_documents ih,
      formless_name hop, generated, allGenerated_eq_flatMap, List.nil_append, List.append_nil]

/-- Several values that stand for others can be written if the others can, if this holds of each of
them. -/
theorem allWritable_map {f : Value → Value} {vs : List Value}
    (h : ∀ v ∈ vs, (f v).isWritable = v.isWritable) :
    Value.allWritable (vs.map f) = Value.allWritable vs := by
  induction vs with
  | nil => rfl
  | cons v vs ih =>
    obtain ⟨hv, hvs⟩ := List.forall_mem_cons.mp h
    rw [List.map_cons, Value.allWritable, Value.allWritable, hv, ih hvs]

/-- The numbers in the document of a term are those in the term. -/
theorem IsTerm.isWritable_document {t : Value} (h : IsTerm t) :
    (document (listed t)).isWritable = t.isWritable := by
  induction h with
  | text s => rfl
  | fragment s => rfl
  | int n => rfl
  | list _ ih | tuple _ ih =>
    simp only [listed, listedAll_eq_map, document, documents_eq_map, Value.isWritable,
      List.map_map]
    exact allWritable_map ih
  | sequence _ ih =>
    rw [listed_ofList, Value.isWritable_ofList, ← Value.allWritable_eq_all]
    simp only [document, documents_eq_map, Value.isWritable, List.map_map]
    exact allWritable_map ih
  | call hop _ ih | callTuple hop _ ih =>
    simp only [listed, listedAll_eq_map, document, documents_eq_map, callDocument, Value.record,
      List.map_cons, List.map_nil, List.map_map, Value.isWritable, Value.entriesWritable,
      Bool.true_and, Bool.and_true]
    exact congrArg _ (allWritable_map ih)

end Term

namespace Plan

open Value (IsText IsOrdinaryText Optional)

/-- The generated texts in the term of a declaration. -/
def generatedDeclaration : Value → List Value
  | .declaration term _ => Term.generated term
  | _ => []

/-- The generated texts in the terms of a plan, in the order in which they stand. -/
def generated (p : Plan) : List Value :=
  match p.declarations with
  | .list ds => ds.flatMap generatedDeclaration
  | _ => []

/-- An ordinary text has a form, and so has a missing one. -/
theorem formless_optional {v : Value} (h : Optional IsOrdinaryText v) : Yaml.formless v = [] := by
  obtain rfl | ⟨s, rfl⟩ := h <;> rfl

/-- Only the generated texts in the term of a declaration have no form. -/
theorem IsDeclaration.formless_document {d : Value}
    (hd : IsDeclaration (Optional IsOrdinaryText) d) :
    Yaml.formless (declarationDocument (listedDeclaration d)) = generatedDeclaration d := by
  obtain ⟨hterm, hcomment⟩ := hd
  simp only [listedDeclaration, declarationDocument, Value.record, List.map_cons, List.map_nil,
    Yaml.formless, Yaml.entriesFormless, hterm.formless_document, formless_optional hcomment,
    generatedDeclaration, List.nil_append, List.append_nil]

/-- Only the generated texts in the terms of a plan have no form. -/
theorem IsTyped.formless_document {p : Plan}
    (hp : IsTyped IsOrdinaryText (Optional IsOrdinaryText) p) :
    Yaml.formless p.listed.document = p.generated := by
  obtain @⟨name, guard, files, ds, hname, hguard, hfiles, hds⟩ := hp
  have hnames : files.flatMap Yaml.formless = [] :=
    List.flatMap_eq_nil_iff.mpr fun f hf => formless_optional (.inr (hfiles f hf))
  have hterms : ((ds.map listedDeclaration).map declarationDocument).flatMap Yaml.formless =
      ds.flatMap generatedDeclaration := by
    rw [List.map_map, List.flatMap_map]
    exact List.flatMap_congr fun d hd => (hds d hd).formless_document
  simp only [listed, document, Value.record, List.map_cons, List.map_nil, Yaml.formless,
    Yaml.entriesFormless, Yaml.allFormless_eq_flatMap, formless_optional hguard,
    formless_optional (.inr hname), hnames, hterms, generated, List.nil_append, List.append_nil]

/-- The numbers in the document of a declaration are those in the declaration. -/
theorem IsDeclaration.isWritable_document {isComment : Value → Prop} {d : Value}
    (hd : IsDeclaration isComment d) :
    (declarationDocument (listedDeclaration d)).isWritable = d.isWritable := by
  obtain ⟨hterm, hcomment⟩ := hd
  simp only [listedDeclaration, declarationDocument, Value.record, List.map_cons, List.map_nil,
    Value.isWritable, Value.entriesWritable, hterm.isWritable_document, Bool.true_and,
    Bool.and_true]

/-- The numbers in the document of a plan are those in the plan. -/
theorem IsTyped.isWritable_document {isText isComment : Value → Prop} {p : Plan}
    (hp : IsTyped isText isComment p) : p.listed.document.isWritable = p.toValue.isWritable := by
  obtain @⟨name, guard, files, ds, hname, hguard, hfiles, hds⟩ := hp
  have hterms : Value.allWritable ((ds.map listedDeclaration).map declarationDocument) =
      Value.allWritable ds := by
    rw [List.map_map]
    exact Term.allWritable_map fun d hd => (hds d hd).isWritable_document
  simp only [listed, document, Value.record, List.map_cons, List.map_nil, toValue,
    Value.isWritable, Value.entriesWritable, hterms, Bool.true_and, Bool.and_true]
  ac_rfl

/-- A plan whose name is an ordinary text keeps it when the name is read. -/
theorem IsTyped.reread_eq {isComment : Value → Prop} {p : Plan}
    (hp : IsTyped IsOrdinaryText isComment p) : p.reread = p := by
  obtain ⟨⟨name, rfl⟩, -, -, -⟩ := hp
  rfl

/-- The document of an ordinary plan is read as the plain form of the plan, which has the same
document. -/
theorem IsTyped.ofDocument_listed {p : Plan}
    (hp : IsTyped IsOrdinaryText (Optional IsOrdinaryText) p) :
    ofDocument p.listed.document = .ok p.listed ∧
      p.listed.toDocument = .ok p.listed.document := by
  have hlisted := hp.isTyped_listed
  have hplain := hp.hasTerms_listed
  have htyped := hlisted.imp (fun _ h => h.isText) (fun _ h => h.imp fun _ h => h.isText)
  constructor
  · rw [htyped.ofDocument_reordered hplain (.same _), hlisted.reread_eq]
  · rw [hlisted.toDocument_eq, hlisted.listed_eq hplain]

/-- A typed plan is written in YAML exactly if there is no generated text in its terms and its
numbers can be written. The first generated text is refused, if the numbers can be written. If YAML
inverts the document of the plan, then a plan with the same document is read.

**Proof sketch.** Of the document of the plan only the generated texts in it have no form, and its
numbers are those of the plan. So what can be said about writing its document can be said about the
plan. Without generated texts the document is that of the plain form of the plan, which is what is
read of it. -/
theorem yamlRoundTrip {p : Plan} (hp : IsTyped IsOrdinaryText (Optional IsOrdinaryText) p) :
    ((∃ s, p.toYaml = .ok s) ↔ p.generated = [] ∧ p.toValue.isWritable = true) ∧
    (∀ v vs, p.generated = v :: vs → p.toValue.isWritable = true →
      p.toYaml = .error (.notYaml v)) ∧
    ∀ s d, p.toYaml = .ok s → p.toDocument = .ok d → Yaml.Inverts d →
      ∃ q, ofYamlText (Text.ofString s) = .ok q ∧ q.toDocument = .ok d := by
  have hwrite : p.toYaml = Yaml.write p.listed.document := by
    rw [toYaml, hp.toDocument_eq]
    rfl
  have hchecked := Yaml.check_eq_ok_iff (v := p.listed.document)
  rw [hp.formless_document, hp.isWritable_document] at hchecked
  refine ⟨?_, ?_, ?_⟩
  · rw [hwrite, Yaml.write_eq_ok_iff, hchecked]
  · intro v vs hv hnumbers
    rw [hwrite]
    refine Yaml.write_of_check ?_
    rw [Yaml.check_eq _ (hp.isWritable_document.trans hnumbers), hp.formless_document, hv]
    rfl
  · intro s d hs hd hinverts
    obtain rfl : p.listed.document = d := Except.ok.inj (hp.toDocument_eq.symm.trans hd)
    obtain ⟨hread, hdocument⟩ := hp.ofDocument_listed
    refine ⟨p.listed, ?_, hdocument⟩
    rw [ofYamlText, hinverts s (hwrite ▸ hs)]
    exact hread

/-- A plan with a number between braces. -/
def bracesPlan : Plan :=
  ⟨.text "x", .list [.declaration (.call (.text "braced") (.list [.int 7])) .none], .none, .list []⟩

/-- The plan is typed, and its texts are ordinary. -/
theorem isTyped_bracesPlan : IsTyped IsOrdinaryText (Optional IsOrdinaryText) bracesPlan := by
  have hterm : Term.IsTerm (.call (.text "braced") (.list [.int 7])) :=
    .call rfl (List.forall_mem_singleton.mpr (.int 7))
  exact ⟨⟨_, rfl⟩, .inl rfl, List.forall_mem_nil _,
    List.forall_mem_singleton.mpr ⟨hterm, .inl rfl⟩⟩

/-- The plan is written in YAML, and a plan with the same document is read. -/
theorem yamlRoundTrip_bracesPlan :
    IsTyped IsOrdinaryText (Optional IsOrdinaryText) bracesPlan ∧
    Yaml.Inverts bracesPlan.document ∧
    ∃ s q, bracesPlan.toYaml = .ok s ∧ ofYamlText (Text.ofString s) = .ok q ∧
      q.toDocument = bracesPlan.toDocument := by
  have hinverts : Yaml.Inverts bracesPlan.document :=
    Yaml.inverts_of_readsBack (by decide +kernel)
  obtain ⟨hwrites, -, hreads⟩ := yamlRoundTrip isTyped_bracesPlan
  obtain ⟨s, hs⟩ := hwrites.mpr ⟨rfl, by decide +kernel⟩
  obtain ⟨q, hq, hdocument⟩ := hreads s bracesPlan.document hs rfl hinverts
  exact ⟨isTyped_bracesPlan, hinverts, s, q, hs, hq, hdocument⟩

end Plan

end CHeaders
