import CHeaders.Json.Writer
import CHeaders.Proofs.Plan.Document

/-!
# The written form of plan documents

Writing a document puts the entries of its mappings in order and lays them out. Here the two steps
are taken apart: `form` lays out a document with its entries in the order in which they stand, and
`arranged` is the document of a term with the entries of its mappings in the order of their keys.

## Main definitions

* `CHeaders.Json.form`: the written form of a document whose entries are in order.
* `CHeaders.Json.IsOrdered`: the keys of every mapping stand in increasing order.
* `CHeaders.Term.arranged`, `CHeaders.Plan.arranged`: the documents of terms and plans in order.

## Main results

* `CHeaders.Term.IsPlain.write_document`: when the document of a term is written, and how.
* `CHeaders.Plan.IsTyped.write_document`: the same for the document of a plan.
-/

namespace CHeaders

namespace Json

mutual

/-- The written form of a document whose entries are in order. -/
def form : Value → String
  | .text t | .fragment t => quoted t
  | .list items => "[" ++ Text.commas (forms items) ++ "]"
  | .dict entries => "\x7b" ++ Text.commas (entryForms entries) ++ "\x7d"
  | v => (scalar? v).getD ""

/-- The written forms of several documents. -/
def forms : List Value → List String
  | [] => []
  | v :: vs => form v :: forms vs

/-- The written forms of entries whose keys are texts. -/
def entryForms : List (Value × Value) → List String
  | [] => []
  | (k, v) :: es => (quoted (k.text?.getD "") ++ ": " ++ form v) :: entryForms es

end

/-- Several documents are written one by one. -/
@[simp] theorem forms_eq_map (vs : List Value) : forms vs = vs.map form := by
  induction vs with
  | nil => rfl
  | cons v vs ih => rw [forms, ih, List.map_cons]

/-- The first key comes before the second one. -/
def KeyBefore (e f : Value × Value) : Prop :=
  ∃ s t : Text, e.1.text? = some s ∧ f.1.text? = some t ∧ s.less t = true

/-- The keys of every mapping in a document stand in increasing order. -/
inductive IsOrdered : Value → Prop
  | none : IsOrdered .none
  | int (n : Int) : IsOrdered (.int n)
  | text {v : Value} (h : Value.IsText v) : IsOrdered v
  | list {vs : List Value} (h : ∀ v ∈ vs, IsOrdered v) : IsOrdered (.list vs)
  | dict {es : List (Value × Value)} (hkeys : es.Pairwise KeyBefore)
      (h : ∀ e ∈ es, IsOrdered e.2) : IsOrdered (.dict es)

end Json

/-! ## Terms -/

namespace Term

mutual

/-- The document of a plain term with the entries of its mappings in order. -/
def arranged : Value → Value
  | .call op (.list ts) => .record [("args", .list (arrangedAll ts)), ("op", op)]
  | .list ts => .list (arrangedAll ts)
  | v => v

/-- The same for several terms. -/
def arrangedAll : List Value → List Value
  | [] => []
  | t :: ts => arranged t :: arrangedAll ts

end

/-- Several terms are arranged one by one. -/
@[simp] theorem arrangedAll_eq_map (ts : List Value) : arrangedAll ts = ts.map arranged := by
  induction ts with
  | nil => rfl
  | cons t ts ih => rw [arrangedAll, ih, List.map_cons]

/-- Arranging the document of a plain term reorders it. -/
theorem IsPlain.reordered_arranged {t : Value} (h : IsPlain t) :
    (document t).Reordered (arranged t) := by
  have hall : ∀ {ts : List Value}, (∀ t ∈ ts, (document t).Reordered (arranged t)) →
      Value.Reordered (.list (ts.map document)) (.list (ts.map arranged)) := by
    intro ts hts
    refine Value.reordered_list.mpr ⟨_, rfl, ?_⟩
    rwa [List.forall₂_map_left_iff, List.forall₂_map_right_iff, List.forall₂_same]
  induction h with
  | text s => exact .same _
  | fragment s => exact .same _
  | int n => exact .same _
  | list _ ih =>
    rw [document, documents_eq_map, arranged, arrangedAll_eq_map]
    exact hall ih
  | call _ _ ih =>
    rw [document, documents_eq_map, arranged, arrangedAll_eq_map]
    exact .dict (.cons (.same _) (.cons (hall ih) .nil)) (.swap _ _ _)

/-- The document of a plain term is in order when it is arranged. -/
theorem IsPlain.isOrdered_arranged {t : Value} (h : IsPlain t) : Json.IsOrdered (arranged t) := by
  induction h with
  | text s => exact .text rfl
  | fragment s => exact .text rfl
  | int n => exact .int n
  | list _ ih =>
    rw [arranged, arrangedAll_eq_map]
    exact .list (List.forall_mem_map.mpr ih)
  | call hop _ ih =>
    rw [arranged, arrangedAll_eq_map]
    refine .dict ?_ ?_
    · exact List.pairwise_pair.mpr ⟨"args", "op", rfl, rfl, by decide⟩
    · exact List.forall_mem_cons.mpr ⟨.list (List.forall_mem_map.mpr ih),
        List.forall_mem_cons.mpr ⟨.text hop, by simp⟩⟩

end Term

/-! ## Writing -/

namespace Json

/-- A walk in which each item is shown shows all of them. -/
theorem mapM_whenShown {α : Type} {f : Value → Except CHeaders.Fault α} {g : Value → α}
    {vs : List Value} (h : ∀ v ∈ vs, f v = CHeaders.Fault.whenShown [v] (.ok (g v))) :
    vs.mapM f = CHeaders.Fault.whenShown vs (.ok (vs.map g)) := by
  induction vs with
  | nil => rfl
  | cons v vs ih =>
    obtain ⟨hv, hvs⟩ := List.forall_mem_cons.mp h
    rw [List.mapM_cons, hv, ih hvs]
    simp only [CHeaders.Fault.whenShown, List.all_cons, List.all_nil, Bool.and_true]
    by_cases hfirst : v.isWritable = true
    · by_cases hrest : vs.all Value.isWritable = true
      · simp [hfirst, hrest, bind, Except.bind, pure, Except.pure]
      · simp [hfirst, hrest, bind, Except.bind]
    · simp [hfirst, bind, Except.bind]

/-- Entries whose keys are texts are ordered by them. -/
theorem less_text (s t : Text) : Value.less (.text s) (.text t) = .ok (s.less t) := rfl

/-- Two entries that stand in the wrong order are put in order. -/
theorem sortBy_pair {α : Type} {key : α → Value} {x y : α}
    (h : Value.less (key y) (key x) = .ok true) : Value.sortBy key [x, y] = .ok [y, x] := by
  simp [Value.sortBy, h, Value.fallingRun, Value.insertAll, bind, Except.bind]

/-- A record with two fields in the wrong order is written with the fields in order. -/
theorem write_pair {a b : String} {v w : Value} (h : (Text.ofString b).less a = true) :
    write (.record [(a, v), (b, w)]) = do
      let s ← write w
      let t ← write v
      return "\x7b" ++ (quoted b ++ ": " ++ s ++ ", " ++ (quoted a ++ ": " ++ t)) ++ "\x7d" := by
  have hsort : Value.sortBy Prod.fst [(Value.text a, write v), (Value.text b, write w)] =
      .ok [(.text b, write w), (.text a, write v)] :=
    sortBy_pair (by rw [less_text, h])
  simp only [write, Value.record, List.map_cons, List.map_nil, writeEntries]
  rw [hsort]
  rcases write w with e | s
  · rfl
  · rcases write v with e | t <;> rfl

end Json

/-- The document of a plain term is written in order, if its numbers can be written.

**Proof sketch.** By induction on the term. A list shows what its items show. In the mapping of a
call the arguments come before the name, which is a text and shows nothing. -/
theorem Term.IsPlain.write_document {t : Value} (h : IsPlain t) :
    Json.write (document t) = Fault.whenShown [t] (.ok (Json.form (arranged t))) := by
  have hall : ∀ {ts : List Value},
      (∀ t ∈ ts, Json.write (document t) = Fault.whenShown [t] (.ok (Json.form (arranged t)))) →
      Json.write (.list (ts.map document)) =
        Fault.whenShown ts (.ok (Json.form (.list (ts.map arranged)))) := by
    intro ts hts
    have hwalk : (ts.map document).mapM Json.write =
        Fault.whenShown ts (.ok (ts.map fun t => Json.form (arranged t))) := by
      rw [List.mapM_map]
      exact Json.mapM_whenShown hts
    rw [Json.write, Json.writeAll_eq_mapM, hwalk, Json.form, Json.forms_eq_map, List.map_map]
    simp only [Fault.whenShown]
    cases ts.all Value.isWritable <;> rfl
  induction h with
  | text s => rfl
  | fragment s => rfl
  | int n => rfl
  | @list ts _ ih =>
    rw [document, documents_eq_map, arranged, arrangedAll_eq_map, hall ih]
    simp only [Fault.whenShown, List.all_cons, List.all_nil, Value.isWritable,
      Value.allWritable_eq_all, Bool.and_true]
  | @call op ts hop _ ih =>
    obtain ⟨s, hs⟩ := Value.isText_iff.mp hop
    have hwrite : Json.write op = .ok (Json.form op) := by
      obtain rfl | rfl := hs <;> rfl
    have hshown : op.isWritable = true := by
      obtain rfl | rfl := hs <;> rfl
    rw [document, documents_eq_map, arranged, arrangedAll_eq_map, callDocument,
      Json.write_pair (by decide), hall ih, hwrite]
    simp only [Fault.whenShown, List.all_cons, List.all_nil, Value.isWritable, hshown,
      Value.allWritable_eq_all, Bool.and_true, Bool.true_and]
    cases ts.all Value.isWritable <;> rfl

/-! ## Plans -/

namespace Plan

open Value (IsText Optional)

/-- The document of a declaration with its entries in order. -/
def arrangedDeclaration : Value → Value
  | .declaration term comment => .record [("comment", comment), ("term", Term.arranged term)]
  | v => v

/-- The document of a plan with plain terms, with the entries of its mappings in order. -/
def arranged : Plan → Value
  | ⟨name, .list ds, guard, files⟩ =>
    .record [("declarations", .list (ds.map arrangedDeclaration)), ("include_guard", guard),
      ("includes", files), ("name", name)]
  | _ => .none

/-- A text that may be missing is written, and it shows nothing. -/
theorem write_optional {v : Value} (h : Optional IsText v) :
    Json.write v = .ok (Json.form v) ∧ v.isWritable = true ∧ Json.IsOrdered v := by
  obtain rfl | h := h
  · exact ⟨rfl, rfl, .none⟩
  · refine ⟨?_, ?_, .text h⟩ <;> obtain ⟨t, rfl | rfl⟩ := Value.isText_iff.mp h <;> rfl

/-- The document of a declaration is written in order, if its numbers can be written. -/
theorem IsDeclaration.write_document {d : Value} (hd : IsDeclaration (Optional IsText) d)
    (hplain : ∀ term comment, d = .declaration term comment → Term.IsPlain term) :
    Json.write (declarationDocument d) =
      Fault.whenShown [d] (.ok (Json.form (arrangedDeclaration d))) := by
  obtain @⟨term, comment, -, hcomment⟩ := hd
  obtain ⟨hwrite, hshown, -⟩ := write_optional hcomment
  rw [declarationDocument, Json.write_pair (by decide), hwrite,
    (hplain _ _ rfl).write_document]
  simp only [Fault.whenShown, List.all_cons, List.all_nil, Value.isWritable, hshown, Bool.and_true]
  cases term.isWritable <;> rfl

/-- The entries of a plan are put in the order of their keys. -/
theorem sortBy_fields {α : Type} (a b c d : α) :
    Value.sortBy Prod.fst [(Value.text "name", a), (.text "include_guard", b),
      (.text "includes", c), (.text "declarations", d)] =
      .ok [(.text "declarations", d), (.text "include_guard", b), (.text "includes", c),
        (.text "name", a)] := by
  have hgn : (Text.ofString "include_guard").less "name" = true := by decide
  have hig : (Text.ofString "includes").less "include_guard" = false := by decide
  have hin : (Text.ofString "includes").less "name" = true := by decide
  have hdi : (Text.ofString "declarations").less "includes" = true := by decide
  have hdg : (Text.ofString "declarations").less "include_guard" = true := by decide
  simp [Value.sortBy, Value.fallingRun, Value.insertAll, Value.place, Json.less_text, hgn, hig,
    hin, hdi, hdg, bind, Except.bind, pure, Except.pure]

/-- The document of a plan is written in order, if its numbers can be written.

**Proof sketch.** The entries of the document are written in the order of their keys. Name, guard
and files are texts or missing and can always be written; the declarations can be if their numbers
can. -/
theorem IsTyped.write_document {p : Plan} (hp : IsTyped IsText (Optional IsText) p)
    (hplain : p.HasTerms Term.IsPlain) :
    Json.write p.document = Fault.whenShown [p.toValue] (.ok (Json.form p.arranged)) := by
  obtain @⟨name, guard, files, ds, hname, hguard, hfiles, hds⟩ := hp
  have hdeclarations : (ds.map declarationDocument).mapM Json.write =
      Fault.whenShown ds (.ok (ds.map fun d => Json.form (arrangedDeclaration d))) := by
    rw [List.mapM_map]
    refine Json.mapM_whenShown fun d hd => ?_
    exact (hds d hd).write_document fun term comment heq => hplain ds rfl _ _ (heq ▸ hd)
  have hincludes : files.mapM Json.write = .ok (files.map Json.form) :=
    mapM_eq_ok_map fun f hf => (write_optional (.inr (hfiles f hf))).1
  have hshown : files.all Value.isWritable = true :=
    List.all_eq_true.mpr fun f hf => (write_optional (.inr (hfiles f hf))).2.1
  obtain ⟨hnameWrite, hnameShown, -⟩ := write_optional (.inr hname)
  obtain ⟨hguardWrite, hguardShown, -⟩ := write_optional hguard
  simp only [document_mk, Value.record, List.map_cons, List.map_nil, Json.write,
    Json.writeEntries, sortBy_fields, Json.writeAll_eq_mapM, hdeclarations, hincludes, hnameWrite,
    hguardWrite]
  simp only [Fault.whenShown, List.all_cons, List.all_nil, Bool.and_true, toValue,
    Value.isWritable, Value.allWritable_eq_all, hnameShown, hguardShown, hshown, Bool.true_and]
  by_cases hwritable : ds.all Value.isWritable = true
  · simp [hwritable, Json.joinEntries, Json.key, Value.text?, Fault.whenShown, bind, Except.bind,
      pure, Except.pure, arranged, Value.record, Json.form, Json.entryForms, Value.isWritable]
    rfl
  · rw [if_neg hwritable, if_neg hwritable]
    rfl

/-- Arranging the document of a plan reorders it. -/
theorem IsTyped.reordered_arranged {p : Plan} (hp : IsTyped IsText (Optional IsText) p)
    (hplain : p.HasTerms Term.IsPlain) : p.document.Reordered p.arranged := by
  obtain @⟨name, guard, files, ds, hname, hguard, hfiles, hds⟩ := hp
  have hdeclarations : Value.Reordered (.list (ds.map declarationDocument))
      (.list (ds.map arrangedDeclaration)) := by
    refine Value.reordered_list.mpr ⟨_, rfl, ?_⟩
    rw [List.forall₂_map_left_iff, List.forall₂_map_right_iff, List.forall₂_same]
    intro d hd
    have hterm := hplain ds rfl
    obtain ⟨-, -⟩ := hds d hd
    exact .dict (.cons (hterm _ _ hd).reordered_arranged (.cons (.same _) .nil)) (.swap _ _ _)
  have hperm : ∀ a b c d : Value × Value, [a, b, c, d].Perm [d, b, c, a] := by
    intro a b c d
    have hlast : ([b, c] ++ [d]).Perm ([d] ++ [b, c]) := List.perm_append_comm
    have hfirst : ([a] ++ [b, c]).Perm ([b, c] ++ [a]) := List.perm_append_comm
    exact (hlast.cons a).trans ((List.Perm.swap d a [b, c]).trans (hfirst.cons d))
  exact .dict (.cons (.same _) (.cons (.same _) (.cons (.same _) (.cons hdeclarations .nil))))
    (hperm _ _ _ _)

/-- The arranged document of a plan is in order.

**Proof sketch.** The keys stand in order, pair by pair. Of the values only the declarations hold
entries, and these stand in order as well. -/
theorem IsTyped.isOrdered_arranged {p : Plan} (hp : IsTyped IsText (Optional IsText) p)
    (hplain : p.HasTerms Term.IsPlain) : Json.IsOrdered p.arranged := by
  obtain @⟨name, guard, files, ds, hname, hguard, hfiles, hds⟩ := hp
  have hkeys : ∀ (s t : String) (v w : Value), (Text.ofString s).less t = true →
      Json.KeyBefore (.text s, v) (.text t, w) :=
    fun s t _ _ h => ⟨s, t, rfl, rfl, h⟩
  have hdeclarations : ∀ d ∈ ds, Json.IsOrdered (arrangedDeclaration d) := by
    intro d hd
    have hterm := hplain ds rfl
    obtain ⟨-, hcomment⟩ := hds d hd
    refine .dict (List.pairwise_pair.mpr (hkeys "comment" "term" _ _ (by decide))) ?_
    exact List.forall_mem_cons.mpr ⟨(write_optional hcomment).2.2,
      List.forall_mem_cons.mpr ⟨(hterm _ _ hd).isOrdered_arranged, by simp⟩⟩
  refine .dict ?_ ?_
  · simp only [List.map_cons, List.map_nil, List.pairwise_cons, List.forall_mem_cons]
    refine ⟨⟨?_, ?_, ?_, by simp⟩, ⟨?_, ?_, by simp⟩, ⟨?_, by simp⟩, by simp⟩
    · exact hkeys "declarations" "include_guard" _ _ (by decide)
    · exact hkeys "declarations" "includes" _ _ (by decide)
    · exact hkeys "declarations" "name" _ _ (by decide)
    · exact hkeys "include_guard" "includes" _ _ (by decide)
    · exact hkeys "include_guard" "name" _ _ (by decide)
    · exact hkeys "includes" "name" _ _ (by decide)
  · simp only [List.map_cons, List.map_nil, List.forall_mem_cons]
    exact ⟨.list (List.forall_mem_map.mpr hdeclarations), (write_optional hguard).2.2,
      .list fun f hf => .text (hfiles f hf), .text hname, by simp⟩

end Plan

end CHeaders
