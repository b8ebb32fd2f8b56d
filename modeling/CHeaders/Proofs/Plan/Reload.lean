import CHeaders.Proofs.Plan.Document
import CHeaders.Proofs.Plan.Header
import CHeaders.Proofs.Term.Divergence

/-!
# Headers of plans that were written and read again

A plan that is written as a document and read again has the plain forms of its terms. The header
stays what it was exactly if every term is settled. In a term that is not settled a sequence holds
something that evaluation changes. The sequence stands for itself in the plan that was written, but
in the plan that was read a list stands for it and is evaluated item by item.

## Main definitions

* `CHeaders.Plan.terms`: the terms of the declarations of a plan.

## Main results

* `CHeaders.Plan.exists_reload`: a plan that has a header is written and read again.
* `CHeaders.Plan.apart_renderDeclaration`: the text of a declaration whose term is not settled
  changes.
* `CHeaders.Plan.header_reload`: which headers stay.
-/

namespace CHeaders.Plan

open Text (ink)
open Value (IsText Optional)

/-- The terms of the declarations of a plan. -/
def terms (p : Plan) : List Value :=
  (p.declarations.items?.getD []).filterMap fun
    | .declaration term _ => some term
    | _ => none

/-- The terms of a plan are those of the values that one gets by going through its declarations. -/
theorem mem_terms_iff {p : Plan} {ds : List Value} (hds : itemsOf p.declarations = .ok ds)
    {term : Value} : term ∈ p.terms ↔ ∃ comment, .declaration term comment ∈ ds := by
  rw [terms, itemsOf_eq_ok_iff.mp hds, Option.getD_some, List.mem_filterMap]
  constructor
  · rintro ⟨d, hd, hterm⟩
    split at hterm
    · next comment =>
      obtain rfl := Option.some.inj hterm
      exact ⟨comment, hd⟩
    · cases hterm
  · rintro ⟨comment, hd⟩
    exact ⟨_, hd, rfl⟩

/-! ## Plans that have a header -/

/-- A marked text holds no cycle and can be written. -/
theorem isCut_and_isWritable_of_bare {text : Text} : ∀ {v : Value},
    v.bare = .text text ∨ v.bare = .fragment text → v.isCut = false ∧ v.isWritable = true
  | .shared _ v, h => isCut_and_isWritable_of_bare (v := v) h
  | .text _, _ | .fragment _, _ => ⟨rfl, rfl⟩

/-- The text of a name is read from the name. -/
theorem nameOf_eq_of_commentText {v : Value} {text : Text} (h : commentText v = .ok text) :
    nameOf v = .ok text := by
  obtain ⟨-, hbare⟩ := Judged.of_eq_ok (decides_commentText v) h
  obtain ⟨-, hwritable⟩ := isCut_and_isWritable_of_bare hbare
  have hdisplay : v.display = text := by
    unfold Value.display
    rcases hbare with hbare | hbare <;> rw [hbare]
  rw [nameOf, Value.written_of_isWritable hwritable, hdisplay]

/-- What does not count as true holds no cycle. -/
theorem isCut_eq_of_isTrue : ∀ {v : Value}, v.isTrue = false → v.isCut = false
  | .shared _ v, h => isCut_eq_of_isTrue (v := v) h
  | .list [], _ | .tuple [], _ | .set [], _ | .dict [], _ => rfl
  | .none, _ | .bool _, _ | .int _, _ | .real _, _ | .text _, _ | .fragment _, _
  | .bytes _, _ => rfl

/-- A comment that a header can show holds no cycle. -/
theorem isCut_eq_of_commentOf {term comment : Value} {shown : Option Text}
    (h : commentOf (.declaration term comment) = .ok shown) : comment.isCut = false := by
  change (if comment.isTrue then (commentText comment).map some else pure none) = _ at h
  split at h
  · obtain ⟨text, htext, -⟩ := map_eq_ok_iff.mp h
    obtain ⟨-, hbare⟩ := Judged.of_eq_ok (decides_commentText comment) htext
    exact (isCut_and_isWritable_of_bare hbare).1
  · next hfalse => exact isCut_eq_of_isTrue (by simpa using hfalse)

/-- The declarations of a plan that has a header hold terms and comments without cycles, if their
terms are such. -/
theorem isDeclaration_of_rendered {ds : List Value} {texts : List Text}
    {comments : List (Option Text)}
    (hterms : ∀ term comment, Value.declaration term comment ∈ ds → Term.IsTerm term)
    (htexts : List.Forall₂ (fun d t => (renderDeclaration d).result = .ok t) ds texts)
    (hcomments : ds.mapM commentOf = .ok comments) :
    ∀ d ∈ ds, IsDeclaration (·.isCut = false) d := by
  rw [← mapM_eq_ok_iff] at htexts
  intro d hd
  obtain ⟨text, htext⟩ := exists_ok_of_mapM htexts d hd
  obtain ⟨shown, hshown⟩ := exists_ok_of_mapM hcomments d hd
  obtain ⟨term, comment, rfl⟩ := exists_of_renderDeclaration htext
  exact ⟨hterms term comment hd, isCut_eq_of_commentOf hshown⟩

/-- A plan that has a header is written and read again: its name is an ordinary text then, its files
and its declarations stand in lists, and its terms have their plain forms.

**Proof sketch.** The parts that lead to a header are texts, or are written as they are. The
declarations are written one by one as the documents of their plain forms, and these are read as the
plain forms. -/
theorem exists_reload {p : Plan} {guard : Option Text} {files ds : List Value}
    {includes : List Text} {name : Text} (hguard : checkGuard p.guard = .ok guard)
    (hfiles : itemsOf p.includes = .ok files)
    (hincludes : files.mapM checkInclude = .ok includes) (hds : itemsOf p.declarations = .ok ds)
    (hname : commentText p.name = .ok name)
    (hdeclarations : ∀ d ∈ ds, IsDeclaration (·.isCut = false) d) :
    ∃ d, p.toDocument = .ok d ∧
      ofDocument d = .ok ⟨.text name, .list (ds.map listedDeclaration), p.guard, .list files⟩ := by
  have hwalk : ds.mapM declarationToDocument =
      .ok ((ds.map listedDeclaration).map declarationDocument) := by
    rw [List.map_map]
    exact mapM_eq_ok_map fun d hd => (hdeclarations d hd).toDocument_eq
  have htexts : ∀ f ∈ files, IsText f := by
    intro f hf
    obtain ⟨file, hfile⟩ := exists_ok_of_mapM hincludes f hf
    exact (Judged.of_eq_ok (decides_checkInclude f) hfile).1.isText
  have hguard := (Judged.of_eq_ok (decides_checkGuard p.guard) hguard).1.optional
  obtain ⟨-, hbare⟩ := Judged.of_eq_ok (decides_commentText p.name) hname
  obtain ⟨hcut, -⟩ := isCut_and_isWritable_of_bare hbare
  refine ⟨_, ?_, ofDocument_document_eq hcut (nameOf_eq_of_commentText hname) hguard
    htexts ?_ ?_⟩
  · rw [toDocument, hfiles, hds]
    change (ds.mapM declarationToDocument >>= _) = _
    rw [hwalk]
    rfl
  · refine List.forall_mem_map.mpr fun d hd => ?_
    obtain ⟨hterm, hcomment⟩ := hdeclarations d hd
    exact ⟨hterm.isPlain_listed.isTerm, hcomment⟩
  · intro term comment hmem
    obtain ⟨d, hd, heq⟩ := List.mem_map.mp hmem
    obtain ⟨hterm, -⟩ := hdeclarations d hd
    obtain ⟨rfl, -⟩ := Value.declaration.inj heq
    exact hterm.isPlain_listed

/-! ## Declarations with plain forms -/

/-- A declaration whose term is settled renders as before. -/
theorem renderDeclaration_listed {term comment : Value} {text : Text} (hterm : Term.IsTerm term)
    (hsettled : Term.isSettled term = true)
    (h : (renderDeclaration (.declaration term comment)).result = .ok text) :
    (renderDeclaration (listedDeclaration (.declaration term comment))).result = .ok text := by
  rw [listedDeclaration, renderDeclaration_eq_ok_iff, hterm.evaluate_listed hsettled]
  exact renderDeclaration_eq_ok_iff.mp h

/-- If a declaration whose term is not settled renders with the plain form of the term, then its
text is another one, whatever stands behind it. -/
theorem apart_renderDeclaration {term comment : Value} {text text' : Text}
    (hterm : Term.IsTerm term) (hnot : Term.isSettled term = false)
    (h : (renderDeclaration (.declaration term comment)).result = .ok text)
    (h' : (renderDeclaration (listedDeclaration (.declaration term comment))).result = .ok text') :
    Apart (ink text) (ink text') := by
  rw [listedDeclaration] at h'
  obtain ⟨v, hv, -, hsequence, -, rfl⟩ := renderDeclaration_eq_ok_iff.mp h
  obtain ⟨w, hw, -, -, -, rfl⟩ := renderDeclaration_eq_ok_iff.mp h'
  have hapart := (hterm.diverges hnot v w hv hw).apart hsequence
  obtain ⟨back, hback⟩ := exists_ink_terminated (Text.trim v.display)
  obtain ⟨back', hback'⟩ := exists_ink_terminated (Text.trim w.display)
  rw [hback, hback', Text.ink_trim, Text.ink_trim]
  exact hapart.append back back'

/-- A declaration shows the same comment with the plain form of its term. -/
theorem commentOf_listedDeclaration (d : Value) :
    commentOf (listedDeclaration d) = commentOf d := by
  cases d <;> rfl

/-- With the plain forms of the terms the texts of declarations fork, or they are the same and all
terms are settled.

**Proof sketch.** By induction on the declarations. If the term of the first one is not settled, the
texts fork here. If it is, its text is the same, and what follows decides. -/
theorem forks_or_eq_texts {ds : List Value} (hds : ∀ d ∈ ds, IsDeclaration (·.isCut = false) d)
    {texts texts' : List Text}
    (h : List.Forall₂ (fun d t => (renderDeclaration d).result = .ok t) ds texts)
    (h' : List.Forall₂ (fun d t => (renderDeclaration (listedDeclaration d)).result = .ok t)
      ds texts') :
    Forks (fun t u => Apart (ink t) (ink u)) texts texts' ∨ texts = texts' ∧
      ∀ term comment, Value.declaration term comment ∈ ds → Term.isSettled term = true := by
  induction h generalizing texts' with
  | nil =>
    cases h'
    exact .inr ⟨rfl, by simp⟩
  | cons ht _ ih =>
    rcases h' with _ | ⟨ht', htexts'⟩
    obtain ⟨hd, hrest⟩ := List.forall_mem_cons.mp hds
    obtain @⟨term, comment, hterm, -⟩ := hd
    cases hsettled : Term.isSettled term with
    | false => exact .inl (.here (apart_renderDeclaration hterm hsettled ht ht'))
    | true =>
      have hsame := renderDeclaration_listed hterm hsettled ht
      obtain rfl := Except.ok.inj (hsame.symm.trans ht')
      rcases ih hrest htexts' with hforks | ⟨rfl, hall⟩
      · exact .inl (.there hforks)
      · refine .inr ⟨rfl, fun term' comment' hmem => ?_⟩
        rcases List.mem_cons.mp hmem with heq | hmem
        · obtain ⟨rfl, -⟩ := Value.declaration.inj heq
          exact hsettled
        · exact hall term' comment' hmem

/-! ## Headers -/

/-- The header of a plan whose declarations have the plain forms of their terms. -/
theorem header_listed_eq_ok_iff {name text : Text} {guard : Value} {shown : Option Text}
    {files ds : List Value} {includes : List Text} {comments : List (Option Text)}
    (hguard : checkGuard guard = .ok shown) (hincludes : files.mapM checkInclude = .ok includes)
    (hcomments : ds.mapM commentOf = .ok comments) :
    (header ⟨.text name, .list (ds.map listedDeclaration), guard, .list files⟩).result = .ok text ↔
      ∃ texts, List.Forall₂ (fun d t => (renderDeclaration (listedDeclaration d)).result = .ok t)
        ds texts ∧ Header.text ⟨name, shown, includes, comments.zip texts⟩ = text := by
  have hlisted : (ds.map listedDeclaration).mapM commentOf = .ok comments := by
    rw [List.mapM_map]
    simpa only [Function.comp_def, commentOf_listedDeclaration] using hcomments
  rw [header_eq_ok_iff]
  constructor
  · rintro ⟨guard', files', includes', ds', texts, name', comments', hguard', hfiles', hincludes',
      hds', htexts, hname', hcomments', rfl⟩
    obtain rfl := Except.ok.inj (hguard.symm.trans hguard')
    obtain rfl : files = files' := Except.ok.inj hfiles'
    obtain rfl := Except.ok.inj (hincludes.symm.trans hincludes')
    obtain rfl : ds.map listedDeclaration = ds' := Except.ok.inj hds'
    obtain rfl := Except.ok.inj (hlisted.symm.trans hcomments')
    obtain rfl : name = name' := Except.ok.inj hname'
    exact ⟨texts, List.forall₂_map_left_iff.mp htexts, rfl⟩
  · rintro ⟨texts, htexts, htext⟩
    exact ⟨shown, files, includes, _, texts, name, comments, hguard, rfl, hincludes, rfl,
      List.forall₂_map_left_iff.mpr htexts, rfl, hlisted, htext⟩

/-- Headers that differ in the texts of the declarations only are not the same if the texts fork. -/
theorem text_ne_of_forks {name : Text} {guard : Option Text} {includes : List Text}
    {comments : List (Option Text)} {texts texts' : List Text}
    (h : Forks (fun t u => Apart (ink t) (ink u)) texts texts')
    (hlength : comments.length = texts.length) :
    Header.text ⟨name, guard, includes, comments.zip texts⟩ ≠
      Header.text ⟨name, guard, includes, comments.zip texts'⟩ := by
  intro heq
  obtain ⟨front, back, hink⟩ := Header.exists_ink_text name guard includes
  have hpairs : Forks (fun d e => Apart (Header.inkDeclaration d) (Header.inkDeclaration e))
      (comments.zip texts) (comments.zip texts') :=
    h.zip (fun comment t u htu => Header.apart_inkDeclaration comment htu) hlength
  have hdeclarations := hpairs.flatMap fun d e hde => hde
  have hapart := (hdeclarations.append_left front).append back back
  rw [← hink, ← hink, heq] at hapart
  exact Apart.ne hapart rfl

/-- A plan that has a header is written as a document and read again. What is read has the same
header exactly if every term of the plan is settled.

**Proof sketch.** A settled term and its plain form stand for the same, so the declarations render
as before. If a term is not settled and its plain form renders too, then the texts of the
declarations fork at letters that are not white space. No layout of the header, and no text behind
that place, makes up for it. -/
theorem header_reload {p : Plan} {text : Text} (hterms : ∀ t ∈ p.terms, Term.IsTerm t)
    (htext : p.header.result = .ok text) :
    ∃ d q, p.toDocument = .ok d ∧ ofDocument d = .ok q ∧
      (q.header.result = .ok text ↔ ∀ t ∈ p.terms, Term.isSettled t = true) := by
  obtain ⟨guard, files, includes, ds, texts, name, comments, hguard, hfiles, hincludes, hds, htexts,
    hname, hcomments, rfl⟩ := header_eq_ok_iff.mp htext
  have hdeclarations : ∀ d ∈ ds, IsDeclaration (·.isCut = false) d :=
    isDeclaration_of_rendered (fun term comment hd => hterms term ((mem_terms_iff hds).mpr ⟨_, hd⟩))
      htexts hcomments
  obtain ⟨d, hd, hq⟩ := exists_reload hguard hfiles hincludes hds hname hdeclarations
  refine ⟨d, _, hd, hq, ?_⟩
  rw [header_listed_eq_ok_iff hguard hincludes hcomments]
  constructor
  · rintro ⟨texts', htexts', hsame⟩ t ht
    have hlength : comments.length = texts.length := by
      rw [← ((mapM_eq_ok_iff _ _ _).mp hcomments).length_eq, htexts.length_eq]
    rcases forks_or_eq_texts hdeclarations htexts htexts' with hforks | ⟨-, hall⟩
    · exact absurd hsame.symm (text_ne_of_forks hforks hlength)
    · obtain ⟨comment, hmem⟩ := (mem_terms_iff hds).mp ht
      exact hall t comment hmem
  · intro hsettled
    refine ⟨texts, ?_, rfl⟩
    have hmem : List.Forall₂ (fun d t => d ∈ ds ∧ (renderDeclaration d).result = .ok t) ds texts :=
      (List.forall₂_and_left _ _).mpr ⟨fun _ hd => hd, htexts⟩
    refine hmem.imp fun d t hdt => ?_
    obtain @⟨term, comment, hterm, -⟩ := hdeclarations d hdt.1
    exact renderDeclaration_listed hterm (hsettled term ((mem_terms_iff hds).mpr ⟨_, hdt.1⟩)) hdt.2

/-- A plan with a call in a sequence of types. -/
def unsettled : Plan :=
  ⟨.text "x", .list [.declaration (.call (.text "indexedFields")
    (.list [Value.ofList [.call (.text "indexedArgs") (.list [.int 1])]])) .none], .none, .list []⟩

/-- The call in the sequence is shown as a call in the header, and it is made once the plan has been
read again. -/
theorem header_reload_unsettled :
    (∀ t ∈ unsettled.terms, Term.IsTerm t) ∧ ∃ text, unsettled.header.result = .ok text ∧
      ∃ d q, unsettled.toDocument = .ok d ∧ ofDocument d = .ok q ∧ q.header.result ≠ .ok text := by
  have hterms : ∀ t ∈ unsettled.terms, Term.IsTerm t := by
    refine List.forall_mem_singleton.mpr (.call rfl (List.forall_mem_singleton.mpr ?_))
    have hcall : ∀ t ∈ [Value.call (.text "indexedArgs") (.list [.int 1])], Term.IsTerm t :=
      List.forall_mem_singleton.mpr (.call rfl (List.forall_mem_singleton.mpr (.int 1)))
    exact .sequence hcall
  refine ⟨hterms, ?_⟩
  have hrenders : unsettled.header.result.isOk = true := by decide +kernel
  rcases htext : unsettled.header.result with f | text
  · rw [htext] at hrenders
    cases hrenders
  · obtain ⟨d, q, hd, hq, hiff⟩ := header_reload hterms htext
    refine ⟨text, rfl, d, q, hd, hq, fun hsame => ?_⟩
    have hsettled := hiff.mp hsame _ List.mem_cons_self
    exact absurd hsettled (by decide)

end CHeaders.Plan
