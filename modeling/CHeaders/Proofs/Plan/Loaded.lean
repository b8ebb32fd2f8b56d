import CHeaders.Proofs.Plan.Header
import CHeaders.Proofs.Plan.Schema
import CHeaders.Proofs.Term.Evaluation

/-!
# Headers of plans that were read

A plan that was read from a document whose numbers can be written has a header, or it is refused:
because of an operation, of a declaration, of the guard or of a file. There is one exception. The
comments of a document are not checked when it is read. A comment that counts as one and is no text
goes wrong when it is written, and it is written last: the other parts of the plan have to be right.

## Main definitions

* `CHeaders.Plan.HasStrayComment`: whether a plan has a comment that counts as one and is no text.
* `CHeaders.Plan.uncommented`: a plan without its comments.
* `CHeaders.Plan.checkedParts`: what a header is made of but for the name and the comments.

## Main results

* `CHeaders.Plan.result_header`: a header is made of its checked parts and the comments.
* `CHeaders.Plan.header_fails_iff`: when the header of a plan that was read neither is made nor
  refused.
-/

namespace CHeaders

open Value (IsText)

namespace Plan

/-! ## The checked parts -/

/-- The kinds of the refusals of headers. -/
def refusalKinds : List Refusal := [.arity, .typeMismatch, .malformedSequence, .plan]

/-- A declaration with a plain term that can be written renders or is refused. -/
theorem judged_renderDeclaration {term : Value} (hterm : Term.IsPlain term)
    (hwritable : term.isWritable = true) (comment : Value) :
    Judged (fun _ => True) (·.IsRefusalOf refusalKinds)
      (renderDeclaration (.declaration term comment)).result := by
  rw [result_renderDeclaration]
  refine (hterm.judged_evaluate hwritable).bind (fun f hf => hf.mono (by decide)) fun v hv => ?_
  have hrefused (expected : String) : Fault.IsRefusalOf refusalKinds
      (.refusal .plan "render_declaration" expected term) :=
    Fault.isRefusalOf_refusal (by decide) _ expected hwritable
  rw [declarationText]
  split
  · exact hrefused _
  · rw [Value.written_of_isWritable hv.2]
    change Judged _ _ (if _ then _ else _)
    split
    · exact hrefused _
    · trivial

/-- What a header is made of but for the name and the comments: the guard, the included files and
the texts of the declarations. -/
def checkedParts (guard : Value) (files ds : List Value) :
    Except Fault (Option Text × List Text × List Text) := do
  let guard ← checkGuard guard
  let includes ← files.mapM checkInclude
  let texts ← ds.mapM fun d => (renderDeclaration d).result
  return (guard, includes, texts)

/-- The header of a plan is made of its checked parts and then of the comments. -/
theorem result_header (name : Text) (guard : Value) (files ds : List Value) :
    (header ⟨.text name, .list ds, guard, .list files⟩).result =
      checkedParts guard files ds >>= fun (guard, includes, texts) =>
        (ds.mapM commentOf).map fun comments =>
          Header.text ⟨name, guard, includes, comments.zip texts⟩ := by
  have hitems (vs : List Value) : itemsOf (.list vs) = .ok vs := rfl
  have hname : commentText (.text name) = .ok name := rfl
  simp only [header, toHeader, Outcome.result_bind, Outcome.result_ofExcept, Outcome.result_pure,
    result_renderDeclarations (p := ⟨.text name, .list ds, guard, .list files⟩) (hitems ds),
    checkedParts, hitems, hname, Except.bind]
  rcases checkGuard guard with f | g
  · rfl
  rcases files.mapM checkInclude with f | includes
  · rfl
  rcases ds.mapM fun d => (renderDeclaration d).result with f | texts
  · rfl
  rcases ds.mapM commentOf with f | comments <;> rfl

/-- What a check does not accept is refused, if it can be written. -/
theorem judged_check {α : Type} {A : Prop} {P : α → Prop} {operation expected : String} {v : Value}
    {x : Except Fault α} (h : Decides A P (· = .refusal .plan operation expected v) x)
    (hv : v.isWritable = true) :
    Judged (fun _ => True) (·.IsRefusalOf refusalKinds) x := by
  cases x with
  | ok a => trivial
  | error f =>
    obtain ⟨-, rfl⟩ := h
    exact Fault.isRefusalOf_refusal (by decide) operation expected hv

/-- The checked parts of a plan whose terms are plain are refused if they are not right, provided
that the parts can be written. -/
theorem judged_checkedParts {guard : Value} {files ds : List Value}
    (hguard : guard.isWritable = true) (hfiles : ∀ file ∈ files, file.isWritable = true)
    (hds : ∀ d ∈ ds, ∃ term comment, d = .declaration term comment ∧ Term.IsPlain term ∧
      term.isWritable = true) :
    Judged (fun _ => True) (·.IsRefusalOf refusalKinds) (checkedParts guard files ds) := by
  have hrender : ∀ d ∈ ds, Judged (fun _ => True) (·.IsRefusalOf refusalKinds)
      (renderDeclaration d).result := by
    intro d hd
    obtain ⟨term, comment, rfl, hterm, hwritable⟩ := hds d hd
    exact judged_renderDeclaration hterm hwritable comment
  have hincludes : ∀ file ∈ files, Judged (fun _ => True) (·.IsRefusalOf refusalKinds)
      (checkInclude file) :=
    fun file hfile => judged_check (decides_checkInclude file) (hfiles file hfile)
  refine (judged_check (decides_checkGuard guard) hguard).bind (fun _ hf => hf) fun _ _ => ?_
  refine (Judged.mapM hincludes).bind (fun _ hf => hf) fun _ _ => ?_
  exact (Judged.mapM hrender).bind (fun _ hf => hf) fun texts _ => trivial

/-! ## Comments -/

/-- A declaration without its comment. -/
def uncommentedDeclaration : Value → Value
  | .declaration term _ => .declaration term .none
  | v => v

/-- A plan without its comments. -/
def uncommented (p : Plan) : Plan :=
  match p.declarations with
  | .list ds => { p with declarations := .list (ds.map uncommentedDeclaration) }
  | _ => p

/-- The checked parts do not depend on the comments. -/
theorem checkedParts_uncommented (guard : Value) (files ds : List Value) :
    checkedParts guard files (ds.map uncommentedDeclaration) = checkedParts guard files ds := by
  have hrender (d : Value) : (renderDeclaration (uncommentedDeclaration d)).result =
      (renderDeclaration d).result := by
    cases d with
    | declaration term comment =>
      rw [uncommentedDeclaration, result_renderDeclaration, result_renderDeclaration]
    | _ => rfl
  simp only [checkedParts, List.mapM_map, Function.comp_def, hrender]

/-- The comments of declarations have to be texts, if they count as comments. -/
theorem decides_mapM_commentOf {isComment : Value → Prop} {ds : List Value}
    (hds : ∀ d ∈ ds, IsDeclaration isComment d) :
    Decides (∀ d ∈ ds, ∀ term comment, d = .declaration term comment →
        comment.isTrue = true → IsText comment.bare)
      (fun _ => True) (·.isRefusal = false) (ds.mapM commentOf) := by
  refine Decides.imp (P := fun ys => ∀ y ∈ ys, True) (Decides.mapM fun d hd => ?_) Iff.rfl
    fun _ _ => trivial
  obtain @⟨term, comment, -, -⟩ := hds d hd
  change Decides _ _ _ (if comment.isTrue then
    commentText comment >>= fun t => Except.ok (some t) else .ok none)
  split
  · rename_i htrue
    refine ((decides_commentText comment).map fun t _ _ => trivial).imp ?_ fun _ h => h
    simp [htrue]
  · rename_i hfalse
    exact ⟨by simp [hfalse], trivial⟩

/-- The plan has a comment that counts as one and is no text. -/
def HasStrayComment (p : Plan) : Prop :=
  ∃ ds, p.declarations = .list ds ∧ ∃ term comment, .declaration term comment ∈ ds ∧
    comment.isTrue = true ∧ ¬IsText comment.bare

/-- A plan has no stray comment if all comments that count as such are texts. -/
theorem hasStrayComment_iff {name guard includes : Value} {ds : List Value} :
    HasStrayComment ⟨name, .list ds, guard, includes⟩ ↔
      ¬∀ d ∈ ds, ∀ term comment, d = .declaration term comment →
        comment.isTrue = true → IsText comment.bare := by
  constructor
  · rintro ⟨ds', hds', term, comment, hmem, htrue, hnot⟩ hall
    obtain rfl := Value.list.inj hds'
    exact hnot (hall _ hmem term comment rfl htrue)
  · intro hnot
    push Not at hnot
    obtain ⟨d, hd, term, comment, rfl, htrue, hnot⟩ := hnot
    exact ⟨ds, rfl, term, comment, hd, htrue, hnot⟩

/-- A plan without its comments has a header if its checked parts are right. -/
theorem exists_header_uncommented_iff {isComment : Value → Prop} {name : Text} {guard : Value}
    {files ds : List Value} (hds : ∀ d ∈ ds, IsDeclaration isComment d) :
    (∃ text, (uncommented ⟨.text name, .list ds, guard, .list files⟩).header.result = .ok text) ↔
      ∃ parts, checkedParts guard files ds = .ok parts := by
  have hplain : ∀ d ∈ ds.map uncommentedDeclaration, IsDeclaration (· = .none) d := by
    refine List.forall_mem_map.mpr fun d hd => ?_
    obtain @⟨term, comment, hterm, -⟩ := hds d hd
    exact ⟨hterm, rfl⟩
  obtain ⟨comments, hcomments⟩ := (decides_mapM_commentOf hplain).exists_ok_iff.mpr <| by
    rintro d hd term comment rfl htrue
    obtain ⟨-, rfl⟩ := hplain _ hd
    cases htrue
  rw [uncommented, result_header, checkedParts_uncommented, hcomments]
  cases checkedParts guard files ds with
  | error f => simp [bind, Except.bind]
  | ok parts => exact ⟨fun _ => ⟨parts, rfl⟩, fun _ => ⟨_, rfl⟩⟩

/-- When the header of a plan that was read from a document whose numbers can be written is neither
made nor refused: if and only if the plan has a comment that counts as one and is no text, and would
have a header without its comments.

**Proof sketch.** The terms of the plan are plain and can be written, so its checked parts are made
or refused. Only then the comments are looked at, and what goes wrong with them is no refusal. -/
theorem header_fails_iff {d : Value} {p : Plan} (hcut : d.isCut = false)
    (hwritable : d.isWritable = true) (h : ofDocument d = .ok p) :
    (∃ f, p.header.result = .error f ∧
        ¬f.IsRefusalOf [.arity, .typeMismatch, .malformedSequence, .plan]) ↔
      p.HasStrayComment ∧ ∃ text, p.uncommented.header.result = .ok text := by
  obtain ⟨htyped, hterms, hreread⟩ := holdsPartsOf_of_ofDocument hcut h
  obtain @⟨name, guard, files, ds, -, hguard, hfiles, hds⟩ := htyped
  obtain ⟨text, rfl⟩ : ∃ text, name = .text text := ⟨_, (Plan.mk.inj hreread).1.symm⟩
  have hparts := judged_checkedParts hguard.isWritable
    (fun file hfile => Value.isWritable_of_text (hfiles file hfile)) fun d hd => by
    obtain @⟨term, comment, -, -⟩ := hds d hd
    obtain ⟨hplain, hshown⟩ := hterms ds rfl term comment hd
    exact ⟨term, comment, rfl, hplain, hshown hwritable⟩
  have hcomments := decides_mapM_commentOf hds
  rw [exists_header_uncommented_iff hds, hasStrayComment_iff, result_header]
  cases hchecked : checkedParts guard files ds with
  | error f =>
    rw [hchecked] at hparts
    constructor
    · rintro ⟨f', hf', hnot⟩
      obtain rfl := Except.error.inj hf'
      exact absurd hparts hnot
    · rintro ⟨-, parts, hok⟩
      cases hok
  | ok parts =>
    cases hwalk : ds.mapM commentOf with
    | error f =>
      rw [hwalk] at hcomments
      refine ⟨fun _ => ⟨hcomments.1, parts, rfl⟩, fun _ => ⟨f, rfl, ?_⟩⟩
      rintro ⟨kind, -, operation, expected, given, rfl⟩
      cases hcomments.2
    | ok comments =>
      rw [hwalk] at hcomments
      constructor
      · rintro ⟨f, hf, -⟩
        cases hf
      · rintro ⟨hnot, -⟩
        exact absurd hcomments.1 hnot

/-- A document with a number in place of a comment. -/
def numberComment : Value :=
  .record [("name", .text "x"),
    ("declarations", .list [.record [("term", .text "int x"), ("comment", .int 5)]])]

/-- The document with a number in place of a comment is read, and the header of the plan is neither
made nor refused. -/
theorem header_fails_numberComment : ∃ p, ofDocument numberComment = .ok p ∧
    ∃ f, p.header.result = .error f ∧
      ¬f.IsRefusalOf [.arity, .typeMismatch, .malformedSequence, .plan] := by
  have hread : ofDocument numberComment =
      .ok ⟨.text "x", .list [.declaration (.text "int x") (.int 5)], .none, .list []⟩ := rfl
  refine ⟨_, hread, (header_fails_iff rfl (by decide +kernel) hread).mpr ⟨?_, _, rfl⟩⟩
  exact ⟨_, rfl, .text "int x", .int 5, List.mem_singleton_self _, rfl, fun h => by cases h⟩

end Plan

end CHeaders
