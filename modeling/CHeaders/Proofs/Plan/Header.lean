import CHeaders.Plan.Header
import CHeaders.Proofs.Operation
import CHeaders.Proofs.Plan.Form
import CHeaders.Proofs.Text.Ink
import Mathlib.Data.List.DropRight

/-!
# Texts of plans

A header is made if and only if every part of the plan passes its check and every declaration
renders. What the declarations have to do with the text of the header is said in terms of ink: their
lines stand one behind the other, between letters that depend on the other parts only.

## Main definitions

* `CHeaders.Plan.IsGuard`, `CHeaders.Plan.IsFile`: what is accepted as a guard and as a file.
* `CHeaders.Header.inkDeclaration`: the ink of a declaration with its comment.

## Main results

* `CHeaders.Plan.decides_checkGuard`, `CHeaders.Plan.decides_checkInclude`,
  `CHeaders.Plan.decides_commentText`: the checks of the parts.
* `CHeaders.Plan.renderDeclaration_eq_ok_iff`: when a declaration renders, and what its text is.
* `CHeaders.Plan.getLast?_of_renderDeclaration`: the text of a declaration ends in a semicolon.
* `CHeaders.Plan.result_renderFrom`: several declarations render one by one.
* `CHeaders.Plan.header_eq_ok_iff`: when there is a header, and what its text is.
* `CHeaders.Header.exists_ink_text`: where the declarations stand in a header.
-/

namespace CHeaders

open Value (IsText Optional)

namespace Plan

/-! ## Checks -/

/-- What one gets by going through a part. -/
theorem itemsOf_eq_ok_iff {v : Value} {vs : List Value} :
    itemsOf v = .ok vs ↔ v.items? = some vs := by
  unfold itemsOf
  cases v.items? <;> simp

/-- The value is accepted as a guard: it is missing, or it is the name of a macro. -/
def IsGuard (v : Value) : Prop :=
  v = .none ∨ ∃ t, v.text? = some t ∧ Text.isIdentifier t = true

/-- The value is accepted as a file to include: it is a text that is not blank. -/
def IsFile (v : Value) : Prop :=
  ∃ t, v.text? = some t ∧ Text.isInhabited t = true

/-- A guard that is accepted is a text or missing. -/
theorem IsGuard.optional {v : Value} (h : IsGuard v) : Optional IsText v :=
  h.imp_right fun ⟨t, ht, _⟩ => Option.isSome_iff_exists.mpr ⟨t, ht⟩

/-- A file that is accepted is a text. -/
theorem IsFile.isText {v : Value} (h : IsFile v) : IsText v := by
  obtain ⟨t, ht, -⟩ := h
  exact Option.isSome_iff_exists.mpr ⟨t, ht⟩

/-- What is no guard is refused. -/
theorem decides_checkGuard (guard : Value) :
    Decides (IsGuard guard) (guard.text? = ·)
      (· = .refusal .plan "generate_header" "an include guard macro name" guard)
      (checkGuard guard) := by
  unfold checkGuard
  split
  · exact ⟨.inl rfl, rfl⟩
  · next t hnone htext =>
    split
    · next hname => exact ⟨.inr ⟨t, htext, hname⟩, htext⟩
    · next hname =>
      refine ⟨?_, rfl⟩
      rintro (hmissing | ⟨t', ht', hname'⟩)
      · exact hnone hmissing
      · exact hname (Option.some.inj (htext.symm.trans ht') ▸ hname')
  · next hnone htext =>
    refine ⟨?_, rfl⟩
    rintro (hmissing | ⟨t', ht', -⟩)
    · exact hnone hmissing
    · exact absurd (htext.symm.trans ht') (by simp)

/-- What is no file is refused. -/
theorem decides_checkInclude (file : Value) :
    Decides (IsFile file) (file.text? = some ·)
      (· = .refusal .plan "generate_header" "a header name" file) (checkInclude file) := by
  unfold checkInclude
  split
  · next t htext =>
    split
    · next hinhabited => exact ⟨⟨t, htext, hinhabited⟩, htext⟩
    · next hblank =>
      refine ⟨?_, rfl⟩
      rintro ⟨t', ht', hinhabited⟩
      exact hblank (Option.some.inj (htext.symm.trans ht') ▸ hinhabited)
  · next htext =>
    refine ⟨?_, rfl⟩
    rintro ⟨t', ht', -⟩
    exact absurd (htext.symm.trans ht') (by simp)

/-- What stands in a comment has to be a text, also when it is marked. -/
theorem decides_commentText (v : Value) :
    Decides (IsText v.bare) (fun t => v.bare = .text t ∨ v.bare = .fragment t)
      (·.isRefusal = false) (commentText v) := by
  rw [commentText]
  cases v.bare <;> first
    | exact ⟨rfl, .inl rfl⟩
    | exact ⟨rfl, .inr rfl⟩
    | exact ⟨fun h => (by cases h), rfl⟩

/-! ## Rendering -/

/-- What is left of a text behind a semicolon that may be added is the text. -/
theorem exists_ink_terminated (t : Text) :
    ∃ back, Text.ink (terminated t) = Text.ink t ++ back := by
  unfold terminated
  split
  · exact ⟨[], (List.append_nil _).symm⟩
  · exact ⟨Text.ink ";", Text.ink_append t ";"⟩

/-- A semicolon stands at the end of a text that has been given one. -/
theorem getLast?_terminated (t : Text) :
    (terminated t).letters.getLast? = some (.char ';') := by
  unfold terminated
  split
  · next h => exact h
  · rw [Text.letters_append, List.getLast?_append]
    rfl

/-- What renders is a declaration. -/
theorem exists_of_renderDeclaration {d : Value} {text : Text}
    (h : (renderDeclaration d).result = .ok text) :
    ∃ term comment, d = .declaration term comment := by
  rw [renderDeclaration, Outcome.result_bind_eq_ok_iff] at h
  obtain ⟨parts, hparts, -⟩ := h
  rw [Outcome.result_ofExcept] at hparts
  unfold declarationParts at hparts
  split at hparts
  · exact ⟨_, _, rfl⟩
  · cases hparts

/-- The text of a declaration is made of what its term stands for. -/
theorem result_renderDeclaration (term comment : Value) :
    (renderDeclaration (.declaration term comment)).result =
      (Term.evaluate term).result >>= declarationText term := by
  rw [renderDeclaration, Outcome.result_bind]
  exact Outcome.result_bind _ _

/-- A declaration renders if and only if its term stands for a value that can be written, is no
sequence and is not blank. -/
theorem renderDeclaration_eq_ok_iff {term comment : Value} {text : Text} :
    (renderDeclaration (.declaration term comment)).result = .ok text ↔
      ∃ v, (Term.evaluate term).result = .ok v ∧ v.isWritable = true ∧ v.isSequence = false ∧
        (Text.trim v.display).isEmpty = false ∧ terminated (Text.trim v.display) = text := by
  rw [result_renderDeclaration, bind_eq_ok_iff]
  refine exists_congr fun v => and_congr_right fun _ => ?_
  rw [declarationText]
  cases hsequence : v.isSequence with
  | true => simp
  | false =>
    cases hwritable : v.isWritable with
    | false => simp [Value.written, Fault.whenShown, hwritable, bind, Except.bind]
    | true =>
      rw [Value.written_of_isWritable hwritable]
      by_cases hempty : (Text.trim v.display).isEmpty = true <;>
        simp [hempty, bind, Except.bind, pure, Except.pure, throw, throwThe, MonadExceptOf.throw]

/-- A semicolon stands at the end of the text of a declaration. -/
theorem getLast?_of_renderDeclaration {d : Value} {text : Text}
    (h : (renderDeclaration d).result = .ok text) :
    text.letters.getLast? = some (.char ';') := by
  obtain ⟨term, comment, rfl⟩ := exists_of_renderDeclaration h
  obtain ⟨v, -, -, -, -, rfl⟩ := renderDeclaration_eq_ok_iff.mp h
  exact getLast?_terminated _

/-- A record of a fault does not change the fault. -/
theorem result_renderFrom (name : Value) (i : Nat) (ds : List Value) :
    (renderFrom name i ds).result = ds.mapM fun d => (renderDeclaration d).result := by
  induction ds generalizing i with
  | nil => rfl
  | cons d ds ih =>
    have hcaught : (tryCatch (renderDeclaration d) fun f => do
        if f.isRefusal then
          Outcome.note (.record ⟨"plan", 40,
            "plan " ++ name.literal ++ ": declaration " ++ Decimal.ofNat i ++ " failed"⟩)
        throw f).result = (renderDeclaration d).result := by
      rcases hresult : (renderDeclaration d).result with f | text
      · simp only [tryCatch, tryCatchThe, MonadExceptOf.tryCatch, hresult]
        cases f.isRefusal <;> rfl
      · simp only [tryCatch, tryCatchThe, MonadExceptOf.tryCatch, hresult]
    rw [renderFrom, Outcome.result_bind, hcaught, List.mapM_cons]
    rcases (renderDeclaration d).result with f | text
    · rfl
    · change (renderFrom name (i + 1) ds >>= fun texts => pure (text :: texts)).result = _
      rw [Outcome.result_bind, ih]
      rfl

/-- The declarations of a plan render one by one. -/
theorem result_renderDeclarations {p : Plan} {ds : List Value}
    (hds : itemsOf p.declarations = .ok ds) :
    (renderDeclarations p).result = ds.mapM fun d => (renderDeclaration d).result := by
  rw [← result_renderFrom p.name 0, renderDeclarations, Outcome.result_bind,
    Outcome.result_ofExcept, hds]
  change (renderFrom p.name 0 ds >>= _).result = _
  rw [Outcome.result_bind]
  rcases (renderFrom p.name 0 ds).result with f | ts <;> rfl

/-- The declarations of a plan render if and only if each of them does. -/
theorem renderDeclarations_eq_ok_iff {p : Plan} {ds : List Value} {texts : List Text}
    (hds : itemsOf p.declarations = .ok ds) :
    (renderDeclarations p).result = .ok texts ↔
      List.Forall₂ (fun d t => (renderDeclaration d).result = .ok t) ds texts := by
  rw [result_renderDeclarations hds, mapM_eq_ok_iff]

/-- There is a header if and only if every part of the plan passes its check and every declaration
renders. -/
theorem header_eq_ok_iff {p : Plan} {text : Text} :
    p.header.result = .ok text ↔
      ∃ guard files includes ds texts name comments,
        checkGuard p.guard = .ok guard ∧ itemsOf p.includes = .ok files ∧
        files.mapM checkInclude = .ok includes ∧ itemsOf p.declarations = .ok ds ∧
        List.Forall₂ (fun d t => (renderDeclaration d).result = .ok t) ds texts ∧
        commentText p.name = .ok name ∧ ds.mapM commentOf = .ok comments ∧
        Header.text ⟨name, guard, includes, comments.zip texts⟩ = text := by
  simp only [header, toHeader, Outcome.result_bind_eq_ok_iff, Outcome.result_ofExcept,
    Outcome.result_pure]
  constructor
  · rintro ⟨h, ⟨guard, hguard, files, hfiles, includes, hincludes, texts, htexts, name, hname, ds,
      hds, comments, hcomments, hh⟩, htext⟩
    obtain rfl := Except.ok.inj hh
    exact ⟨guard, files, includes, ds, texts, name, comments, hguard, hfiles, hincludes, hds,
      (renderDeclarations_eq_ok_iff hds).mp htexts, hname, hcomments, Except.ok.inj htext⟩
  · rintro ⟨guard, files, includes, ds, texts, name, comments, hguard, hfiles, hincludes, hds,
      htexts, hname, hcomments, htext⟩
    exact ⟨_, ⟨guard, hguard, files, hfiles, includes, hincludes, texts,
      (renderDeclarations_eq_ok_iff hds).mpr htexts, name, hname, ds, hds, comments, hcomments,
      rfl⟩, congrArg Except.ok htext⟩

end Plan

/-! ## The ink of headers -/

namespace Header

/-- The ink of a declaration with its comment. -/
def inkDeclaration (declaration : Option Text × Text) : List Letter :=
  (declarationLines declaration).flatMap Text.ink

/-- The empty lines at the end hold no ink. -/
theorem flatMap_ink_dropEmptyEnd (lines : List Text) :
    (dropEmptyEnd lines).flatMap Text.ink = lines.flatMap Text.ink := by
  change (lines.rdropWhile Text.isEmpty).flatMap Text.ink = _
  induction lines using List.reverseRecOn with
  | nil => rfl
  | append_singleton lines line ih =>
    by_cases hempty : line.isEmpty = true
    · rw [List.rdropWhile_concat_pos _ _ _ hempty, ih, List.flatMap_append, List.flatMap_singleton,
        Text.ink_of_isEmpty hempty, List.append_nil]
    · rw [List.rdropWhile_concat_neg _ _ _ hempty]

/-- Declarations with the same comment are apart if their texts are. -/
theorem apart_inkDeclaration (comment : Option Text) {t u : Text}
    (h : Apart (Text.ink t) (Text.ink u)) :
    Apart (inkDeclaration (comment, t)) (inkDeclaration (comment, u)) := by
  rcases comment with _ | comment
  · exact h.append _ _
  · exact (h.append _ _).append_left _

/-- Between the guards the declarations stand behind the included files. -/
theorem exists_ink_bodyLines (includes : List Text) :
    ∃ front, ∀ name guard ds, (bodyLines ⟨name, guard, includes, ds⟩).flatMap Text.ink =
      front ++ ds.flatMap inkDeclaration := by
  refine ⟨List.flatMap Text.ink
    (if includes.isEmpty then [] else includes.map includeLine ++ [("" : Text)]),
    fun name guard ds => ?_⟩
  rw [bodyLines, List.flatMap_append, List.flatMap_assoc]
  rfl

/-- In a header the declarations stand one behind the other, between letters that depend on the
other parts only. -/
theorem exists_ink_text (name : Text) (guard : Option Text) (includes : List Text) :
    ∃ front back, ∀ ds, Text.ink (text ⟨name, guard, includes, ds⟩) =
      front ++ ds.flatMap inkDeclaration ++ back := by
  have htext : ∀ h : Header, Text.ink h.text = h.lines.flatMap Text.ink := by
    intro h
    rw [text, Text.ink_append, Text.ink_join (by decide)]
    exact List.append_nil _
  obtain ⟨front, hfront⟩ := exists_ink_bodyLines includes
  rcases guard with _ | guard
  · refine ⟨Text.ink (commentLine ("generated by cdeclgen: " ++ name)) ++ front, [], fun ds => ?_⟩
    rw [htext, lines, flatMap_ink_dropEmptyEnd, List.flatMap_cons, List.flatMap_cons, hfront,
      List.append_nil, List.append_assoc]
    rfl
  · refine ⟨Text.ink (commentLine ("generated by cdeclgen: " ++ name)) ++
      (Text.ink ("#ifndef " ++ guard) ++ (Text.ink ("#define " ++ guard) ++ front)),
      Text.ink ("#endif /* " ++ guard ++ " */"), fun ds => ?_⟩
    rw [htext, lines, List.flatMap_cons, List.flatMap_cons, List.flatMap_cons, List.flatMap_cons,
      List.flatMap_append, hfront, List.flatMap_singleton]
    simp only [List.append_assoc]
    rfl

end Header

end CHeaders
