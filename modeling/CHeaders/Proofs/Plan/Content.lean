import CHeaders.Proofs.Fragment
import CHeaders.Proofs.Plan.Layout

/-!
# Plans with the same header

The content of a plan is what its header is meant to say: its name, its guard, the lines that
include files, and the declarations with their comments, as they are written. It is read off from
the parts of the plan. If no text brings a line feed with it and no included file ends in a
semicolon, then two plans have the same header if and only if they have the same content. So nothing
is lost in a header, and nothing comes twice, in another order or at another declaration.

## Main definitions

* `CHeaders.Plan.content?`: the content of a plan.
* `CHeaders.Plan.IsSingleLined`: the plans whose content is found again in their headers.

## Main results

* `CHeaders.Plan.exists_content`: a header is the layout of the content of its plan.
* `CHeaders.Plan.header_eq_iff`: plans have the same header if and only if they have the same
  content.
-/

namespace CHeaders

open Value (IsText Optional)

/-! ## Texts in a layout -/

namespace Header

/-- There are no line feeds in a comment. -/
theorem isLine_escape (t : Text) : (escape t).IsLine := by
  rcases t with ⟨ls⟩
  change .char '\n' ∉ escapeLetters ls
  fun_induction escapeLetters ls with
  | case1 => simp
  | case2 rest ih => simpa using ih
  | case3 rest ih => simpa using ih
  | case4 l rest hend hfeed ih =>
    rw [List.mem_cons, not_or]
    exact ⟨fun h => hfeed h.symm, ih⟩

/-- A line that includes a file has no line feed, is not empty and does not end in a semicolon, if
the file has no line feed and does not end in a semicolon. -/
theorem includeLine_spec {file : Text} (hline : file.IsLine)
    (hlast : file.letters.getLast? ≠ some (.char ';')) :
    (includeLine file).IsLine ∧ (includeLine file).isEmpty = false ∧
      (includeLine file).letters.getLast? ≠ some (.char ';') := by
  have hmark : Text.IsLine "#include " := by decide
  have hopen : Text.IsLine "#include <" := by decide
  have hclose : Text.IsLine ">" := by decide
  have hbare : ("#include " ++ file : Text).letters.getLast? ≠ some (.char ';') := by
    rw [Text.letters_append, List.getLast?_append]
    intro h
    rcases Option.or_eq_some_iff.mp h with h | ⟨-, h⟩
    · exact hlast h
    · exact absurd h (by decide)
  unfold includeLine
  split
  · exact ⟨hmark.append hline, rfl, hbare⟩
  · exact ⟨hmark.append hline, rfl, hbare⟩
  · refine ⟨(hopen.append hline).append hclose, rfl, ?_⟩
    have hbracket : (">" : Text).letters.getLast? = some (.char '>') := rfl
    rw [Text.letters_append, List.getLast?_append, hbracket, Option.some_or]
    decide

end Header

namespace Plan

/-! ## The content of a plan -/

/-- The comment of a declaration as it is written, unless it is missing or empty. -/
def noteOf (comment : Value) : Option Text :=
  (comment.text?.filter fun t => !t.isEmpty).map Header.escape

/-- What a declaration says: its comment and its text. -/
def said? : Value → Option (Option Text × Text)
  | .declaration term comment =>
    (renderDeclaration (.declaration term comment)).result.toOption.map fun text =>
      (noteOf comment, text)
  | _ => none

/-- What a plan says, if its parts are what they have to be. -/
def content? (p : Plan) : Option Content := do
  let name ← p.name.text?
  let files ← p.includes.items?
  let includes ← files.mapM Value.text?
  let ds ← p.declarations.items?
  let declarations ← ds.mapM said?
  return ⟨Header.escape name, p.guard.text?, includes.map Header.includeLine, declarations⟩

/-- The name is a text, the comments are texts or missing, and neither the guard, nor the included
files, nor the texts of the declarations bring a line feed with them. No included file ends in a
semicolon. -/
structure IsSingleLined (p : Plan) : Prop where
  name : IsText p.name
  comments : ∀ ds, p.declarations.items? = some ds →
    ∀ term comment, .declaration term comment ∈ ds → Optional IsText comment
  guard : ∀ t, p.guard.text? = some t → t.IsLine
  includes : ∀ files, p.includes.items? = some files → ∀ file ∈ files, ∀ t, file.text? = some t →
    t.IsLine ∧ t.letters.getLast? ≠ some (.char ';')
  texts : ∀ ds, p.declarations.items? = some ds → ∀ d ∈ ds, ∀ text,
    (renderDeclaration d).result = .ok text → text.IsLine

/-! ## The parts of a plan that has a header -/

/-- A guard that passed the check is a text or missing. -/
theorem text?_of_checkGuard {v : Value} {guard : Option Text} (h : checkGuard v = .ok guard) :
    v.text? = guard :=
  (Judged.of_eq_ok (decides_checkGuard v) h).2

/-- A file that passed the check is a text. -/
theorem text?_of_checkInclude {v : Value} {file : Text} (h : checkInclude v = .ok file) :
    v.text? = some file :=
  (Judged.of_eq_ok (decides_checkInclude v) h).2

/-- A text in a comment is the text that stands there. -/
theorem text?_of_commentText {v : Value} {t : Text} (hv : IsText v) (h : commentText v = .ok t) :
    v.text? = some t := by
  obtain ⟨s, rfl | rfl⟩ := Value.isText_iff.mp hv <;> exact congrArg some (Except.ok.inj h)

/-- The comment of a declaration is left out if it is missing or empty. -/
theorem noteOf_of_commentOf {term comment : Value} {note : Option Text}
    (hcomment : Optional IsText comment) (h : commentOf (.declaration term comment) = .ok note) :
    noteOf comment = note.map Header.escape := by
  change (if comment.isTrue then (commentText comment).map some else pure none) = _ at h
  unfold noteOf
  obtain rfl | htext := hcomment
  · obtain rfl := Except.ok.inj h
    rfl
  · obtain ⟨t, ht⟩ := Option.isSome_iff_exists.mp htext
    have htrue : comment.isTrue = !t.isEmpty := Fragment.isTrue_of_text? ht
    rw [ht]
    split at h
    · next hkept =>
      obtain ⟨s, hs, rfl⟩ := map_eq_ok_iff.mp h
      obtain rfl := Option.some.inj (ht.symm.trans (text?_of_commentText htext hs))
      rw [Option.filter_some_pos (by rw [← htrue, hkept])]
    · next hdropped =>
      obtain rfl := Except.ok.inj h
      rw [Bool.not_eq_true] at hdropped
      rw [Option.filter_some_neg (by rw [← htrue, hdropped])]

/-- A declaration that renders and has a comment of the right kind says what stands in the
header. -/
theorem said?_eq {d : Value} {text : Text} {note : Option Text}
    (hcomment : ∀ term comment, d = .declaration term comment → Optional IsText comment)
    (htext : (renderDeclaration d).result = .ok text) (hnote : commentOf d = .ok note) :
    said? d = some (note.map Header.escape, text) := by
  obtain ⟨term, comment, rfl⟩ := exists_of_renderDeclaration htext
  rw [said?, htext, noteOf_of_commentOf (hcomment term comment rfl) hnote]
  rfl

/-- Declarations say what stands in the header, one by one. -/
theorem mapM_said? {ds : List Value} {texts : List Text} {notes : List (Option Text)}
    (hcomments : ∀ term comment, .declaration term comment ∈ ds → Optional IsText comment)
    (htexts : List.Forall₂ (fun d t => (renderDeclaration d).result = .ok t) ds texts)
    (hnotes : List.Forall₂ (fun d note => commentOf d = .ok note) ds notes) :
    ds.mapM said? = some ((notes.zip texts).map fun d => (d.1.map Header.escape, d.2)) := by
  induction htexts generalizing notes with
  | nil =>
    cases hnotes
    rfl
  | @cons d text ds texts htext _ ih =>
    rcases hnotes with _ | ⟨hnote, hnotes⟩
    have hd := said?_eq (fun term comment h => hcomments term comment (by simp [h])) htext hnote
    have hds := ih (fun term comment h => hcomments term comment (List.mem_cons_of_mem d h)) hnotes
    rw [List.mapM_cons, hd, hds]
    rfl

/-- Files are the texts that they were checked to be. -/
theorem mapM_text? {files : List Value} {includes : List Text}
    (h : List.Forall₂ (fun file t => checkInclude file = .ok t) files includes) :
    files.mapM Value.text? = some includes := by
  induction h with
  | nil => rfl
  | cons hfile _ ih =>
    rw [List.mapM_cons, text?_of_checkInclude hfile, ih]
    rfl

/-- A header is the layout of the content of its plan.

**Proof sketch.** What passes its check is what it has to be, so the content is there. The lines are
free of line feeds by assumption, or because they are escaped; and a rendered declaration ends in a
semicolon. -/
theorem exists_content {p : Plan} {text : Text} (hp : p.IsSingleLined)
    (htext : p.header.result = .ok text) :
    ∃ c, p.content? = some c ∧ c.IsLaidOut ∧ c.text = text := by
  obtain ⟨guard, files, includes, ds, texts, name, notes, hguard, hfiles, hincludes, hds, htexts,
    hname, hnotes, rfl⟩ := header_eq_ok_iff.mp htext
  have hguard := text?_of_checkGuard hguard
  have hname := text?_of_commentText hp.name hname
  have hfiles := itemsOf_eq_ok_iff.mp hfiles
  have hds := itemsOf_eq_ok_iff.mp hds
  have hcontent : p.content? = some (Header.content ⟨name, guard, includes, notes.zip texts⟩) := by
    rw [content?, hname, hfiles, hds, hguard]
    simp only [Option.bind_eq_bind, Option.bind_some]
    rw [mapM_text? ((mapM_eq_ok_iff _ _ _).mp hincludes),
      mapM_said? (hp.comments ds hds) htexts ((mapM_eq_ok_iff _ _ _).mp hnotes)]
    rfl
  have hlaid : (Header.content ⟨name, guard, includes, notes.zip texts⟩).IsLaidOut := by
    refine ⟨Header.isLine_escape name, fun g hg => hp.guard g (hguard.trans hg),
      List.forall_mem_map.mpr fun file hfile => ?_, List.forall_mem_map.mpr fun d _ comment h => ?_,
      List.forall_mem_map.mpr fun d hd => ?_⟩
    · obtain ⟨v, hv, hcheck⟩ := exists_mem_of_mapM hincludes file hfile
      obtain ⟨hline, hlast⟩ := hp.includes files hfiles v hv file (text?_of_checkInclude hcheck)
      exact Header.includeLine_spec hline hlast
    · obtain ⟨note, -, rfl⟩ := Option.map_eq_some_iff.mp h
      exact Header.isLine_escape note
    · have hmem : d.2 ∈ texts := (List.of_mem_zip hd).2
      obtain ⟨v, hv, htext⟩ := exists_mem_of_mapM ((mapM_eq_ok_iff _ _ _).mpr htexts) d.2 hmem
      exact ⟨hp.texts ds hds v hv d.2 htext, getLast?_of_renderDeclaration htext⟩
  exact ⟨_, hcontent, hlaid, (Header.text_eq hlaid).symm⟩

/-- If no text brings a line feed with it and no included file ends in a semicolon, then two plans
that have headers have the same header if and only if they have the same content: the same name,
guard and included files, and the same declarations with the same comments in the same order. -/
theorem header_eq_iff {p q : Plan} {s t : Text} (hp : p.IsSingleLined) (hq : q.IsSingleLined)
    (hs : p.header.result = .ok s) (ht : q.header.result = .ok t) :
    ∃ c d, p.content? = some c ∧ q.content? = some d ∧ (s = t ↔ c = d) := by
  obtain ⟨c, hc, hclaid, rfl⟩ := exists_content hp hs
  obtain ⟨d, hd, hdlaid, rfl⟩ := exists_content hq ht
  exact ⟨c, d, hc, hd, hclaid.text_inj hdlaid, congrArg Content.text⟩

/-- A plan of one variable with a comment, behind one included file. -/
def noted (comment file : String) : Plan :=
  ⟨.text "x", .list [.declaration (.text "int a") (.text comment)], .text "X_H",
    .list [.text file]⟩

/-- The header of the plan with a comment of two lines. -/
def notedHeader : String :=
  "/* generated by cdeclgen: x */\n#ifndef X_H\n#define X_H\n\n#include <a.h>\n\n" ++
    "/* one two */\nint a;\n\n#endif /* X_H */\n"

/-- A plan of one variable is single lined if its included file is. -/
theorem isSingleLined_noted {comment file : String} (hline : (Text.ofString file).IsLine)
    (hlast : (Text.ofString file).letters.getLast? ≠ some (.char ';')) :
    (noted comment file).IsSingleLined := by
  refine ⟨rfl, ?_, ?_, ?_, ?_⟩
  · rintro _ ⟨⟩ term note h
    obtain ⟨-, rfl⟩ := Value.declaration.inj (List.mem_singleton.mp h)
    exact .inr rfl
  · rintro _ ⟨⟩
    decide
  · rintro _ ⟨⟩ v h t ht
    rw [List.mem_singleton.mp h] at ht
    obtain rfl := Option.some.inj ht
    exact ⟨hline, hlast⟩
  · rintro _ ⟨⟩ d h text htext
    rw [List.mem_singleton.mp h] at htext
    have hrender : (renderDeclaration (.declaration (.text "int a") (.text comment))).result =
        .ok "int a;" := rfl
    obtain rfl := Except.ok.inj (hrender.symm.trans htext)
    decide

/-- Two plans that differ in their parts and have the same header have the same content. -/
theorem header_eq_iff_noted :
    (noted "one\ntwo" "a.h").IsSingleLined ∧ (noted "one two" "<a.h>").IsSingleLined ∧
      (noted "one\ntwo" "a.h").header.result = .ok notedHeader ∧
      (noted "one two" "<a.h>").header.result = .ok notedHeader ∧
      (noted "one\ntwo" "a.h").content? = (noted "one two" "<a.h>").content? := by
  have hp : (noted "one\ntwo" "a.h").IsSingleLined := isSingleLined_noted (by decide) (by decide)
  have hq : (noted "one two" "<a.h>").IsSingleLined := isSingleLined_noted (by decide) (by decide)
  have hs : (noted "one\ntwo" "a.h").header.result = .ok notedHeader :=
    eq_ok_of_toOption (by decide +kernel)
  have ht : (noted "one two" "<a.h>").header.result = .ok notedHeader :=
    eq_ok_of_toOption (by decide +kernel)
  obtain ⟨c, d, hc, hd, hiff⟩ := header_eq_iff hp hq hs ht
  exact ⟨hp, hq, hs, ht, by rw [hc, hd, hiff.mp rfl]⟩

end Plan

end CHeaders
