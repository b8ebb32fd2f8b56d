import CHeaders.Proofs.Plan.Header
import CHeaders.Proofs.Text.Lines

/-!
# The layout of headers

A header consists of paragraphs with an empty line between them. The first one is the banner, with
the opening of the guard below it; then there are the included files, if any, and the declarations,
each with its comment above it; and the last one is the end of the guard. The texts in a header come
from outside and may look like other parts of it. All the same the layout can be read back, if no
text brings a line feed with it: a declaration ends in a semicolon and a line that includes a file
does not, and within a paragraph the number of the lines tells whether there is a comment.

## Main definitions

* `CHeaders.Content`: what a header says, as it is written.
* `CHeaders.Content.paragraphs`, `CHeaders.Content.lines`, `CHeaders.Content.text`: the layout of
  a header.
* `CHeaders.Content.IsLaidOut`: what may be read back.
* `CHeaders.Header.content`: the content of a header.

## Main results

* `CHeaders.Header.text_eq`: a header is the layout of its content.
* `CHeaders.Content.IsLaidOut.paragraphs_inj`: the content is read back from the paragraphs.
* `CHeaders.Content.IsLaidOut.text_inj`: the content is read back from the text.
-/

namespace CHeaders

/-- What a header says, as it is written: the name and the comments are escaped, and each included
file is a line. -/
structure Content where
  name : Text
  guard : Option Text
  includes : List Text
  declarations : List (Option Text × Text)
  deriving DecidableEq, Repr

namespace Content

/-- The lines of a declaration with its comment. -/
def paragraph : Option Text × Text → List Text
  | (none, text) => [text]
  | (some comment, text) => ["/* " ++ comment ++ " */", text]

/-- The lines that open the guard. -/
def opening : Option Text → List Text
  | none => []
  | some guard => ["#ifndef " ++ guard, "#define " ++ guard]

/-- The paragraph that closes the guard, if there is one. -/
def closing : Option Text → List (List Text)
  | none => []
  | some guard => [["#endif /* " ++ guard ++ " */"]]

/-- The line with the name, and the lines that open the guard. -/
def banner (c : Content) : List Text :=
  ("/* generated by cdeclgen: " ++ c.name ++ " */") :: opening c.guard

/-- The paragraphs between the guards. -/
def body (c : Content) : List (List Text) :=
  (if c.includes.isEmpty then [] else [c.includes]) ++ c.declarations.map paragraph

/-- The paragraphs of a header. -/
def paragraphs (c : Content) : List (List Text) :=
  c.banner :: (c.body ++ closing c.guard)

/-- The lines of a header, with an empty line between paragraphs. -/
def lines (c : Content) : List Text :=
  [("" : Text)].intercalate c.paragraphs

/-- The text of a header. -/
def text (c : Content) : Text :=
  Text.join "\n" c.lines ++ "\n"

end Content

/-! ## Headers as layouts -/

namespace Header

open Content (paragraph)

/-- The content of a header. -/
def content (h : Header) : Content :=
  ⟨escape h.name, h.guard, h.includes.map includeLine,
    h.declarations.map fun d => (d.1.map escape, d.2)⟩

/-- The lines between the guards are the paragraphs between the guards, each with an empty line
behind it. -/
theorem bodyLines_eq (h : Header) : h.bodyLines = h.content.body.flatMap (· ++ [("" : Text)]) := by
  have hdeclarations : h.declarations.flatMap declarationLines =
      (h.content.declarations.map paragraph).flatMap (· ++ [("" : Text)]) := by
    rw [content, List.map_map, List.flatMap_map]
    refine List.flatMap_congr fun d _ => ?_
    rcases d with ⟨_ | comment, text⟩ <;> rfl
  rw [bodyLines, Content.body, List.flatMap_append, hdeclarations]
  rcases hincludes : h.includes with _ | ⟨file, files⟩
  · simp [content, hincludes]
  · simp [content, hincludes]

/-- Of paragraphs with an empty line behind each of them the last empty line is dropped. -/
theorem dropEmptyEnd_flatMap {ls : List (List Text)} (hne : ls ≠ [])
    (h : ∀ l ∈ ls, l ≠ [] ∧ ∀ line ∈ l, line.isEmpty = false) :
    dropEmptyEnd (ls.flatMap (· ++ [("" : Text)])) = [("" : Text)].intercalate ls := by
  obtain ⟨front, last, rfl⟩ := (List.eq_nil_or_concat' ls).resolve_left hne
  obtain ⟨hlast_ne, hlast⟩ := h last (by simp)
  obtain ⟨init, line, rfl⟩ := (List.eq_nil_or_concat' last).resolve_left hlast_ne
  have hline : ¬line.isEmpty = true := by
    rw [hlast line (by simp)]
    exact Bool.false_ne_true
  have hempty : Text.isEmpty "" = true := rfl
  rw [Text.intercalate_concat, List.flatMap_append, List.flatMap_singleton, ← List.append_assoc,
    ← List.append_assoc]
  change List.rdropWhile Text.isEmpty _ = _
  rw [List.rdropWhile_concat_pos _ _ _ hempty, List.rdropWhile_concat_neg _ _ _ hline]

end Header

/-! ## Reading a layout back -/

namespace Content

/-- There are no line feeds in what a header says; a declaration ends in a semicolon, and a line
that includes a file is not empty and does not end in one. -/
structure IsLaidOut (c : Content) : Prop where
  name : c.name.IsLine
  guard : ∀ guard, c.guard = some guard → guard.IsLine
  includes : ∀ line ∈ c.includes,
    line.IsLine ∧ line.isEmpty = false ∧ line.letters.getLast? ≠ some (.char ';')
  comments : ∀ d ∈ c.declarations, ∀ comment, d.1 = some comment → comment.IsLine
  texts : ∀ d ∈ c.declarations, d.2.IsLine ∧ d.2.letters.getLast? = some (.char ';')

/-- The text of a paragraph is its last line. -/
theorem getLast?_paragraph (d : Option Text × Text) : (paragraph d).getLast? = some d.2 := by
  rcases d with ⟨_ | comment, text⟩ <;> rfl

/-- A declaration is read back from its paragraph: if there are two lines, then the first one is the
comment. -/
theorem paragraph_injective : Function.Injective paragraph := by
  rintro ⟨comment, text⟩ ⟨comment', text'⟩ h
  have htext : text = text' := by
    have hlast := congrArg List.getLast? h
    rw [getLast?_paragraph, getLast?_paragraph] at hlast
    exact Option.some.inj hlast
  rcases comment with _ | comment <;> rcases comment' with _ | comment'
  · rw [htext]
  · cases h
  · cases h
  · have hcomment : comment = comment' :=
      Text.append_left_cancel (Text.append_right_cancel (List.cons.inj h).1)
    rw [hcomment, htext]

/-- The guard is read back from the lines that open it. -/
theorem opening_injective : Function.Injective opening := by
  rintro (_ | guard) (_ | guard') h
  · rfl
  · cases h
  · cases h
  · rw [Text.append_left_cancel (List.cons.inj h).1]

/-- The included files are not the paragraph of a declaration, which ends in a semicolon. -/
theorem ne_paragraph {c : Content} (hc : c.IsLaidOut) {d : Option Text × Text}
    (hd : d.2.letters.getLast? = some (.char ';')) : c.includes ≠ paragraph d := by
  intro h
  have hlast : c.includes.getLast? = some d.2 := by rw [h, getLast?_paragraph]
  exact (hc.includes d.2 (List.mem_of_getLast? hlast)).2.2 hd

/-- The included files and the declarations are read back from the paragraphs between the guards.

**Proof sketch.** Only the first paragraph may be the included files. It is, if and only if its last
line does not end in a semicolon. -/
theorem IsLaidOut.body_inj {c d : Content} (hc : c.IsLaidOut) (hd : d.IsLaidOut)
    (h : c.body = d.body) : c.includes = d.includes ∧ c.declarations = d.declarations := by
  have hinj := List.map_injective_iff.mpr paragraph_injective
  have hne := fun e he => ne_paragraph hc (hd.texts e he).2
  have hne' := fun e he => ne_paragraph hd (hc.texts e he).2
  unfold body at h
  rcases hincludes : c.includes with _ | ⟨line, lines⟩ <;>
    rcases hincludes' : d.includes with _ | ⟨line', lines'⟩ <;>
    simp only [hincludes, hincludes', List.isEmpty_nil, List.isEmpty_cons, if_true,
      Bool.false_eq_true, if_false, List.nil_append, List.singleton_append] at h
  · exact ⟨rfl, hinj h⟩
  -- files on one side only: they are the first paragraph of a declaration on the other side
  · obtain ⟨e, es, he, hfirst, -⟩ := List.map_eq_cons_iff.mp h
    exact absurd (hincludes'.trans hfirst.symm) (hne' e (by simp [he]))
  · obtain ⟨e, es, he, hfirst, -⟩ := List.map_eq_cons_iff.mp h.symm
    exact absurd (hincludes.trans hfirst.symm) (hne e (by simp [he]))
  · obtain ⟨hlines, hrest⟩ := List.cons.inj h
    exact ⟨hlines, hinj hrest⟩

/-- The content is read back from the paragraphs. -/
theorem IsLaidOut.paragraphs_inj {c d : Content} (hc : c.IsLaidOut) (hd : d.IsLaidOut)
    (h : c.paragraphs = d.paragraphs) : c = d := by
  obtain ⟨hbanner, hrest⟩ := List.cons.inj h
  obtain ⟨hname, hopening⟩ := List.cons.inj hbanner
  have hname := Text.append_left_cancel (Text.append_right_cancel hname)
  have hguard := opening_injective hopening
  rw [hguard] at hrest
  obtain ⟨hincludes, hdeclarations⟩ := hc.body_inj hd (List.append_cancel_right hrest)
  rcases c with ⟨name, guard, includes, declarations⟩
  rcases d with ⟨name', guard', includes', declarations'⟩
  simp only at hname hguard hincludes hdeclarations
  rw [hname, hguard, hincludes, hdeclarations]

/-- A line without line feeds that is not empty, as the lines of paragraphs are. -/
def IsInLayout (line : Text) : Prop :=
  line.IsLine ∧ line.isEmpty = false

/-- The lines of a declaration are in a layout. -/
theorem isInLayout_paragraph {d : Option Text × Text}
    (hcomment : ∀ comment, d.1 = some comment → comment.IsLine)
    (htext : d.2.IsLine ∧ d.2.letters.getLast? = some (.char ';')) :
    ∀ line ∈ paragraph d, IsInLayout line := by
  have htext : IsInLayout d.2 := ⟨htext.1, Text.isEmpty_of_getLast? htext.2⟩
  rcases d with ⟨_ | comment, text⟩
  · exact List.forall_mem_singleton.mpr htext
  · have hopen : Text.IsLine "/* " := by decide
    have hclose : Text.IsLine " */" := by decide
    have hline : IsInLayout ("/* " ++ comment ++ " */") :=
      ⟨(hopen.append (hcomment comment rfl)).append hclose, rfl⟩
    exact List.forall_mem_cons.mpr ⟨hline, List.forall_mem_singleton.mpr htext⟩

/-- The lines between the guards are in a layout. -/
theorem IsLaidOut.isInLayout_body {c : Content} (hc : c.IsLaidOut) :
    ∀ l ∈ c.body, ∀ line ∈ l, IsInLayout line := by
  refine List.forall_mem_append.mpr ⟨?_, List.forall_mem_map.mpr fun d hd => ?_⟩
  · split
    · simp
    · refine List.forall_mem_singleton.mpr fun line hline => ?_
      exact ⟨(hc.includes line hline).1, (hc.includes line hline).2.1⟩
  · exact isInLayout_paragraph (hc.comments d hd) (hc.texts d hd)

/-- The lines of the guard are in a layout. -/
theorem isInLayout_guard {guard : Option Text} (h : ∀ g, guard = some g → g.IsLine) :
    (∀ line ∈ opening guard, IsInLayout line) ∧
      ∀ l ∈ closing guard, ∀ line ∈ l, IsInLayout line := by
  rcases guard with _ | guard
  · simp [opening, closing]
  · have hguard := h guard rfl
    have hifndef : Text.IsLine "#ifndef " := by decide
    have hdefine : Text.IsLine "#define " := by decide
    have hendif : Text.IsLine "#endif /* " := by decide
    have hclose : Text.IsLine " */" := by decide
    constructor
    · exact List.forall_mem_cons.mpr ⟨⟨hifndef.append hguard, rfl⟩,
        List.forall_mem_singleton.mpr ⟨hdefine.append hguard, rfl⟩⟩
    · exact List.forall_mem_singleton.mpr
        (List.forall_mem_singleton.mpr ⟨(hendif.append hguard).append hclose, rfl⟩)

/-- The lines of the paragraphs are in a layout. -/
theorem IsLaidOut.isInLayout_paragraphs {c : Content} (hc : c.IsLaidOut) :
    ∀ l ∈ c.paragraphs, ∀ line ∈ l, IsInLayout line := by
  obtain ⟨hopening, hclosing⟩ := isInLayout_guard hc.guard
  have hmark : Text.IsLine "/* generated by cdeclgen: " := by decide
  have hclose : Text.IsLine " */" := by decide
  refine List.forall_mem_cons.mpr ⟨List.forall_mem_cons.mpr ⟨?_, hopening⟩,
    List.forall_mem_append.mpr ⟨hc.isInLayout_body, hclosing⟩⟩
  exact ⟨(hmark.append hc.name).append hclose, rfl⟩

/-- The lines of a layout have no line feeds. -/
theorem IsLaidOut.isLine_of_mem_lines {c : Content} (hc : c.IsLaidOut) :
    ∀ line ∈ c.lines, line.IsLine := by
  have hempty : Text.IsLine "" := by decide
  exact Text.forall_mem_intercalate hempty fun l hl line hline =>
    (hc.isInLayout_paragraphs l hl line hline).1

/-- There is no empty line in a paragraph. -/
theorem IsLaidOut.empty_not_mem {c : Content} (hc : c.IsLaidOut) :
    ∀ l ∈ c.paragraphs, ("" : Text) ∉ l := by
  intro l hl hmem
  have hempty := (hc.isInLayout_paragraphs l hl "" hmem).2
  cases hempty

/-- A layout has a line. -/
theorem lines_ne_nil (c : Content) : c.lines ≠ [] := by
  unfold lines paragraphs
  rcases c.body ++ closing c.guard with _ | ⟨l, ls⟩ <;> exact List.cons_ne_nil _ _

/-- The content is read back from the text.

**Proof sketch.** No line has a line feed, so the lines are found again between the line feeds. No
line of a paragraph is empty, so the paragraphs are found again between the empty lines. -/
theorem IsLaidOut.text_inj {c d : Content} (hc : c.IsLaidOut) (hd : d.IsLaidOut)
    (h : c.text = d.text) : c = d := by
  have hlines : c.lines = d.lines :=
    Text.join_newline_inj hc.isLine_of_mem_lines hd.isLine_of_mem_lines c.lines_ne_nil
      d.lines_ne_nil (Text.append_right_cancel h)
  have hparagraphs : c.paragraphs = d.paragraphs :=
    Text.intercalate_inj hc.empty_not_mem hd.empty_not_mem (List.cons_ne_nil _ _)
      (List.cons_ne_nil _ _) hlines
  exact hc.paragraphs_inj hd hparagraphs

end Content

namespace Header

/-- A paragraph between the guards has a line. -/
theorem ne_nil_of_mem_body {c : Content} : ∀ l ∈ c.body, l ≠ [] := by
  refine List.forall_mem_append.mpr ⟨?_, List.forall_mem_map.mpr fun d _ => ?_⟩
  · split
    · simp
    · next hincludes => simpa using hincludes
  · rcases d with ⟨_ | comment, text⟩ <;> exact List.cons_ne_nil _ _

/-- The lines of a header are those of its content.

**Proof sketch.** With a guard every paragraph but the last one has an empty line behind it. Without
one the last one has an empty line behind it as well, and this line is dropped. -/
theorem lines_eq {h : Header} (hh : h.content.IsLaidOut) : h.lines = h.content.lines := by
  have hguard : h.content.guard = h.guard := rfl
  rcases hg : h.guard with _ | guard
  · have hplain : h.content.paragraphs = h.content.banner :: h.content.body := by
      rw [Content.paragraphs, hguard, hg]
      exact congrArg _ (List.append_nil _)
    have hlines : ∀ l ∈ h.content.banner :: h.content.body,
        l ≠ [] ∧ ∀ line ∈ l, line.isEmpty = false := by
      refine fun l hl => ⟨?_, fun line hline => ?_⟩
      · rcases List.mem_cons.mp hl with rfl | hl
        · exact List.cons_ne_nil _ _
        · exact ne_nil_of_mem_body l hl
      · exact (hh.isInLayout_paragraphs l (hplain ▸ hl) line hline).2
    -- the last paragraph has an empty line behind it, which is the one that is dropped
    rw [Content.lines, hplain, ← dropEmptyEnd_flatMap (List.cons_ne_nil _ _) hlines,
      List.flatMap_cons, ← bodyLines_eq, Content.banner, hguard, hg]
    unfold lines
    rw [hg]
    rfl
  · have hplain : h.content.paragraphs =
        (h.content.banner :: h.content.body) ++ [["#endif /* " ++ guard ++ " */"]] := by
      rw [Content.paragraphs, hguard, hg]
      rfl
    rw [Content.lines, hplain, Text.intercalate_concat, List.flatMap_cons, ← bodyLines_eq,
      Content.banner, hguard, hg]
    unfold lines
    rw [hg]
    rfl

/-- A header is the layout of its content. -/
theorem text_eq {h : Header} (hh : h.content.IsLaidOut) : h.text = h.content.text := by
  rw [text, lines_eq hh, Content.text]

end Header

end CHeaders
