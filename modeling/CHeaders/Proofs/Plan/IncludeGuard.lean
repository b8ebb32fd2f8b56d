import CHeaders.Proofs.Plan.Content
import CHeaders.Proofs.Text.Identifier

/-!
# Guards of headers

A header that is guarded names its guard three times: in its second line, in its third line and in
its last line. The other lines hold what the plan brings with it, and there may be line feeds in
these texts. But not in front of the guard, where a comment stands; and the last line is found from
the end. So all depends on the guard, which is accepted if it is a name, and also if it is a name
with a line feed behind it.

## Main definitions

* `CHeaders.Text.IsGuardedBy`: texts with a guard in the three lines.

## Main results

* `CHeaders.Header.lines_text`: the lines of a header with a guard.
* `CHeaders.Header.isGuardedBy_iff`: a guard stands in the three lines if it has no line feed.
* `CHeaders.Plan.header_guarded_iff`: when the guard of a plan stands in the three lines.
-/

namespace CHeaders

/-- The second and the third line of a text ask for the macro and define it, and the last line names
it in a comment. -/
structure Text.IsGuardedBy (text guard : Text) : Prop where
  second : text.lines[1]? = some ("#ifndef " ++ guard)
  third : text.lines[2]? = some ("#define " ++ guard)
  last : text.lines.getLast? = some ("#endif /* " ++ guard ++ " */")

namespace Header

variable {h : Header} {guard : Text}

/-- A line with a comment has no line feed. -/
theorem isLine_commentLine (t : Text) : (commentLine t).IsLine := by
  have hopen : Text.IsLine "/* " := by decide
  have hclose : Text.IsLine " */" := by decide
  exact (hopen.append (isLine_escape t)).append hclose

/-- The lines of a header with a guard that has no line feed: what stands between the guards may
have more lines than parts. -/
theorem lines_text (hguard : h.guard = some guard) (hline : guard.IsLine) :
    h.text.lines = commentLine ("generated by cdeclgen: " ++ h.name) :: ("#ifndef " ++ guard) ::
      ("#define " ++ guard) :: "" :: (h.bodyLines.flatMap Text.betweenFeeds ++
        [("#endif /* " ++ guard ++ " */" : Text)]) := by
  have hsecond : Text.IsLine "#ifndef " := by decide
  have hthird : Text.IsLine "#define " := by decide
  have hopen : Text.IsLine "#endif /* " := by decide
  have hclose : Text.IsLine " */" := by decide
  have hempty : Text.IsLine "" := by decide
  have hlines : h.lines = commentLine ("generated by cdeclgen: " ++ h.name) ::
      ("#ifndef " ++ guard) :: ("#define " ++ guard) :: "" ::
        (h.bodyLines ++ [("#endif /* " ++ guard ++ " */" : Text)]) := by
    rw [lines, hguard]
  rw [text, Text.lines_join (by rw [hlines]; exact List.cons_ne_nil _ _), hlines]
  simp only [List.flatMap_cons, List.flatMap_append, List.flatMap_nil,
    (isLine_commentLine _).betweenFeeds_eq, (hsecond.append hline).betweenFeeds_eq,
    (hthird.append hline).betweenFeeds_eq, hempty.betweenFeeds_eq,
    ((hopen.append hline).append hclose).betweenFeeds_eq, List.append_nil, List.singleton_append]

/-- A guard stands in the three lines of a header if and only if it has no line feed.

**Proof sketch.** The first line is a comment, which has no line feed, so the lines of the guard are
the next ones; and no lines stand behind the last one. There are no line feeds in lines, so a guard
with a line feed does not stand in any. -/
theorem isGuardedBy_iff (hguard : h.guard = some guard) :
    h.text.IsGuardedBy guard ↔ guard.IsLine := by
  constructor
  · rintro ⟨hsecond, -, -⟩ hmem
    exact Text.isLine_of_mem_lines (List.mem_of_getElem? hsecond) (List.mem_append_right _ hmem)
  · intro hline
    have hlines := lines_text hguard hline
    refine ⟨by rw [hlines]; rfl, by rw [hlines]; rfl, ?_⟩
    rw [hlines, ← List.cons_append, ← List.cons_append, ← List.cons_append, ← List.cons_append]
    exact List.getLast?_concat

end Header

namespace Plan

/-- When the guard of a plan that has a header stands in the three lines: if and only if it is the
name of a macro. It is such a name, or a name with a line feed behind it. -/
theorem header_guarded_iff {p : Plan} {text : Text} (htext : p.header.result = .ok text)
    (hguard : p.guard ≠ .none) :
    ∃ guard word, p.guard.text? = some guard ∧ word.IsName ∧
      (guard = word ∨ guard = word ++ "\n") ∧ (text.IsGuardedBy guard ↔ guard.IsName) := by
  obtain ⟨shown, files, includes, ds, texts, name, comments, hshown, -, -, -, -, -, -, rfl⟩ :=
    header_eq_ok_iff.mp htext
  obtain ⟨haccepted, hsame⟩ := Judged.of_eq_ok (decides_checkGuard p.guard) hshown
  obtain ⟨guard, hguard, haccepted⟩ := haccepted.resolve_left hguard
  obtain rfl := hsame.symm.trans hguard
  obtain ⟨word, hword, hcases⟩ := Text.isIdentifier_iff.mp haccepted
  refine ⟨guard, word, hguard, hword, hcases, ?_⟩
  rw [Header.isGuardedBy_iff rfl, Text.isLine_iff_isName haccepted]

/-- A plan whose guard has a line feed behind it. -/
def guardedWithFeed : Plan :=
  ⟨.text "x", .list [], .text "X_H\n", .list []⟩

/-- The header of the plan whose guard has a line feed behind it. -/
def guardedWithFeedText : String :=
  "/* generated by cdeclgen: x */\n#ifndef X_H\n\n#define X_H\n\n\n#endif /* X_H\n */\n"

/-- With a line feed behind the guard there is a header, and the guard does not stand in the three
lines. -/
theorem header_guarded_iff_feed : guardedWithFeed.header.result = .ok guardedWithFeedText ∧
    ¬Text.IsGuardedBy guardedWithFeedText "X_H\n" := by
  have htext : guardedWithFeed.header.result = .ok guardedWithFeedText :=
    eq_ok_of_toOption (by decide +kernel)
  obtain ⟨guard, word, hguard, -, -, hiff⟩ := header_guarded_iff htext (by rintro ⟨⟩)
  obtain rfl := Option.some.inj hguard
  exact ⟨htext, fun hguarded => absurd (hiff.mp hguarded).isLine (by decide)⟩

end Plan

end CHeaders
