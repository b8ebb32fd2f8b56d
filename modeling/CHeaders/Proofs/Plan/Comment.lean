import CHeaders.Proofs.Plan.IncludeGuard
import CHeaders.Proofs.Text.Replace
import Mathlib.Data.List.Chain
import Mathlib.Data.List.Infix

/-!
# Comments of headers

The name of a plan and the comments of its declarations may be any texts. In a header each of them
stands in a comment of its own, and this comment is a line: no text ends its comment too early, and
none goes on behind it. For this the ends of comments in a text are taken apart, and then the line
feeds become spaces. Neither of the two brings back what the other one takes away.

## Main definitions

* `CHeaders.Text.IsComment`: the lines that are one comment.

## Main results

* `CHeaders.Header.escape_eq_replace`: what is done to a text in a comment.
* `CHeaders.Header.not_holds_escape`: a text in a comment does not end it.
* `CHeaders.Header.isComment_commentLine`: the line of a comment is one comment.
* `CHeaders.Plan.header_comments`: the comments of a header.
-/

namespace CHeaders

/-- A line that is one comment: the first two letters open it, and what closes it first are the last
two letters. -/
structure Text.IsComment (t : Text) : Prop where
  isLine : t.IsLine
  closed : ∃ inner : Text, t = "/*" ++ inner ++ "*/"
  first : ∀ front back : Text, t = "/*" ++ front ++ "*/" ++ back → back = ""

namespace Header

/-! ## Escaped texts -/

/-- Two letters that do not close a comment. -/
def Keeps (l m : Letter) : Prop :=
  l = .char '*' → m ≠ .char '/'

/-- Letters of which no two in a row close a comment do not hold the end of one. -/
theorem not_infix_of_isChain {ls : List Letter} (h : ls.IsChain Keeps) :
    ¬("*/" : Text).letters <:+: ls := by
  rintro ⟨front, back, rfl⟩
  have hend : List.IsChain Keeps ("*/" : Text).letters :=
    (List.isChain_append.mp (List.isChain_append.mp h).1).2.1
  exact (List.isChain_cons_cons.mp hend).1 rfl rfl

/-- Escaped letters begin with a slash only if the letters do. -/
theorem head?_escapeLetters {ls : List Letter} (h : ls.head? ≠ some (.char '/')) :
    (escapeLetters ls).head? ≠ some (.char '/') := by
  fun_cases escapeLetters ls with
  | case1 => simp
  | case2 => simp
  | case3 => simp
  | case4 => exact h

/-- No two escaped letters in a row close a comment.

**Proof sketch.** A star in front of a slash gets a space behind it. Any other star keeps what
stands behind it, or gets a space in the place of a line feed; in neither case this is a slash. -/
theorem isChain_escapeLetters (ls : List Letter) : (escapeLetters ls).IsChain Keeps := by
  fun_induction escapeLetters ls with
  | case1 => exact .nil
  | case2 rest ih =>
    refine .cons_cons (fun _ => by decide) (.cons_cons (fun h => by cases h) ?_)
    exact List.isChain_cons.mpr ⟨fun _ _ h => (by cases h), ih⟩
  | case3 rest ih => exact List.isChain_cons.mpr ⟨fun _ _ h => (by cases h), ih⟩
  | case4 l rest hend hfeed ih =>
    refine List.isChain_cons.mpr ⟨?_, ih⟩
    rintro m hm rfl rfl
    have hhead : rest.head? = some (.char '/') := by
      by_contra hne
      exact head?_escapeLetters hne hm
    obtain ⟨tail, rfl⟩ := List.head?_eq_some_iff.mp hhead
    exact hend tail rfl rfl

/-- A text in a comment does not hold the end of one. -/
theorem not_holds_escape (t : Text) : ¬(escape t).Holds "*/" :=
  not_infix_of_isChain (isChain_escapeLetters t.letters)

/-- Letters but for line feeds are kept when line feeds become spaces. -/
theorem replaceIn_newline_cons {l : Letter} (h : l ≠ .char '\n') (ls : List Letter) :
    Text.replaceIn ("\n" : Text).letters (" " : Text).letters (l :: ls) =
      l :: Text.replaceIn ("\n" : Text).letters (" " : Text).letters ls :=
  Text.replaceIn_cons fun hpre => h (List.cons_prefix_cons.mp hpre).1.symm

/-- What is done to a text in a comment: the ends of comments are taken apart, and then the line
feeds become spaces.

**Proof sketch.** By induction along the recursion that escapes letters. The end of a comment and a
line feed are replaced where they stand; no other letter begins either of them, so it stays. -/
theorem escape_eq_replace (t : Text) :
    escape t = Text.replace "\n" " " (Text.replace "*/" "* /" t) := by
  rcases t with ⟨ls⟩
  refine congrArg Text.mk ?_
  change escapeLetters ls = Text.replaceIn ("\n" : Text).letters (" " : Text).letters
    (Text.replaceIn ("*/" : Text).letters ("* /" : Text).letters ls)
  fun_induction escapeLetters ls with
  | case1 => rfl
  | case2 rest ih =>
    have hstep : Text.replaceIn ("*/" : Text).letters ("* /" : Text).letters
        (.char '*' :: .char '/' :: rest) = .char '*' :: .char ' ' :: .char '/' ::
          Text.replaceIn ("*/" : Text).letters ("* /" : Text).letters rest :=
      Text.replaceIn_append [Letter.char '/'] (.char '*') ("* /" : Text).letters rest
    rw [hstep, replaceIn_newline_cons (by decide), replaceIn_newline_cons (by decide),
      replaceIn_newline_cons (by decide), ih]
  | case3 rest ih =>
    rw [Text.replaceIn_cons (fun hpre => by cases (List.cons_prefix_cons.mp hpre).1), ih]
    exact (Text.replaceIn_append [] (Letter.char '\n') (" " : Text).letters _).symm
  | case4 l rest hend hfeed ih =>
    have hpre : ¬("*/" : Text).letters <+: l :: rest := by
      rintro ⟨tail, htail⟩
      obtain ⟨hl, hrest⟩ := List.cons.inj htail
      exact hend tail hl.symm hrest.symm
    rw [Text.replaceIn_cons hpre, replaceIn_newline_cons hfeed, ih]

/-- A text that does not end a comment and has no line feed stays as it is. -/
theorem escape_of_not_holds {t : Text} (hend : ¬t.Holds "*/") (hline : t.IsLine) :
    escape t = t := by
  have hfeed : ¬t.Holds "\n" := fun h => hline ((List.singleton_infix_iff _ _).mp h)
  rw [escape_eq_replace, Text.replace_of_not_holds hend, Text.replace_of_not_holds hfeed]

/-! ## The lines of comments -/

/-- The letters of the line of a comment behind its opening, without the last one. -/
def spaced (t : Text) : List Letter :=
  .char ' ' :: ((escape t).letters ++ [Letter.char ' ', .char '*'])

/-- No two of these letters in a row close a comment. -/
theorem isChain_spaced (t : Text) : (spaced t).IsChain Keeps := by
  have hback : List.IsChain Keeps [Letter.char ' ', .char '*'] :=
    .cons_cons (fun h => by cases h) (.singleton _)
  refine List.isChain_cons.mpr ⟨fun _ _ h => (by cases h), List.isChain_append.mpr
    ⟨isChain_escapeLetters t.letters, hback, ?_⟩⟩
  rintro l - m hm -
  obtain rfl := Option.some.inj hm
  decide

/-- The letters of the line of a comment. -/
theorem letters_commentLine (t : Text) :
    (commentLine t).letters = ("/*" : Text).letters ++ (spaced t ++ [.char '/']) :=
  congrArg (("/* " : Text).letters ++ ·)
    (List.append_assoc (escape t).letters [.char ' ', .char '*'] [.char '/']).symm

/-- The line of a comment is one comment.

**Proof sketch.** An end of the comment with something behind it would stand in what is left of the
line without its last letter: the escaped text between spaces, and a star. But no two letters in a
row close a comment there. -/
theorem isComment_commentLine (t : Text) : (commentLine t).IsComment := by
  refine ⟨isLine_commentLine t, ⟨" " ++ escape t ++ " ", ?_⟩, fun front back h => ?_⟩
  · exact congrArg (fun ls => Text.mk (("/* " : Text).letters ++ ls))
      (List.append_assoc (escape t).letters [.char ' '] [.char '*', .char '/']).symm
  · by_contra hback
    have hne : back.letters ≠ [] := fun hnil => hback (congrArg Text.mk hnil)
    obtain ⟨init, last, hlast⟩ := (List.eq_nil_or_concat' back.letters).resolve_left hne
    have hletters := congrArg Text.letters h
    rw [letters_commentLine] at hletters
    simp only [Text.letters_append, List.append_assoc, hlast] at hletters
    have hspaced : spaced t ++ [.char '/'] =
        (front.letters ++ ("*/" : Text).letters ++ init) ++ [last] := by
      simpa only [List.append_assoc] using List.append_cancel_left hletters
    exact not_infix_of_isChain (isChain_spaced t)
      ⟨front.letters, init, (List.append_inj' hspaced rfl).1.symm⟩

/-- The line with the name of a plan holds the escaped name: there is nothing to escape in front of
it. -/
theorem commentLine_banner (name : Text) :
    commentLine ("generated by cdeclgen: " ++ name) =
      "/* generated by cdeclgen: " ++ escape name ++ " */" := rfl

/-! ## The lines of a header -/

/-- A line that is not empty is not dropped at the end. -/
theorem mem_dropEmptyEnd {lines : List Text} {line : Text} (h : line ∈ lines)
    (hline : line.isEmpty = false) : line ∈ dropEmptyEnd lines := by
  change line ∈ lines.rdropWhile Text.isEmpty
  induction lines using List.reverseRecOn with
  | nil => exact absurd h List.not_mem_nil
  | append_singleton lines last ih =>
    by_cases hlast : last.isEmpty = true
    · rw [List.rdropWhile_concat_pos _ _ _ hlast]
      refine ih ((List.mem_append.mp h).resolve_right fun hmem => ?_)
      rw [List.mem_singleton.mp hmem, hlast] at hline
      cases hline
    · rwa [List.rdropWhile_concat_neg _ _ _ hlast]

/-- A line that is not empty stays the first one. -/
theorem exists_dropEmptyEnd_cons {line : Text} (hline : line.isEmpty = false) (lines : List Text) :
    ∃ rest, dropEmptyEnd (line :: lines) = line :: rest := by
  have hmem : line ∈ dropEmptyEnd (line :: lines) := mem_dropEmptyEnd List.mem_cons_self hline
  obtain ⟨first, rest, hrest⟩ := List.exists_cons_of_ne_nil (List.ne_nil_of_mem hmem)
  have hpre : dropEmptyEnd (line :: lines) <+: line :: lines := List.rdropWhile_prefix _ _
  rw [hrest] at hpre
  exact ⟨rest, by rw [hrest, (List.cons_prefix_cons.mp hpre).1]⟩

variable {h : Header}

/-- The first line of a header is the one with the name. -/
theorem exists_lines_eq (h : Header) :
    ∃ rest, h.lines = commentLine ("generated by cdeclgen: " ++ h.name) :: rest := by
  unfold lines
  split
  · exact exists_dropEmptyEnd_cons rfl _
  · exact ⟨_, rfl⟩

/-- The comment of a declaration is a line of a header. -/
theorem commentLine_mem_lines {note text : Text} (hd : (some note, text) ∈ h.declarations) :
    commentLine note ∈ h.lines := by
  have hbody : commentLine note ∈ h.bodyLines := by
    refine List.mem_append_right _ (List.mem_flatMap.mpr ⟨_, hd, ?_⟩)
    exact List.mem_cons_self
  unfold lines
  split
  · exact mem_dropEmptyEnd (List.mem_cons_of_mem _ (List.mem_cons_of_mem _ hbody)) rfl
  · simp [hbody]

/-- The first line of the text of a header is the one with the name. -/
theorem head?_lines_text (h : Header) :
    h.text.lines.head? = some (commentLine ("generated by cdeclgen: " ++ h.name)) := by
  obtain ⟨rest, hrest⟩ := h.exists_lines_eq
  rw [text, Text.lines_join (by rw [hrest]; exact List.cons_ne_nil _ _), hrest, List.flatMap_cons,
    (isLine_commentLine _).betweenFeeds_eq]
  rfl

/-- The comment of a declaration is a line of the text of a header. -/
theorem commentLine_mem_lines_text {note text : Text} (hd : (some note, text) ∈ h.declarations) :
    commentLine note ∈ h.text.lines := by
  have hmem := commentLine_mem_lines hd
  rw [Header.text, Text.lines_join (List.ne_nil_of_mem hmem)]
  refine List.mem_flatMap.mpr ⟨_, hmem, ?_⟩
  rw [(isLine_commentLine note).betweenFeeds_eq]
  exact List.mem_cons_self

end Header

namespace Plan

open Header (commentLine escape)

/-- Two lists with an item for each item of a third one have a pair for each of them. -/
theorem exists_mem_zip {α β γ : Type} {S : α → β → Prop} {T : α → γ → Prop} {xs : List α}
    {ys : List β} {zs : List γ} (hys : List.Forall₂ S xs ys) (hzs : List.Forall₂ T xs zs) :
    ∀ x ∈ xs, ∃ y z, S x y ∧ (y, z) ∈ ys.zip zs := by
  induction hys generalizing zs with
  | nil => simp
  | @cons x y xs ys hy _ ih =>
    obtain ⟨z, zs, -, hrest, rfl⟩ := List.forall₂_cons_left_iff.mp hzs
    refine List.forall_mem_cons.mpr ⟨⟨y, z, hy, List.mem_cons_self⟩, fun x' hx' => ?_⟩
    obtain ⟨y', z', hy', hmem⟩ := ih hrest x' hx'
    exact ⟨y', z', hy', List.mem_cons_of_mem _ hmem⟩

/-- A text stands in a comment as it is. -/
theorem commentText_of_text? {v : Value} {s : Text} (h : v.text? = some s) :
    commentText v = .ok s := by
  cases v <;> cases h <;> rfl

/-- The comments of a header: whatever text `s` is the name of the plan or the comment of a
declaration, it stands in a line that is one comment. It is written with the ends of comments taken
apart and with spaces for line feeds, which changes nothing if there are neither of them, or if it
has been done already.

**Proof sketch.** The statements about the text alone are those about what escaping leaves. A header
that returns has each of its comments from a declaration or from the name of the plan, and writes it
in a line of its own. -/
theorem header_comments (s : Text) :
    ("/* " ++ escape s ++ " */" : Text).IsComment ∧
    ("/* generated by cdeclgen: " ++ escape s ++ " */" : Text).IsComment ∧
    escape s = Text.replace "\n" " " (Text.replace "*/" "* /" s) ∧
    escape (escape s) = escape s ∧ (¬s.Holds "*/" → s.IsLine → escape s = s) ∧
    ∀ (p : Plan) (text : Text), p.header.result = .ok text →
      (p.name.text? = some s →
        text.lines.head? = some ("/* generated by cdeclgen: " ++ escape s ++ " */")) ∧
      (s.isEmpty = false → ∀ ds, p.declarations.items? = some ds →
        ∀ term comment, .declaration term comment ∈ ds → comment.text? = some s →
          ("/* " ++ escape s ++ " */" : Text) ∈ text.lines) := by
  refine ⟨Header.isComment_commentLine s,
    Header.commentLine_banner s ▸ Header.isComment_commentLine _,
    Header.escape_eq_replace s,
    Header.escape_of_not_holds (Header.not_holds_escape s) (Header.isLine_escape s),
    Header.escape_of_not_holds, fun p text htext => ?_⟩
  obtain ⟨guard, files, includes, ds, texts, name, comments, -, -, -, hds, htexts, hname, hcomments,
    rfl⟩ := header_eq_ok_iff.mp htext
  refine ⟨fun hs => ?_, fun hs ds' hds' term comment hmem hcomment => ?_⟩
  · obtain rfl := Except.ok.inj ((commentText_of_text? hs).symm.trans hname)
    rw [← Header.commentLine_banner]
    exact Header.head?_lines_text _
  · obtain rfl := Option.some.inj ((itemsOf_eq_ok_iff.mp hds).symm.trans hds')
    obtain ⟨note, declared, hnote, hzip⟩ :=
      exists_mem_zip ((mapM_eq_ok_iff _ _ _).mp hcomments) htexts _ hmem
    have htrue : comment.isTrue = true := by rw [Fragment.isTrue_of_text? hcomment, hs]; rfl
    have hshown : commentOf (.declaration term comment) = .ok (some s) := by
      change (if comment.isTrue then (commentText comment).map some else pure none) = _
      rw [if_pos htrue, commentText_of_text? hcomment]
      rfl
    obtain rfl := Except.ok.inj (hshown.symm.trans hnote)
    exact Header.commentLine_mem_lines_text hzip

/-- A text that would end its comment and begin a new line. -/
def closing : Text :=
  "a*/\nb"

/-- A plan whose name and comment would end their comments and begin new lines. -/
def closingPlan : Plan :=
  ⟨.text closing, .list [.declaration (.text "int x") (.text closing)], .none, .list []⟩

/-- The header of this plan. -/
def closingText : String :=
  "/* generated by cdeclgen: a* / b */\n\n/* a* / b */\nint x;\n"

/-- The name and the comment stay in their lines. What only opens a comment is not touched. -/
theorem header_comments_closing : closingPlan.header.result = .ok closingText ∧
    (closingText : Text).lines.head? = some "/* generated by cdeclgen: a* / b */" ∧
    Text.IsComment "/* generated by cdeclgen: a* / b */" ∧
    ("/* a* / b */" : Text) ∈ (closingText : Text).lines ∧ Text.IsComment "/* a* / b */" ∧
    escape "/* x" = "/* x" := by
  have htext : closingPlan.header.result = .ok closingText :=
    eq_ok_of_toOption (by decide +kernel)
  obtain ⟨hcomment, hbanner, -, -, -, hlines⟩ := header_comments closing
  obtain ⟨hhead, hmem⟩ := hlines closingPlan closingText htext
  obtain ⟨-, -, -, -, hsame, -⟩ := header_comments "/* x"
  exact ⟨htext, hhead rfl, hbanner, hmem rfl _ rfl _ _ List.mem_cons_self rfl, hcomment,
    hsame (by decide) (by decide)⟩

end Plan

end CHeaders
