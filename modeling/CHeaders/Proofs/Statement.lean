import CHeaders.Proofs.Fragment
import CHeaders.Proofs.Operation.Written
import CHeaders.Proofs.Text.Paren

/-!
# Chains are single statements

An opening is the head of a `for` loop: a keyword, and a pair of parentheses around three clauses
with semicolons between them. What stands in the clauses comes from outside. If the parentheses of
these payloads match and no semicolon is in them, then the parenthesis behind the keyword is closed
at the end of the opening only, and the two semicolons divide this loop and no other one.

So a chain is a single statement: its openings are found again from the left, whatever stands in
them and whether there is one line or one for each part, and behind the last opening stands the
statement that they govern.

## Main definitions

* `CHeaders.Statement.IsLoopHead`: the heads of loops.
* `CHeaders.Statement.Opens`: the openings, as bare loops, and what they are made of.
* `CHeaders.Statement.IsPayload`: what an opening may be made of.
* `CHeaders.Statement.laidOut`: the layout of a chain.

## Main results

* `CHeaders.Statement.isLoopHead_once`, `CHeaders.Statement.Opens.isLoopHead`: openings are heads of
  loops.
* `CHeaders.Statement.result_chain`: the text of a chain.
* `CHeaders.Statement.readGroups_join`: heads of loops are read off lines that carry them.
* `CHeaders.Statement.readGroups_chain`: the openings and the statement are read off a chain.
-/

namespace CHeaders.Statement

open Text (IsMatched depth readGroup readGroups)

/-! ## Heads of loops -/

/-- A clause of the head of a loop, or a part of one: its parentheses match, and no semicolon ends
it. -/
def IsClause (t : Text) : Prop :=
  t.IsMatched ∧ .char ';' ∉ t.letters

instance (t : Text) : Decidable (IsClause t) :=
  inferInstanceAs (Decidable (_ ∧ _))

/-- A text is the head of a loop with three clauses: the parenthesis behind the keyword is closed by
the last letter and by no earlier one, and two semicolons stand inside this parenthesis and inside
no other one. -/
structure IsLoopHead (r : Text) : Prop where
  enclosed : ∃ body : Text, r = "for (" ++ body ++ ")" ∧ body.IsMatched
  semicolons : r.letters.count (.char ';') = 2
  level : ∀ front back, r.letters = front ++ .char ';' :: back → depth front = 1

namespace IsClause

/-- Parts of clauses may be put together. -/
theorem append {s t : Text} (hs : IsClause s) (ht : IsClause t) : IsClause (s ++ t) := by
  refine ⟨hs.1.append ht.1, ?_⟩
  rw [Text.letters_append, List.mem_append]
  exact not_or.mpr ⟨hs.2, ht.2⟩

/-- A part of a clause may be put between texts that make one. -/
theorem between {t front back : Text} (ht : IsClause t) (h : IsClause (front ++ back)) :
    IsClause (front ++ t ++ back) := by
  refine ⟨ht.1.between h.1, ?_⟩
  have hends := h.2
  rw [Text.letters_append, List.mem_append, not_or] at hends
  simp only [Text.letters_append, List.mem_append, not_or]
  exact ⟨⟨hends.1, ht.2⟩, hends.2⟩

/-- White space around a clause does not matter. -/
theorem trim {t : Text} (h : IsClause t) : IsClause (Text.trim t) := by
  refine ⟨h.1.trim, fun hmem => h.2 ?_⟩
  obtain ⟨front, back, -, -, hletters⟩ := Text.exists_trim t
  rw [hletters]
  exact List.mem_append_left _ (List.mem_append_right _ hmem)

/-- Parts of clauses may be listed. -/
theorem join {ts : List Text} (h : ∀ t ∈ ts, IsClause t) : IsClause (Text.join ", " ts) := by
  have hcomma : IsClause ", " := by decide
  induction ts with
  | nil => exact (by decide : IsClause "")
  | cons t ts ih =>
    obtain ⟨ht, hts⟩ := List.forall_mem_cons.mp h
    rcases ts with _ | ⟨u, ts⟩
    · exact ht
    · exact (ht.append hcomma).append (ih hts)

end IsClause

/-- If an item is not in the first part of a list, then it stands behind this part or further
back. -/
theorem split_cases {α : Type} {x : α} {as bs front back : List α} (has : x ∉ as)
    (h : as ++ x :: bs = front ++ x :: back) :
    front = as ∨ ∃ mid, front = as ++ x :: mid ∧ bs = mid ++ x :: back := by
  rcases List.append_eq_append_iff.mp h with ⟨mid, rfl, hmid⟩ | ⟨mid, rfl, hmid⟩
  all_goals
    cases mid with
    | nil => simp_all
    | cons m mid => simp_all

/-- A loop of three clauses has a head.

**Proof sketch.** The clauses stand between the parentheses, with a semicolon behind the first one
and behind the second one. There is no other semicolon, and in front of both of them only the
parenthesis of the loop is open. -/
theorem isLoopHead_once {start condition step : Text} (hstart : IsClause start)
    (hcondition : IsClause condition) (hstep : IsClause step) :
    IsLoopHead (once start condition step) := by
  have hspace : IsClause " " := by decide
  have hsecond := hspace.append hcondition
  have hthird := hspace.append hstep
  have hletters : (once start condition step).letters =
      ("for (" ++ start : Text).letters ++ .char ';' :: ((" " ++ condition : Text).letters ++
        .char ';' :: (" " ++ step ++ ")" : Text).letters) := by
    simp only [once, Text.letters_append, List.append_assoc]
    rfl
  have hfront : .char ';' ∉ ("for (" ++ start : Text).letters := by
    rw [Text.letters_append, List.mem_append, not_or]
    exact ⟨by decide, hstart.2⟩
  have hback : .char ';' ∉ (" " ++ step ++ ")" : Text).letters := by
    rw [Text.letters_append, List.mem_append, not_or]
    exact ⟨hthird.2, by decide⟩
  have hdepth : depth ("for (" ++ start : Text).letters = 1 := by
    rw [Text.letters_append, Text.depth_append, hstart.1.1]
    rfl
  constructor
  · have hsemicolon : Text.IsMatched "; " := by decide
    refine ⟨start ++ "; " ++ condition ++ "; " ++ step, ?_,
      (((hstart.1.append hsemicolon).append hcondition.1).append hsemicolon).append hstep.1⟩
    simp only [once, Text.append_assoc]
  · rw [hletters, List.count_append, List.count_cons_self, List.count_append, List.count_cons_self,
      List.count_eq_zero.mpr hfront, List.count_eq_zero.mpr hsecond.2, List.count_eq_zero.mpr hback]
  · intro front back hsplit
    rw [hletters] at hsplit
    rcases split_cases hfront hsplit with rfl | ⟨mid, rfl, hmid⟩
    · exact hdepth
    · rcases split_cases hsecond.2 hmid with rfl | ⟨mid', -, hmid'⟩
      · rw [Text.depth_append, hdepth, Text.depth_cons, hsecond.1.1]
        rfl
      · exact absurd (hmid' ▸ List.mem_append_right _ List.mem_cons_self) hback

/-! ## Openings -/

/-- An opening is made of values, as a bare loop. -/
inductive Opens : List Value → Text → Prop
  | vars {declarations : List Value} {r : Text} (h : introduceVars declarations false = .ok r) :
      Opens declarations r
  | pointer {type name init : Value} {r : Text}
      (h : introduceNonNull type name init false = .ok r) : Opens [type, name, init] r
  | expr {expr : Value} {r : Text} (h : chainExpr expr false = .ok r) : Opens [expr] r

/-- The text of a value, if it is one, may be a part of a clause. -/
def IsPayload (v : Value) : Prop :=
  ∀ t ∈ v.text?, IsClause t

instance (v : Value) : Decidable (IsPayload v) :=
  inferInstanceAs (Decidable (∀ t ∈ v.text?, IsClause t))

/-- What is asked for is a part of a clause if the value may be one. -/
theorem isClause_of_requireText {operation expected : String} {v : Value} {t : Text}
    (hv : IsPayload v) (ht : requireText operation expected v = .ok t) : IsClause t := by
  obtain ⟨s, hs, -, rfl⟩ := exists_text_of_requireText ht
  exact (hv s hs).trim

/-- The loop that introduces variables is the head of a loop if their declarations are parts of
clauses. -/
theorem isLoopHead_varsLoop {ts : List Text} (hts : ∀ t ∈ ts, IsClause t) :
    IsLoopHead (varsLoop ts) := by
  have hstar : IsClause ", *" := by decide
  have hflag : IsClause varsFlag := by decide
  have hnull : IsClause " = (void *)0" := by decide
  exact isLoopHead_once ((((IsClause.join hts).append hstar).append hflag).append hnull) (by decide)
    (by decide)

/-- So is the loop that introduces a pointer. -/
theorem isLoopHead_pointerLoop {t n i : Text} (ht : IsClause t) (hn : IsClause n)
    (hi : IsClause i) : IsLoopHead (pointerLoop t n i) := by
  have hstar : IsClause " *" := by decide
  have hdiffers : IsClause " != (void *)0" := by decide
  have hnull : IsClause " = (void *)0" := by decide
  have hinit : IsClause (" = (" ++ i ++ ")") := hi.between (by decide)
  have hstart : IsClause (t ++ " *" ++ n ++ " = (" ++ i ++ ")") := by
    have hparts := ((ht.append hstar).append hn).append hinit
    simpa only [Text.append_assoc] using hparts
  exact isLoopHead_once hstart (hn.append hdiffers) (hn.append hnull)

/-- So is the loop that evaluates an expression. -/
theorem isLoopHead_exprLoop {t : Text} (ht : IsClause t) : IsLoopHead (exprLoop t) :=
  isLoopHead_once (ht.between (by decide)) (by decide) (by decide)

/-- An opening that is made of parts of clauses is the head of a loop. -/
theorem Opens.isLoopHead {vs : List Value} {r : Text} (h : Opens vs r)
    (hvs : ∀ v ∈ vs, IsPayload v) : IsLoopHead r := by
  cases h with
  | vars h =>
    obtain ⟨ts, hts, rfl⟩ := exists_of_introduceVars h
    refine isLoopHead_varsLoop fun t ht => ?_
    obtain ⟨v, hv, hvt⟩ := exists_mem_of_mapM hts t ht
    exact isClause_of_requireText (hvs v hv) hvt
  | pointer h =>
    obtain ⟨t, n, i, ht, hn, hi, rfl⟩ := exists_of_introduceNonNull h
    exact isLoopHead_pointerLoop (isClause_of_requireText (hvs _ (by simp)) ht)
      (isClause_of_requireText (hvs _ (by simp)) hn) (isClause_of_requireText (hvs _ (by simp)) hi)
  | expr h =>
    obtain ⟨t, ht, rfl⟩ := exists_of_chainExpr h
    exact isLoopHead_exprLoop (isClause_of_requireText (hvs _ (by simp)) ht)

/-! ## Chains -/

/-- Parts in one line, or, if there is an indentation, in one line for each part, each as deep as
there are parts in front of it. -/
def laidOut (indent : Text) (parts : List Text) : Text :=
  if indent.isEmpty then Text.join " " parts
  else Text.join "\n" (parts.zipIdx.map fun p => ⟨Value.repeated p.2 indent.letters⟩ ++ p.1)

/-- Texts are indented one by one. -/
theorem indented_eq_ok {indent : Value} {m : Text} (hindent : indent.text? = some m)
    {vs : List Value} {ts : List Text} (h : List.Forall₂ (fun v t => v.text? = some t) vs ts)
    (place : Nat) : indented indent place vs =
      .ok ((ts.zipIdx place).map fun p => ⟨Value.repeated p.2 m.letters⟩ ++ p.1) := by
  induction h generalizing place with
  | nil => rfl
  | @cons v t vs ts hv _ ih =>
    have hmargin : indent.times place = .ok (.text ⟨Value.repeated place m.letters⟩) := by
      cases indent <;> cases hindent <;> rfl
    have hwritable : v.isWritable = true := Value.isWritable_of_text (by rw [hv]; rfl)
    rw [indented, hmargin]
    change (Fault.whenShown [_, v] _ >>= _) = _
    rw [Fault.whenShown_ok (by simp [Value.isWritable, hwritable]), Value.display_of_text? hv]
    change (indented indent (place + 1) vs >>= _) = _
    rw [ih (place + 1)]
    rfl

/-- What a chain of texts is: the openings that are not empty and the statement, laid out.

**Proof sketch.** The statement is required first. If it holds something, then the openings that are
not empty and the statement are texts, so they are joined, or indented and joined. -/
theorem result_chain {openings statement indent : Value} {vs : List Value} {ts : List Text}
    {s m : Text} (hitems : openings.items? = some vs)
    (hts : List.Forall₂ (fun v t => v.text? = some t) vs ts) (hstatement : statement.text? = some s)
    (hindent : indent.text? = some m) :
    (chain openings statement indent).result =
      if Text.isInhabited s then .ok (laidOut m (ts.filter (!·.isEmpty) ++ [Text.trim s]))
      else .error (.refused .arity "chain" "a final statement" statement) := by
  have hstatement' : requireText "chain" "a final statement" statement =
      if Text.isInhabited s then .ok (Text.trim s)
      else .error (.refused .arity "chain" "a final statement" statement) := by
    have hwritable : statement.isWritable = true :=
      Value.isWritable_of_text (by rw [hstatement]; rfl)
    rw [requireText, hstatement, Fault.refusal_of_isWritable hwritable]
  rw [chain, Outcome.result_bind, Outcome.result_ofExcept, hstatement', hitems]
  split
  · next hinhabited =>
    have hparts : List.Forall₂ (fun v t => v.text? = some t)
        (vs.filter Value.isTrue ++ [.text (Text.trim s)])
        (ts.filter (!·.isEmpty) ++ [Text.trim s]) :=
      List.rel_append (Fragment.forall₂_filter_isTrue hts) (.cons rfl .nil)
    have hindented : indent.isTrue = !m.isEmpty := Fragment.isTrue_of_text? hindent
    change (Outcome.note _ >>= fun _ : Unit =>
      if indent.isTrue = true then Outcome.ofExcept ((indented indent 0 _).map (Text.join "\n"))
      else Outcome.ofExcept ((Fragment.texts 0 _).map (Text.join " "))).result = _
    rw [Outcome.result_bind, indented_eq_ok hindent hparts, Fragment.texts_eq_ok hparts, hindented,
      laidOut]
    cases m.isEmpty <;> rfl
  · rfl

/-- A line carries a part if there is nothing but white space in front of the part. -/
def Carries (line part : Text) : Prop :=
  ∃ margin : List Letter, (∀ l ∈ margin, l.isIn Text.isBlank = true) ∧
    line.letters = margin ++ part.letters

/-- The head of a loop is read off as a group. -/
theorem IsLoopHead.readGroup_eq {r : Text} (h : IsLoopHead r) (rest : List Letter) :
    readGroup 0 (r.letters ++ rest) = some (r.letters, rest) := by
  obtain ⟨body, rfl, hbody⟩ := h.enclosed
  have hopen (ls : List Letter) : readGroup 0 (("for (" : Text).letters ++ ls) =
      (readGroup 1 ls).map fun read => (("for (" : Text).letters ++ read.1, read.2) := by
    have hletters : ("for (" : Text).letters =
        [.char 'f', .char 'o', .char 'r', .char ' ', .char '('] := rfl
    rw [hletters]
    cases hls : readGroup 1 ls <;> simp [readGroup, depth, hls]
  have hinside : ∀ front, front <+: body.letters → 0 < 1 + depth front := by
    intro front hfront
    have hdepth := hbody.2 front hfront
    omega
  simp only [Text.letters_append, List.append_assoc]
  rw [hopen, Text.readGroup_append hinside, hbody.1]
  rfl

/-- The head of a loop is the first group. -/
theorem IsLoopHead.readGroups_eq {r : Text} (h : IsLoopHead r) (n : Nat) (ls : List Letter) :
    readGroups (n + 1) (r.letters ++ ls) =
      (readGroups n ls).map fun read => (r :: read.1, read.2) := by
  have hdrop : Text.dropBlank (r.letters ++ ls) = r.letters ++ ls := by
    obtain ⟨body, rfl, -⟩ := h.enclosed
    exact Text.dropBlank_eq_self fun l hl => by
      obtain rfl := Option.some.inj hl
      rfl
  rw [readGroups, hdrop, h.readGroup_eq]
  change (readGroups n ls >>= fun x => some (r :: x.1, x.2)) = _
  cases readGroups n ls <;> rfl

/-- Lines that carry heads of loops and a last part are read off group by group, and the last part
is left. -/
theorem readGroups_join {separator : Text}
    (hseparator : ∀ l ∈ separator.letters, l.isIn Text.isBlank = true) {heads lines : List Text}
    {last : Text} (hheads : ∀ r ∈ heads, IsLoopHead r) (hlast : last.IsTrimmed)
    (h : List.Forall₂ Carries lines (heads ++ [last])) :
    readGroups heads.length (Text.join separator lines).letters = some (heads, last) := by
  induction heads generalizing lines with
  | nil =>
    obtain ⟨line, _, ⟨margin, hmargin, hline⟩, hnil, rfl⟩ := List.forall₂_cons_right_iff.mp h
    cases hnil
    rw [Text.join, hline, List.length_nil, Text.readGroups_blank 0 hmargin, readGroups,
      Text.dropBlank_eq_self hlast.head]
  | cons r heads ih =>
    obtain ⟨hr, hheads⟩ := List.forall_mem_cons.mp hheads
    obtain ⟨line, lines, ⟨margin, hmargin, hline⟩, hlines, rfl⟩ := List.forall₂_cons_right_iff.mp h
    rcases lines with _ | ⟨next, lines⟩
    · cases heads <;> cases hlines
    · rw [Text.join, Text.letters_append, Text.letters_append, hline, List.append_assoc,
        List.append_assoc, List.length_cons, Text.readGroups_blank _ hmargin, hr.readGroups_eq,
        Text.readGroups_blank _ hseparator, ih hheads hlines]
      rfl

/-- The lines of a layout carry the parts, if the indentation is white space. -/
theorem exists_laidOut {m : Text} (hm : ∀ l ∈ m.letters, l.isIn Text.isBlank = true)
    (parts : List Text) :
    ∃ (separator : Text) (lines : List Text),
      (∀ l ∈ separator.letters, l.isIn Text.isBlank = true) ∧
        List.Forall₂ Carries lines parts ∧ laidOut m parts = Text.join separator lines := by
  unfold laidOut
  split
  · refine ⟨" ", parts, by decide, List.forall₂_same.mpr fun part _ => ⟨[], by simp, rfl⟩, rfl⟩
  · refine ⟨"\n", _, by decide, ?_, rfl⟩
    generalize 0 = place
    induction parts generalizing place with
    | nil => exact .nil
    | cons part parts ih =>
      exact .cons ⟨_, fun l hl => hm l (Value.mem_of_mem_repeated hl), rfl⟩ (ih (place + 1))

/-- The head of a loop is not empty. -/
theorem IsLoopHead.isEmpty_eq_false {r : Text} (h : IsLoopHead r) : r.isEmpty = false := by
  obtain ⟨body, rfl, -⟩ := h.enclosed
  rfl

/-- Openings that are made of parts of clauses are heads of loops. -/
theorem isLoopHead_of_mem {payloads : List (List Value)} {heads : List Text}
    (hpayloads : ∀ payload ∈ payloads, ∀ v ∈ payload, IsPayload v)
    (hheads : List.Forall₂ Opens payloads heads) : ∀ r ∈ heads, IsLoopHead r := by
  induction hheads with
  | nil => simp
  | cons hopens _ ih =>
    obtain ⟨hpayload, hpayloads⟩ := List.forall_mem_cons.mp hpayloads
    exact List.forall_mem_cons.mpr ⟨hopens.isLoopHead hpayload, ih hpayloads⟩

/-- If openings are made of texts whose parentheses match and that hold no semicolons, then each of
them is the head of a loop: the parenthesis behind its keyword is closed at its end, and its two
semicolons stand directly inside. A chain of them is returned for every statement with something in
it, in one line and for every indentation of white space. If as many groups as there are openings
are read off the chain, then these are the openings in order, and the statement is left.

**Proof sketch.** In both layouts the openings and the statement stand one behind the other, with
nothing but white space between them. In front of anything, the head of a loop is read off as one
group, because nothing inside closes its first parenthesis. -/
theorem readGroups_chain {payloads : List (List Value)} {heads : List Text} {vs : List Value}
    {openings statement indent : Value} {s m : Text}
    (hpayloads : ∀ payload ∈ payloads, ∀ v ∈ payload, IsPayload v)
    (hheads : List.Forall₂ Opens payloads heads) (hitems : openings.items? = some vs)
    (hvs : List.Forall₂ (fun v r => v.text? = some r) vs heads)
    (hstatement : statement.text? = some s) (hindent : indent.text? = some m)
    (hblank : ∀ l ∈ m.letters, l.isIn Text.isBlank = true) :
    (∀ r ∈ heads, IsLoopHead r) ∧
      ((∃ text, (chain openings statement indent).result = .ok text) ↔ s.isInhabited = true) ∧
      ∀ text, (chain openings statement indent).result = .ok text →
        readGroups heads.length text.letters = some (heads, Text.trim s) := by
  have hloops := isLoopHead_of_mem hpayloads hheads
  have hkept : heads.filter (!·.isEmpty) = heads :=
    List.filter_eq_self.mpr fun r hr => by rw [(hloops r hr).isEmpty_eq_false]; rfl
  have hresult := result_chain hitems hvs hstatement hindent
  rw [hkept] at hresult
  refine ⟨hloops, ?_, fun text htext => ?_⟩
  · rw [hresult]
    cases s.isInhabited <;> simp
  · obtain ⟨separator, lines, hseparator, hlines, hlaid⟩ :=
      exists_laidOut hblank (heads ++ [Text.trim s])
    rw [hresult] at htext
    split at htext
    · obtain rfl := Except.ok.inj htext
      rw [hlaid]
      exact readGroups_join hseparator hloops (Text.isTrimmed_trim s) hlines
    · cases htext

/-- Variables, a pointer and an expression, with parentheses of their own. -/
def threePayloads : List (List Value) :=
  [[.text "double x = f(1)", .text " y = (7) "], [.text "char", .text "p", .text "get(q, ())"],
    [.text "(void)x"]]

/-- The openings that are made of variables, a pointer and an expression. -/
def threeHeads : List Text :=
  [varsLoop ["double x = f(1)", "y = (7)"], pointerLoop "char" "p" "get(q, ())",
    exprLoop "(void)x"]

/-- Three openings are read off a chain with tabs, and the call that they govern is left. -/
theorem readGroups_chain_threeOpenings :
    List.Forall₂ Opens threePayloads threeHeads ∧
      ∃ text, (chain (.list (threeHeads.map Value.fragment)) (.text " puts(\"done\");\n")
          (.text "\t")).result = .ok text ∧
        readGroups 3 text.letters = some (threeHeads, ("puts(\"done\");" : Text)) := by
  have hpayloads : ∀ payload ∈ threePayloads, ∀ v ∈ payload, IsPayload v := by decide +kernel
  have hheads : List.Forall₂ Opens threePayloads threeHeads :=
    .cons (.vars (eq_ok_of_toOption (by decide +kernel)))
      (.cons (.pointer (eq_ok_of_toOption (by decide +kernel)))
        (.cons (.expr (eq_ok_of_toOption (by decide +kernel))) .nil))
  have hitems : Value.items? (.list (threeHeads.map Value.fragment)) =
      some (threeHeads.map Value.fragment) := rfl
  have hvs : List.Forall₂ (fun (v : Value) r => v.text? = some r) (threeHeads.map Value.fragment)
      threeHeads := by
    rw [List.forall₂_map_left_iff]
    exact List.forall₂_same.mpr fun _ _ => rfl
  have hstatement : Value.text? (.text " puts(\"done\");\n") = some " puts(\"done\");\n" := rfl
  have hindent : Value.text? (.text "\t") = some "\t" := rfl
  obtain ⟨-, hreturns, hreads⟩ :=
    readGroups_chain hpayloads hheads hitems hvs hstatement hindent (by decide)
  obtain ⟨text, htext⟩ := hreturns.mpr (by decide)
  exact ⟨hheads, text, htext, hreads text htext⟩

end CHeaders.Statement
