import CHeaders.Proofs.Statement
import CHeaders.Proofs.Text.Lines
import CHeaders.Proofs.Text.Words

/-!
# The layouts of a chain

With an indentation the parts of a chain stand in lines of their own, each deeper than the one
before. This changes the white space between the parts and nothing else: the words of the chain are
those of its parts, whatever white space the indentation is made of. If there are no line feeds but
those of the layout, then the lines are the indented parts.

## Main results

* `CHeaders.Statement.words_laidOut`: the words of a layout.
* `CHeaders.Statement.betweenFeeds_laidOut`: the lines of an indented layout.
* `CHeaders.Statement.layout_of_indent`: what an indentation changes in a chain.
-/

namespace CHeaders.Statement

variable {m : Text} {parts : List Text}

/-- A layout has the words of its parts, if the indentation is white space. -/
theorem words_laidOut (hm : ∀ l ∈ m.letters, l.isIn Text.isBlank = true) (parts : List Text) :
    (laidOut m parts).words = parts.flatMap Text.words := by
  unfold laidOut
  split
  · exact Text.words_join rfl (by decide) parts
  · have hline (p : Text × Nat) :
        (⟨Value.repeated p.2 m.letters⟩ ++ p.1 : Text).words = p.1.words :=
      Text.words_append_left (fun l hl => hm l (Value.mem_of_mem_repeated hl)) p.1
    rw [Text.words_join rfl (by decide), List.flatMap_map]
    simp only [hline]
    rw [← List.flatMap_map Prod.fst Text.words, List.zipIdx_map_fst]

/-- Without other line feeds, the lines of an indented layout are the indented parts. -/
theorem betweenFeeds_laidOut (hne : parts ≠ []) (hindent : m.isEmpty = false) (hm : m.IsLine)
    (hparts : ∀ part ∈ parts, part.IsLine) :
    (laidOut m parts).betweenFeeds =
      parts.zipIdx.map fun p => ⟨Value.repeated p.2 m.letters⟩ ++ p.1 := by
  have hlines : ∀ line ∈ parts.zipIdx.map fun p => ⟨Value.repeated p.2 m.letters⟩ ++ p.1,
      line.betweenFeeds = [line] := by
    intro line hline
    obtain ⟨p, hp, rfl⟩ := List.mem_map.mp hline
    have hmargin : Text.IsLine ⟨Value.repeated p.2 m.letters⟩ :=
      fun hfeed => hm (Value.mem_of_mem_repeated hfeed)
    exact (hmargin.append (hparts p.1 (List.fst_mem_of_mem_zipIdx hp))).betweenFeeds_eq
  rw [laidOut, if_neg (by simp [hindent]), Text.betweenFeeds_join (by simpa using hne),
    List.flatMap_congr hlines, List.flatMap_singleton']

/-- Texts that are empty have no words. -/
theorem flatMap_words_filter (ts : List Text) :
    (ts.filter (!·.isEmpty)).flatMap Text.words = ts.flatMap Text.words := by
  induction ts with
  | nil => rfl
  | cons t ts ih =>
    rw [List.flatMap_cons, ← ih]
    by_cases hempty : t.isEmpty = true
    · obtain rfl : t = "" := Text.isEmpty_iff.mp hempty
      rfl
    · rw [List.filter_cons_of_pos (by simpa using hempty), List.flatMap_cons]

/-- A chain that is returned ends in a text with something in it. -/
theorem exists_text_of_chain {openings statement indent : Value} {text : Text}
    (h : (chain openings statement indent).result = .ok text) :
    ∃ s, statement.text? = some s ∧ Text.isInhabited s = true := by
  rw [chain, Outcome.result_bind_eq_ok_iff] at h
  obtain ⟨t, ht, -⟩ := h
  rw [Outcome.result_ofExcept] at ht
  obtain ⟨s, hs, hinhabited, -⟩ := exists_text_of_requireText ht
  exact ⟨s, hs, hinhabited⟩

/-- If a chain of texts is returned in one line, then it is also returned with any indentation of
white space. Both have the same words: those of the openings and of the statement. If there are an
indentation and no line feed in it, in the openings and in the statement without the white space
around it, then the lines of the indented chain are the openings that are not empty and the
statement, and in front of each stand as many copies of the indentation as there are lines above.

**Proof sketch.** Both chains are layouts of the same parts. What a layout puts between two parts is
white space, so it has the words of the parts, of which the empty ones have none. -/
theorem layout_of_indent {openings statement indent : Value} {vs : List Value} {ts : List Text}
    {plain : Text} (hitems : openings.items? = some vs)
    (hvs : List.Forall₂ (fun v t => v.text? = some t) vs ts) (hindent : indent.text? = some m)
    (hm : ∀ l ∈ m.letters, l.isIn Text.isBlank = true)
    (hplain : (chain openings statement (.text "")).result = .ok plain) :
    ∃ s laid, statement.text? = some s ∧ (chain openings statement indent).result = .ok laid ∧
      laid.words = plain.words ∧ plain.words = ts.flatMap Text.words ++ s.words ∧
      (m.isEmpty = false → m.IsLine → (∀ t ∈ ts, t.IsLine) → (Text.trim s).IsLine →
        laid.betweenFeeds = (ts.filter (!·.isEmpty) ++ [Text.trim s]).zipIdx.map
          fun p => ⟨Value.repeated p.2 m.letters⟩ ++ p.1) := by
  obtain ⟨s, hs, hinhabited⟩ := exists_text_of_chain hplain
  have hwords {n : Text} (hn : ∀ l ∈ n.letters, l.isIn Text.isBlank = true) :
      (laidOut n (ts.filter (!·.isEmpty) ++ [Text.trim s])).words =
        ts.flatMap Text.words ++ s.words := by
    rw [words_laidOut hn, List.flatMap_append, flatMap_words_filter, List.flatMap_singleton,
      Text.words_trim]
  rw [result_chain hitems hvs hs rfl, if_pos hinhabited] at hplain
  obtain rfl := Except.ok.inj hplain
  refine ⟨s, laidOut m (ts.filter (!·.isEmpty) ++ [Text.trim s]), hs, ?_, ?_, hwords (by decide),
    fun hne hline hts hstatement => ?_⟩
  · rw [result_chain hitems hvs hs hindent, if_pos hinhabited]
  · rw [hwords hm, hwords (by decide)]
  · refine betweenFeeds_laidOut (by simp) hne hline fun part hpart => ?_
    rcases List.mem_append.mp hpart with hpart | hpart
    · exact hts part (List.mem_of_mem_filter hpart)
    · exact List.mem_singleton.mp hpart ▸ hstatement

/-- Openings with white space in them and around them, and one that is empty. -/
def spacedTexts : List Text := ["a  b", "", "\tc "]

/-- Both layouts of a chain of these openings. -/
theorem layout_of_indent_spacedTexts :
    ∃ plain laid,
      (chain (.list (spacedTexts.map Value.text)) (.text " f();\n") (.text "")).result = .ok plain ∧
      (chain (.list (spacedTexts.map Value.text)) (.text " f();\n") (.text "  ")).result =
        .ok laid ∧
      laid.words = plain.words ∧ plain.words = ["a", "b", "c", "f();"] ∧
      laid.betweenFeeds = ["a  b", "  \tc ", "    f();"] := by
  have hitems : Value.items? (.list (spacedTexts.map Value.text)) =
      some (spacedTexts.map Value.text) := rfl
  have hvs : List.Forall₂ (fun (v : Value) t => v.text? = some t) (spacedTexts.map Value.text)
      spacedTexts := by
    rw [List.forall₂_map_left_iff]
    exact List.forall₂_same.mpr fun _ _ => rfl
  have hindent : Value.text? (.text "  ") = some "  " := rfl
  have hplain : (chain (.list (spacedTexts.map Value.text)) (.text " f();\n")
      (.text "")).result = .ok "a  b \tc  f();" := eq_ok_of_toOption (by decide +kernel)
  obtain ⟨s, laid, hs, hlaid, hwords, hplainWords, hlines⟩ :=
    layout_of_indent hitems hvs hindent (by decide) hplain
  obtain rfl := Option.some.inj hs
  refine ⟨_, laid, hplain, hlaid, hwords, hplainWords.trans (by decide +kernel), ?_⟩
  exact (hlines (by decide) (by decide) (by decide) (by decide +kernel)).trans (by decide +kernel)

end CHeaders.Statement
