import CHeaders.Proofs.Text.Lines
import CHeaders.Text.Class
import Mathlib.Data.List.DropRight

/-!
# Names

A name in C is a letter or an underscore with letters, digits and underscores behind it, all of them
ASCII. What is accepted as an identifier is a name, or a name with one line feed behind it. So it is
a name if and only if it holds no line feed.

## Main definitions

* `CHeaders.Text.IsName`: the names.

## Main results

* `CHeaders.Text.IsName.append`: a name goes on with letters, digits and underscores.
* `CHeaders.Text.isIdentifier_iff`: what is accepted as an identifier.
* `CHeaders.Text.isLine_iff_isName`: a line feed tells names from what else is accepted.
-/

namespace CHeaders

/-- A letter in a class of characters is a character. -/
theorem Letter.exists_of_isIn {p : Char → Bool} {l : Letter} (h : l.isIn p = true) :
    ∃ c, l = .char c ∧ p c = true := by
  cases l with
  | char c => exact ⟨c, rfl, h⟩
  | half n => cases h

namespace Text

/-- The text is a name: an ASCII letter or an underscore, and behind it ASCII letters, digits and
underscores. -/
def IsName (t : Text) : Prop :=
  ∃ l ls, t.letters = l :: ls ∧ l.isIn startsIdentifier = true ∧
    ∀ m ∈ ls, m.isIn continuesIdentifier = true

variable {t u word : Text}

/-- What a name may begin with may stand in it. -/
theorem continuesIdentifier_of_starts {c : Char} (h : startsIdentifier c = true) :
    continuesIdentifier c = true := by
  rw [startsIdentifier, Bool.or_eq_true] at h
  rw [continuesIdentifier, Bool.or_eq_true, Char.isAlphanum, Bool.or_eq_true]
  exact h.imp_left .inl

namespace IsName

/-- All letters of a name are letters, digits and underscores. -/
theorem isIn_of_mem (h : t.IsName) : ∀ l ∈ t.letters, l.isIn continuesIdentifier = true := by
  obtain ⟨first, rest, hletters, hfirst, hrest⟩ := h
  rw [hletters]
  refine List.forall_mem_cons.mpr ⟨?_, hrest⟩
  obtain ⟨c, rfl, hc⟩ := Letter.exists_of_isIn hfirst
  exact continuesIdentifier_of_starts hc

/-- There is no line feed in a name. -/
theorem isLine (h : t.IsName) : t.IsLine := by
  intro hmem
  cases h.isIn_of_mem _ hmem

/-- A name goes on with letters, digits and underscores. -/
theorem append (h : t.IsName) (hu : ∀ l ∈ u.letters, l.isIn continuesIdentifier = true) :
    (t ++ u).IsName := by
  obtain ⟨first, rest, hletters, hfirst, hrest⟩ := h
  refine ⟨first, rest ++ u.letters, by rw [letters_append, hletters, List.cons_append], hfirst, ?_⟩
  exact List.forall_mem_append.mpr ⟨hrest, hu⟩

end IsName

/-- A list of characters is what is left of it, or it has a line feed behind that. -/
theorem dropFinalNewline_cases (cs : List Char) :
    cs = dropFinalNewline cs ∨ cs = dropFinalNewline cs ++ ['\n'] := by
  unfold dropFinalNewline
  split
  · next hlast => exact .inr (List.dropLast_append_getLast? _ hlast).symm
  · exact .inl rfl

/-- A text has the characters that it is made of. -/
theorem chars?_eq_some_iff {cs : List Char} : t.chars? = some cs ↔ t = ofChars cs := by
  refine ⟨fun h => ?_, fun h => h ▸ chars?_ofChars cs⟩
  obtain ⟨ls⟩ := t
  refine congrArg mk ?_
  change ls.mapM Letter.char? = some cs at h
  induction ls generalizing cs with
  | nil =>
    obtain rfl := Option.some.inj h
    rfl
  | cons l ls ih =>
    simp only [List.mapM_cons, Option.bind_eq_bind, Option.bind_eq_some_iff] at h
    obtain ⟨c, hc, rest, hrest, hcs⟩ := h
    obtain rfl := Option.some.inj hcs
    cases l with
    | char d => rw [List.map_cons, ← ih hrest, Option.some.inj hc]
    | half n => cases hc

/-- A name is made of characters. -/
theorem IsName.exists_ofChars (h : t.IsName) : ∃ c cs, t = ofChars (c :: cs) ∧
    startsIdentifier c = true ∧ ∀ d ∈ cs, continuesIdentifier d = true := by
  obtain ⟨first, rest, hletters, hfirst, hrest⟩ := h
  obtain ⟨c, rfl, hc⟩ := Letter.exists_of_isIn hfirst
  have hshown : ∀ l ∈ rest, (Letter.char ∘ Letter.shown) l = id l ∧
      continuesIdentifier l.shown = true := by
    intro l hl
    obtain ⟨d, rfl, hd⟩ := Letter.exists_of_isIn (hrest l hl)
    exact ⟨rfl, hd⟩
  refine ⟨c, rest.map Letter.shown, congrArg mk ?_, hc, ?_⟩
  · rw [hletters, List.map_cons, List.map_map, List.map_congr_left fun l hl => (hshown l hl).1,
      List.map_id]
  · exact List.forall_mem_map.mpr fun l hl => (hshown l hl).2

/-- Characters are an identifier if what is left of them without a line feed is a name. -/
theorem isIdentifier_ofChars {cs rest : List Char} {c : Char}
    (h : dropFinalNewline cs = c :: rest) :
    isIdentifier (ofChars cs) = (startsIdentifier c && rest.all continuesIdentifier) := by
  rw [isIdentifier, chars?_ofChars, Option.map_some, h]

/-- What is accepted as an identifier is a name, or a name with a line feed behind it.

**Proof sketch.** What is accepted is a name once a line feed at the end is dropped. A name has no
line feed itself, so nothing is dropped from it, and one behind it is dropped. -/
theorem isIdentifier_iff :
    isIdentifier t = true ↔ ∃ word, word.IsName ∧ (t = word ∨ t = word ++ "\n") := by
  constructor
  · intro h
    unfold isIdentifier at h
    split at h
    · next c rest hdropped =>
      obtain ⟨cs, hcs, hdrop⟩ := Option.map_eq_some_iff.mp hdropped
      obtain rfl := chars?_eq_some_iff.mp hcs
      rw [Bool.and_eq_true, List.all_eq_true] at h
      refine ⟨ofChars (c :: rest), ⟨.char c, rest.map .char, rfl, h.1, ?_⟩, ?_⟩
      · exact List.forall_mem_map.mpr h.2
      · rw [← hdrop]
        exact (dropFinalNewline_cases cs).imp (congrArg ofChars) fun hfeed => by
          conv_lhs => rw [hfeed]
          exact congrArg mk List.map_append
    · cases h
  · rintro ⟨word, hword, h⟩
    have hline := hword.isLine
    obtain ⟨c, cs, rfl, hc, hcs⟩ := hword.exists_ofChars
    have hplain : dropFinalNewline (c :: cs) = c :: cs := by
      refine if_neg fun hlast => hline ?_
      exact List.mem_map.mpr ⟨_, List.mem_of_getLast? hlast, rfl⟩
    have hfeed : dropFinalNewline (c :: cs ++ ['\n']) = c :: cs := by
      rw [dropFinalNewline, List.getLast?_concat, if_pos rfl, List.dropLast_concat]
    have happend : ofChars (c :: cs) ++ "\n" = ofChars (c :: cs ++ ['\n']) :=
      congrArg mk List.map_append.symm
    have hall : (startsIdentifier c && cs.all continuesIdentifier) = true := by
      rw [hc, Bool.true_and, List.all_eq_true]
      exact hcs
    rcases h with rfl | rfl
    · rw [isIdentifier_ofChars hplain, hall]
    · rw [happend, isIdentifier_ofChars hfeed, hall]

/-- What is accepted as an identifier is a name if and only if there is no line feed in it. -/
theorem isLine_iff_isName (h : isIdentifier t = true) : t.IsLine ↔ t.IsName := by
  refine ⟨fun hline => ?_, IsName.isLine⟩
  obtain ⟨word, hword, rfl | rfl⟩ := isIdentifier_iff.mp h
  · exact hword
  · exact absurd (List.mem_append_right _ List.mem_cons_self) hline

end Text

end CHeaders
