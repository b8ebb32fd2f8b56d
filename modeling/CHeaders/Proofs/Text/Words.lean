import CHeaders.Proofs.Text.Blank

/-!
# The words of a text

White space divides a text into words. How much of it stands between two words, and what stands in
front of the first word and behind the last one, does not matter, so joined texts have the words of
each of them, whatever white space they are joined with.

## Main definitions

* `CHeaders.Text.words`: the words of a text.

## Main results

* `CHeaders.Text.words_append_cons`: white space divides the words of a text.
* `CHeaders.Text.words_append_left`, `CHeaders.Text.words_append_right`, `CHeaders.Text.words_trim`:
  there are no words in the white space around a text.
* `CHeaders.Text.words_join`: the words of joined texts.
-/

namespace CHeaders.Text

/-- The words of a text: what stands between its white space. -/
def words (t : Text) : List Text :=
  ((t.letters.splitOnP (Letter.isIn isBlank)).map mk).filter (!·.isEmpty)

/-- White space divides the words in front of it from the ones behind it. -/
theorem words_append_cons {l : Letter} (hl : l.isIn isBlank = true) (front back : List Letter) :
    words ⟨front ++ l :: back⟩ = words ⟨front⟩ ++ words ⟨back⟩ := by
  rw [words, List.splitOnP_append_cons front back hl, List.map_append, List.filter_append]
  rfl

section Margin

variable {margin : List Letter}

/-- There are no words in the white space in front of a text. -/
theorem words_append_left (hmargin : ∀ l ∈ margin, l.isIn isBlank = true) (t : Text) :
    words (⟨margin⟩ ++ t) = words t := by
  induction margin with
  | nil => rfl
  | cons l margin ih =>
    obtain ⟨hl, hmargin⟩ := List.forall_mem_cons.mp hmargin
    exact (words_append_cons hl [] (margin ++ t.letters)).trans (ih hmargin)

/-- There are no words in the white space behind a text. -/
theorem words_append_right (hmargin : ∀ l ∈ margin, l.isIn isBlank = true) (t : Text) :
    words (t ++ ⟨margin⟩) = words t := by
  cases margin with
  | nil => exact congrArg (fun ls => words ⟨ls⟩) (List.append_nil t.letters)
  | cons l margin =>
    obtain ⟨hl, hmargin⟩ := List.forall_mem_cons.mp hmargin
    have hnone : words ⟨margin⟩ = [] := by
      rw [← List.append_nil margin]
      exact words_append_left hmargin ""
    exact (words_append_cons hl t.letters margin).trans (by rw [hnone, List.append_nil])

end Margin

/-- Cutting off white space leaves the words. -/
theorem words_trim (t : Text) : words (trim t) = words t := by
  obtain ⟨front, back, hfront, hback, hletters⟩ := exists_trim t
  have ht : t = ⟨front⟩ ++ trim t ++ ⟨back⟩ := congrArg mk hletters
  rw [ht, words_append_right hback, words_append_left hfront, ← ht]

/-- Joined texts have the words of each of them, if there is something between the texts and it is
white space. -/
theorem words_join {separator : Text} (hne : separator.isEmpty = false)
    (hblank : ∀ l ∈ separator.letters, l.isIn isBlank = true) (ts : List Text) :
    words (join separator ts) = ts.flatMap words := by
  have hbetween (s t : Text) : words (s ++ separator ++ t) = words s ++ words t := by
    rcases separator with ⟨_ | ⟨l, margin⟩⟩
    · cases hne
    · obtain ⟨hl, hmargin⟩ := List.forall_mem_cons.mp hblank
      rw [← words_append_left hmargin t, ← words_append_cons hl]
      exact congrArg (fun ls => words ⟨ls⟩) (List.append_assoc ..)
  induction ts with
  | nil => rfl
  | cons t ts ih =>
    rcases ts with _ | ⟨u, ts⟩
    · rw [join, List.flatMap_singleton]
    · rw [join, hbetween, ih]
      rfl

end CHeaders.Text
