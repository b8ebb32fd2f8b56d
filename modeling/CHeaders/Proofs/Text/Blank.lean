import CHeaders.Text.Class
import Mathlib.Data.List.DropRight

/-!
# Texts with something in them

A text is inhabited if it holds a letter that is not white space. Joined texts are inhabited if one
of them is. A text is trimmed if it neither begins nor ends with white space.

## Main definitions

* `CHeaders.Text.IsTrimmed`: there is no white space at the ends of a text.

## Main results

* `CHeaders.Text.isInhabited_append`: texts that are put together.
* `CHeaders.Text.isEmpty_iff`, `CHeaders.Text.isEmpty_eq_false`: the empty text, and that an
  inhabited one is not empty.
* `CHeaders.Text.exists_trim`: what trimming cuts off.
* `CHeaders.Text.isTrimmed_trim`, `CHeaders.Text.IsTrimmed.trim_eq`: the trimmed texts are what
  trimming gives, and what it leaves as it is.
-/

namespace CHeaders.Text

/-- Texts that are put together hold something if one of them does. -/
@[simp] theorem isInhabited_append (s t : Text) :
    isInhabited (s ++ t) = (isInhabited s || isInhabited t) := by
  simp only [isInhabited, letters_append, List.any_append]

/-- A text without letters is the empty one. -/
theorem isEmpty_iff {t : Text} : t.isEmpty = true ↔ t = "" := by
  rcases t with ⟨_ | ⟨l, ls⟩⟩
  · exact iff_of_true rfl rfl
  · refine iff_of_false Bool.false_ne_true fun h => ?_
    cases congrArg letters h

/-- A text that holds something is not empty. -/
theorem isEmpty_eq_false {t : Text} (h : isInhabited t = true) : t.isEmpty = false := by
  rcases t with ⟨_ | ⟨l, ls⟩⟩
  · simp [isInhabited] at h
  · rfl

/-- A text with a last letter is not empty. -/
theorem isEmpty_of_getLast? {t : Text} {l : Letter} (h : t.letters.getLast? = some l) :
    t.isEmpty = false := by
  rcases t with ⟨_ | ⟨m, ls⟩⟩
  · cases h
  · rfl

/-- Joined texts hold something if the first of them does. -/
theorem isInhabited_join {separator x : Text} {xs : List Text} (h : isInhabited x = true) :
    isInhabited (join separator (x :: xs)) = true := by
  cases xs with
  | nil => exact h
  | cons y ys => simp [join, h]

/-! ## Trimmed texts -/

/-- There is no white space at the ends of a text. -/
structure IsTrimmed (t : Text) : Prop where
  head : ∀ l, t.letters.head? = some l → l.isIn isBlank = false
  last : ∀ l, t.letters.getLast? = some l → l.isIn isBlank = false

/-- White space in front is cut off. -/
theorem not_blank_of_head_dropBlank {ls : List Letter} {l : Letter}
    (h : (dropBlank ls).head? = some l) : l.isIn isBlank = false := by
  have hhead := List.head?_dropWhile_not (Letter.isIn isBlank) ls
  rw [dropBlank] at h
  rw [h] at hhead
  simpa using hhead

/-- If there is no white space in front, nothing is cut off there. -/
theorem dropBlank_eq_self {ls : List Letter}
    (h : ∀ l, ls.head? = some l → l.isIn isBlank = false) : dropBlank ls = ls := by
  rcases ls with _ | ⟨l, ls⟩
  · rfl
  · exact List.dropWhile_cons_of_neg (by simp [h l rfl])

/-- Letters are the white space in front of them and what is left without it. -/
theorem takeWhile_append_dropBlank (ls : List Letter) :
    ls.takeWhile (Letter.isIn isBlank) ++ dropBlank ls = ls :=
  List.takeWhile_append_dropWhile

/-- A text is what trimming leaves of it, with white space around. -/
theorem exists_trim (t : Text) : ∃ front back : List Letter,
    (∀ l ∈ front, l.isIn isBlank = true) ∧ (∀ l ∈ back, l.isIn isBlank = true) ∧
      t.letters = front ++ (trim t).letters ++ back := by
  refine ⟨t.letters.takeWhile (Letter.isIn isBlank),
    ((dropBlank t.letters).reverse.takeWhile (Letter.isIn isBlank)).reverse,
    fun l => List.mem_takeWhile_imp,
    fun l hl => List.mem_takeWhile_imp (List.mem_reverse.mp hl), ?_⟩
  rw [List.append_assoc, trim, ← List.reverse_append, takeWhile_append_dropBlank,
    List.reverse_reverse, takeWhile_append_dropBlank]

/-- A text whose ends have been cut off is trimmed. -/
theorem isTrimmed_trim (t : Text) : IsTrimmed (trim t) := by
  constructor
  · intro l hl
    obtain ⟨cut, hcut⟩ := List.rdropWhile_prefix (Letter.isIn isBlank) (dropBlank t.letters)
    have hhead : (dropBlank t.letters).head? = some l := by
      rw [← hcut, List.head?_append]
      exact Option.or_eq_some_iff.mpr (.inl hl)
    exact not_blank_of_head_dropBlank hhead
  · intro l hl
    rw [trim, List.getLast?_reverse] at hl
    exact not_blank_of_head_dropBlank hl

/-- Of a trimmed text nothing is cut off. -/
theorem IsTrimmed.trim_eq {t : Text} (h : IsTrimmed t) : trim t = t := by
  have hlast : ∀ l, t.letters.reverse.head? = some l → l.isIn isBlank = false := by
    intro l hl
    exact h.last l (by rwa [List.head?_reverse] at hl)
  rw [trim, dropBlank_eq_self h.head, dropBlank_eq_self hlast, List.reverse_reverse]

end CHeaders.Text
