import CHeaders.Plan.Header
import CHeaders.Proofs.Fork
import CHeaders.Proofs.Text.Blank

/-!
# The ink of a text

Headers are laid out with white space, and white space around names and declarations is cut off.
What always stays is the *ink* of a text: its letters that are not white space. The ink of joined
texts is their joined ink, whatever blank text stands between them.

## Main definitions

* `CHeaders.Text.ink`: the letters of a text that are not white space.

## Main results

* `CHeaders.Text.ink_append`: texts that are put together.
* `CHeaders.Text.ink_trim`: cutting off white space leaves the ink.
* `CHeaders.Text.apart_join`, `CHeaders.Text.apart_commas`: joined texts are apart if the texts
  fork.
-/

namespace CHeaders.Text

/-- The letters of a text that are not white space. -/
def ink (t : Text) : List Letter :=
  t.letters.filter fun l => !l.isIn isBlank

/-- The ink of texts that are put together. -/
@[simp] theorem ink_append (s t : Text) : ink (s ++ t) = ink s ++ ink t := by
  simp only [ink, letters_append, List.filter_append]

/-- The ink of strings that are put together. -/
@[simp] theorem ink_ofString_append (s t : String) :
    ink (Text.ofString (s ++ t)) = ink (Text.ofString s) ++ ink (Text.ofString t) := by
  rw [ofString_append, ink_append]

/-- White space in front of letters holds no ink. -/
theorem filter_dropBlank (ls : List Letter) :
    (dropBlank ls).filter (fun l => !l.isIn isBlank) = ls.filter fun l => !l.isIn isBlank := by
  induction ls with
  | nil => rfl
  | cons l ls ih =>
    by_cases hl : l.isIn isBlank = true
    · rw [dropBlank, List.dropWhile_cons_of_pos hl, List.filter_cons_of_neg (by simp [hl])]
      exact ih
    · rw [dropBlank, List.dropWhile_cons_of_neg hl]

/-- Cutting off white space leaves the ink. -/
@[simp] theorem ink_trim (t : Text) : ink (trim t) = ink t := by
  unfold ink trim
  rw [List.filter_reverse, filter_dropBlank, List.filter_reverse, List.reverse_reverse,
    filter_dropBlank]

/-- An empty text holds no ink. -/
theorem ink_of_isEmpty {t : Text} (h : t.isEmpty = true) : ink t = [] := by
  rw [isEmpty_iff.mp h]
  rfl

/-! ## Joined texts -/

/-- Texts that are joined by white space keep their ink. -/
theorem ink_join {separator : Text} (h : ink separator = []) (ts : List Text) :
    ink (join separator ts) = ts.flatMap ink := by
  induction ts with
  | nil => rfl
  | cons t ts ih =>
    rcases ts with _ | ⟨u, ts⟩
    · simp [join]
    · rw [join, ink_append, ink_append, h, ih, List.append_nil]
      exact List.flatMap_cons.symm

/-- The ink of joined texts of which one is the first. -/
theorem ink_join_cons (separator t : Text) (ts : List Text) :
    ink (join separator (t :: ts)) = ink t ++ ts.flatMap fun u => ink separator ++ ink u := by
  induction ts generalizing t with
  | nil => simp [join]
  | cons u ts ih =>
    rw [join, ink_append, ink_append, ih, List.flatMap_cons, List.append_assoc, List.append_assoc]

/-- Joined texts are apart if the texts fork where their ink is apart. -/
theorem apart_join (separator : Text) {ts us : List Text}
    (h : Forks (fun t u => Apart (ink t) (ink u)) ts us) :
    Apart (ink (join separator ts)) (ink (join separator us)) := by
  cases h with
  | here h =>
    rw [ink_join_cons, ink_join_cons]
    exact h.append _ _
  | there h =>
    rw [ink_join_cons, ink_join_cons]
    refine Forks.append_left (h.flatMap fun t u htu => ?_) _
    exact htu.append_left _

/-- Strings with commas between them are texts that are joined. -/
theorem ofString_commas (ss : List String) :
    Text.ofString (commas ss) = join ", " (ss.map Text.ofString) := by
  induction ss with
  | nil => rfl
  | cons s ss ih =>
    rcases ss with _ | ⟨u, ss⟩
    · rfl
    · rw [commas_cons_cons, ofString_append, ofString_append, ih]
      rfl

/-- Strings with commas between them are apart if the strings fork where their ink is apart. -/
theorem apart_commas {ss us : List String}
    (h : Forks (fun s u => Apart (ink (Text.ofString s)) (ink (Text.ofString u))) ss us) :
    Apart (ink (Text.ofString (commas ss))) (ink (Text.ofString (commas us))) := by
  rw [ofString_commas, ofString_commas]
  exact apart_join ", " (Forks.map (f := Text.ofString) (fun _ _ h => h) h)

/-- Strings with commas between them begin with the first one. -/
theorem exists_commas_cons (s : String) (ss : List String) :
    ∃ back, commas (s :: ss) = s ++ back := by
  rcases ss with _ | ⟨u, ss⟩
  · exact ⟨"", (String.append_empty).symm⟩
  · exact ⟨", " ++ commas (u :: ss), by rw [commas_cons_cons, String.append_assoc]⟩

end CHeaders.Text
