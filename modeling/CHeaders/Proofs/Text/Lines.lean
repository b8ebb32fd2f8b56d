import CHeaders.Text
import Mathlib.Data.List.Basic

/-!
# Lines that are found again

Lists with an item between them are found again if none of them holds the item. This is used twice:
texts without line feeds are found again between line feeds, and lines that are not empty are found
again in the paragraphs between empty lines.

## Main definitions

* `CHeaders.Text.IsLine`: the texts without line feeds.
* `CHeaders.Text.lines`: the lines of a text.

## Main results

* `CHeaders.Text.intercalate_inj`: lists with an item between them are found again.
* `CHeaders.Text.intercalate_concat`: lists with an item between them, from the last one.
* `CHeaders.Text.join_newline_inj`: lines are found again.
* `CHeaders.Text.append_left_cancel`, `CHeaders.Text.append_right_cancel`: texts of which an end is
  known.
* `CHeaders.Text.betweenFeeds_join`, `CHeaders.Text.lines_join`: the lines of joined texts.
-/

namespace CHeaders.Text

section Lists

variable {α : Type} {x : α} {ls ms : List (List α)}

/-- Lists with an item between them are found again if none of them holds the item. -/
theorem intercalate_inj [DecidableEq α] (hls : ∀ l ∈ ls, x ∉ l) (hms : ∀ m ∈ ms, x ∉ m)
    (hls_ne : ls ≠ []) (hms_ne : ms ≠ []) (h : [x].intercalate ls = [x].intercalate ms) :
    ls = ms := by
  rw [← List.splitOn_intercalate x hls hls_ne, h, List.splitOn_intercalate x hms hms_ne]

/-- With an item between lists there is one behind each of them but for the last. -/
theorem intercalate_concat (ls : List (List α)) (l : List α) :
    [x].intercalate (ls ++ [l]) = ls.flatMap (· ++ [x]) ++ l := by
  induction ls with
  | nil => exact List.intercalate_singleton
  | cons m ls ih =>
    rw [List.cons_append, List.intercalate_cons_of_ne_nil (by simp), ih, List.flatMap_cons]
    exact (List.append_assoc ..).symm

/-- What holds of an item between lists and of the items of the lists holds of all items. -/
theorem forall_mem_intercalate {P : α → Prop} (hx : P x) (h : ∀ l ∈ ls, ∀ y ∈ l, P y) :
    ∀ y ∈ [x].intercalate ls, P y := by
  induction ls with
  | nil => simp
  | cons l ls ih =>
    obtain ⟨hl, hls⟩ := List.forall_mem_cons.mp h
    rcases ls with _ | ⟨m, ls⟩
    · rwa [List.intercalate_singleton]
    · rw [List.intercalate_cons_cons]
      refine List.forall_mem_append.mpr ⟨List.forall_mem_append.mpr ⟨hl, ?_⟩, ih hls⟩
      exact List.forall_mem_singleton.mpr hx

end Lists

/-! ## Texts -/

/-- What follows a text is found again. -/
theorem append_left_cancel {s t u : Text} (h : s ++ t = s ++ u) : t = u := by
  have hletters := congrArg letters h
  rw [letters_append, letters_append] at hletters
  exact congrArg mk (List.append_cancel_left hletters)

/-- What precedes a text is found again. -/
theorem append_right_cancel {s t u : Text} (h : s ++ u = t ++ u) : s = t := by
  have hletters := congrArg letters h
  rw [letters_append, letters_append] at hletters
  exact congrArg mk (List.append_cancel_right hletters)

/-- There is no line feed in a text. -/
def IsLine (t : Text) : Prop :=
  .char '\n' ∉ t.letters

instance (t : Text) : Decidable (IsLine t) :=
  inferInstanceAs (Decidable (_ ∉ _))

/-- Texts without line feeds may be put together. -/
theorem IsLine.append {s t : Text} (hs : IsLine s) (ht : IsLine t) : IsLine (s ++ t) := by
  rw [IsLine, letters_append, List.mem_append]
  exact not_or.mpr ⟨hs, ht⟩

/-- The letters of joined texts. -/
theorem letters_join (separator : Text) (ts : List Text) :
    (join separator ts).letters = separator.letters.intercalate (ts.map letters) := by
  induction ts with
  | nil => rfl
  | cons t ts ih =>
    rcases ts with _ | ⟨u, ts⟩
    · exact List.intercalate_singleton.symm
    · rw [join, letters_append, letters_append, ih]
      exact List.intercalate_cons_cons.symm

/-- Lines are found again. -/
theorem join_newline_inj {ls ms : List Text} (hls : ∀ l ∈ ls, IsLine l) (hms : ∀ m ∈ ms, IsLine m)
    (hls_ne : ls ≠ []) (hms_ne : ms ≠ []) (h : join "\n" ls = join "\n" ms) : ls = ms := by
  have hletters := congrArg letters h
  rw [letters_join, letters_join] at hletters
  have hmap : ls.map letters = ms.map letters :=
    intercalate_inj (x := Letter.char '\n') (List.forall_mem_map.mpr hls)
      (List.forall_mem_map.mpr hms) (by simpa using hls_ne) (by simpa using hms_ne) hletters
  have hinj : Function.Injective letters := fun s t hst => congrArg mk hst
  exact List.map_injective_iff.mpr hinj hmap

/-! ## Lines of a text -/

section Split

variable {α : Type} [DecidableEq α] {c : α} {xs ys : List α}

/-- There is a part in front of the first separator. -/
theorem split_ne_nil (c : α) (xs : List α) : split c xs ≠ [] := by
  fun_cases split c xs <;> simp

/-- Without a separator there is one part. -/
theorem split_of_not_mem (h : c ∉ xs) : split c xs = [xs] := by
  induction xs with
  | nil => rfl
  | cons x xs ih =>
    obtain ⟨hx, hxs⟩ := not_or.mp (mt List.mem_cons.mpr h)
    rw [split, if_neg fun heq => hx heq.symm, ih hxs]

/-- A separator divides the parts in front of it from the ones behind it. -/
theorem split_append : split c (xs ++ c :: ys) = split c xs ++ split c ys := by
  induction xs with
  | nil => simp [split]
  | cons x xs ih =>
    by_cases hx : x = c
    · simp [split, hx, ih]
    · obtain ⟨part, parts, hparts⟩ := List.exists_cons_of_ne_nil (split_ne_nil c xs)
      simp [split, hx, ih, hparts]

/-- There is no separator in a part. -/
theorem not_mem_of_mem_split : ∀ part ∈ split c xs, c ∉ part := by
  induction xs with
  | nil => simp [split]
  | cons x xs ih =>
    by_cases hx : x = c
    · simpa [split, hx] using ih
    · obtain ⟨part, parts, hparts⟩ := List.exists_cons_of_ne_nil (split_ne_nil c xs)
      rw [hparts] at ih
      obtain ⟨hpart, hrest⟩ := List.forall_mem_cons.mp ih
      rw [split, if_neg hx, hparts]
      refine List.forall_mem_cons.mpr ⟨?_, hrest⟩
      exact fun hmem => (List.mem_cons.mp hmem).elim (fun heq => hx heq.symm) hpart

end Split

/-- The texts between the line feeds of a text. -/
def betweenFeeds (t : Text) : List Text :=
  (split (.char '\n') t.letters).map mk

/-- The lines of a text: a line feed ends each of them. -/
def lines (t : Text) : List Text :=
  t.betweenFeeds.dropLast

/-- A text without line feeds is a single line. -/
theorem IsLine.betweenFeeds_eq {t : Text} (h : t.IsLine) : t.betweenFeeds = [t] := by
  rw [betweenFeeds, split_of_not_mem h, List.map_singleton]

/-- A line feed divides the lines in front of it from the ones behind it. -/
theorem betweenFeeds_append (s t : Text) :
    betweenFeeds (s ++ "\n" ++ t) = s.betweenFeeds ++ t.betweenFeeds := by
  have hletters : (s ++ "\n" ++ t).letters = s.letters ++ .char '\n' :: t.letters :=
    List.append_assoc ..
  rw [betweenFeeds, hletters, split_append, List.map_append]
  rfl

/-- Behind a line feed at the end there is nothing. -/
theorem betweenFeeds_newline (t : Text) :
    betweenFeeds (t ++ "\n") = t.betweenFeeds ++ [("" : Text)] := by
  have hletters : (t ++ "\n").letters = t.letters ++ .char '\n' :: [] := rfl
  rw [betweenFeeds, hletters, split_append, List.map_append]
  rfl

/-- Line feeds between texts divide the lines of each of them. -/
theorem betweenFeeds_join {ls : List Text} (h : ls ≠ []) :
    betweenFeeds (join "\n" ls) = ls.flatMap betweenFeeds := by
  induction ls with
  | nil => exact absurd rfl h
  | cons l ls ih =>
    rcases ls with _ | ⟨m, ls⟩
    · exact (List.append_nil _).symm
    · rw [join, betweenFeeds_append, ih (List.cons_ne_nil m ls)]
      rfl

/-- Joined texts have the lines of each of them. -/
theorem lines_join {ls : List Text} (h : ls ≠ []) :
    lines (join "\n" ls ++ "\n") = ls.flatMap betweenFeeds := by
  rw [lines, betweenFeeds_newline, List.dropLast_concat, betweenFeeds_join h]

/-- There are no line feeds in the lines of a text. -/
theorem isLine_of_mem_lines {t l : Text} (h : l ∈ t.lines) : l.IsLine := by
  obtain ⟨part, hpart, rfl⟩ := List.mem_map.mp (List.dropLast_subset _ h)
  exact not_mem_of_mem_split part hpart

end CHeaders.Text
