import CHeaders.Proofs.Text.Lines

/-!
# Parts between separators

A separator may have several letters. The places where it stands are looked for from left to right,
and none of them reaches into another one. A text is cut at these places, and another text is put in
the place of the separator by joining the parts with it.

## Main definitions

* `CHeaders.Text.Holds`: the texts that hold another one.
* `CHeaders.Text.cut`: the parts of a text between the places where a separator stands.
* `CHeaders.Text.replace`: the text with another one in these places.

## Main results

* `CHeaders.Text.cut_join`: joined texts are found again if none of them has the first letter of the
  separator.
* `CHeaders.Text.replace_of_not_holds`: where nothing is to be replaced the text stays as it is.
-/

namespace CHeaders.Text

section Lists

variable {α : Type} [DecidableEq α] {sep new xs ys : List α} {x : α}

/-- The parts of a list between the places where `sep` stands, which is not empty. The number says
how many items still belong to the last of these places. -/
def cutFrom (sep : List α) : (skip : Nat) → List α → List (List α)
  | _, [] => [[]]
  | skip + 1, _ :: xs => cutFrom sep skip xs
  | 0, x :: xs =>
    if sep <+: x :: xs then [] :: cutFrom sep (sep.length - 1) xs
    else (cutFrom sep 0 xs).modifyHead (x :: ·)

/-- There is a part in front of the first separator. -/
theorem cutFrom_ne_nil (sep : List α) (skip : Nat) (xs : List α) : cutFrom sep skip xs ≠ [] := by
  fun_induction cutFrom sep skip xs with
  | case1 => exact List.cons_ne_nil _ _
  | case2 skip _ xs ih => exact ih
  | case3 => exact List.cons_ne_nil _ _
  | case4 x xs _ ih => simpa using ih

/-- Items that belong to a separator are passed over. -/
theorem cutFrom_append (xs ys : List α) : cutFrom sep xs.length (xs ++ ys) = cutFrom sep 0 ys := by
  induction xs with
  | nil => rfl
  | cons x xs ih => exact ih

/-- At a separator a new part begins. -/
theorem cutFrom_sep (sep : List α) (x : α) (ys : List α) :
    cutFrom (x :: sep) 0 (x :: sep ++ ys) = [] :: cutFrom (x :: sep) 0 ys := by
  have hpre : x :: sep <+: x :: (sep ++ ys) := List.prefix_append (x :: sep) ys
  rw [List.cons_append, cutFrom, if_pos hpre, List.length_cons, Nat.add_sub_cancel, cutFrom_append]

/-- An item with which no separator begins belongs to the part that begins with it. -/
theorem cutFrom_cons (h : ¬sep <+: x :: xs) :
    cutFrom sep 0 (x :: xs) = (cutFrom sep 0 xs).modifyHead (x :: ·) := by
  rw [cutFrom, if_neg h]

/-- Without a separator there is one part. -/
theorem cutFrom_of_not_infix (h : ¬sep <:+: xs) : cutFrom sep 0 xs = [xs] := by
  induction xs with
  | nil => rfl
  | cons x xs ih =>
    have hpre : ¬sep <+: x :: xs := fun hpre => h hpre.isInfix
    rw [cutFrom_cons hpre, ih fun hin => h (hin.trans (List.suffix_cons x xs).isInfix)]
    rfl

/-- Items that differ from the first one of a separator belong to the part that they stand in. -/
theorem cutFrom_of_not_mem {s : α} {sep : List α} (h : s ∉ xs) :
    cutFrom (s :: sep) 0 (xs ++ ys) = (cutFrom (s :: sep) 0 ys).modifyHead (xs ++ ·) := by
  induction xs with
  | nil =>
    obtain ⟨part, parts, hparts⟩ := List.exists_cons_of_ne_nil (cutFrom_ne_nil (s :: sep) 0 ys)
    rw [List.nil_append, hparts]
    rfl
  | cons x xs ih =>
    obtain ⟨hx, hxs⟩ := not_or.mp (mt List.mem_cons.mpr h)
    have hpre : ¬s :: sep <+: x :: (xs ++ ys) := fun hpre => hx (List.cons_prefix_cons.mp hpre).1
    rw [List.cons_append, cutFrom_cons hpre, ih hxs, List.modifyHead_modifyHead]
    rfl

/-- Lists with a separator between them are found again if its first item is in none of them. -/
theorem cutFrom_intercalate {s : α} {sep : List α} {ls : List (List α)} (hne : ls ≠ [])
    (h : ∀ l ∈ ls, s ∉ l) : cutFrom (s :: sep) 0 ((s :: sep).intercalate ls) = ls := by
  induction ls with
  | nil => exact absurd rfl hne
  | cons l ls ih =>
    obtain ⟨hl, hls⟩ := List.forall_mem_cons.mp h
    rcases ls with _ | ⟨m, ls⟩
    · rw [List.intercalate_singleton, ← List.append_nil l, cutFrom_of_not_mem hl]
      rfl
    · rw [List.intercalate_cons_cons, List.append_assoc, cutFrom_of_not_mem hl, cutFrom_sep,
        ih (List.cons_ne_nil m ls) hls]
      simp

/-- A list is put in the places of another one. -/
def replaceIn (old new xs : List α) : List α :=
  new.intercalate (cutFrom old 0 xs)

omit [DecidableEq α] in
/-- An item in front of the first part stands in front of the whole. -/
theorem intercalate_modifyHead {parts : List (List α)} (h : parts ≠ []) :
    new.intercalate (parts.modifyHead (x :: ·)) = x :: new.intercalate parts := by
  obtain ⟨part, parts, rfl⟩ := List.exists_cons_of_ne_nil h
  rcases parts with _ | ⟨next, parts⟩
  · simp [List.intercalate_singleton]
  · simp [List.intercalate_cons_cons]

/-- What is to be replaced is replaced. -/
theorem replaceIn_append (old : List α) (x : α) (new ys : List α) :
    replaceIn (x :: old) new (x :: old ++ ys) = new ++ replaceIn (x :: old) new ys := by
  rw [replaceIn, cutFrom_sep, List.intercalate_cons_of_ne_nil (cutFrom_ne_nil _ _ _)]
  rfl

/-- What is not to be replaced stays. -/
theorem replaceIn_cons {old : List α} (h : ¬old <+: x :: xs) :
    replaceIn old new (x :: xs) = x :: replaceIn old new xs := by
  rw [replaceIn, cutFrom_cons h, intercalate_modifyHead (cutFrom_ne_nil _ _ _)]
  rfl

end Lists

/-! ## Texts -/

/-- A text holds another one. -/
def Holds (t part : Text) : Prop :=
  part.letters <:+: t.letters

instance (t part : Text) : Decidable (Holds t part) :=
  inferInstanceAs (Decidable (_ <:+: _))

/-- The parts of a text between the places where the separator stands. -/
def cut (separator t : Text) : List Text :=
  (cutFrom separator.letters 0 t.letters).map mk

/-- The text with `new` in the places of `old`. -/
def replace (old new t : Text) : Text :=
  ⟨replaceIn old.letters new.letters t.letters⟩

/-- Joined texts are found again if the first letter of the separator is in none of them. -/
theorem cut_join {separator : Text} {l : Letter} (hsep : separator.letters.head? = some l)
    {ts : List Text} (hne : ts ≠ []) (h : ∀ t ∈ ts, l ∉ t.letters) :
    cut separator (join separator ts) = ts := by
  obtain ⟨ls, hls⟩ := List.head?_eq_some_iff.mp hsep
  rw [cut, letters_join, hls, cutFrom_intercalate (by simpa using hne) (List.forall_mem_map.mpr h),
    List.map_map]
  exact List.map_id ts

/-- Where nothing is to be replaced the text stays as it is. -/
theorem replace_of_not_holds {old t : Text} (h : ¬t.Holds old) (new : Text) :
    replace old new t = t := by
  rw [replace, replaceIn, cutFrom_of_not_infix h, List.intercalate_singleton]

end CHeaders.Text
