import CHeaders.Fragment
import CHeaders.Proofs.Text.Blank
import Mathlib.Data.List.Forall2

/-!
# Joining pieces

Pieces are joined whatever kinds of texts they are. The empty ones are left out. So it does not
matter in which groups texts are joined: a group is joined to an empty text if and only if there is
nothing in it, and then it is left out itself. The separator may be empty, and nothing is asked of
the letters in it.

## Main definitions

* `CHeaders.Text.joinFilled`: the texts that are not empty with a separator between neighbours.

## Main results

* `CHeaders.Fragment.join_eq_ok`: pieces that are texts are joined, but for the empty ones.
* `CHeaders.Text.join_append`: joined texts behind joined texts.
* `CHeaders.Text.joinFilled_eq_empty_iff`: when there is nothing to be joined.
* `CHeaders.Text.joinFilled_append`: texts may be joined in groups.
-/

namespace CHeaders

/-! ## Pieces that are texts -/

namespace Fragment

/-- The pieces that are texts are these texts. -/
theorem texts_eq_ok {vs : List Value} {ts : List Text}
    (h : List.Forall₂ (fun v t => v.text? = some t) vs ts) (index : Nat) :
    texts index vs = .ok ts := by
  induction h generalizing index with
  | nil => rfl
  | cons hv _ ih =>
    rw [texts, hv, ih]
    rfl

/-- A text counts as true if it is not empty. -/
theorem isTrue_of_text? {v : Value} {t : Text} (h : v.text? = some t) : v.isTrue = !t.isEmpty := by
  cases v <;> cases h <;> rfl

/-- Of pieces that are texts the empty ones count as false. -/
theorem forall₂_filter_isTrue {vs : List Value} {ts : List Text}
    (h : List.Forall₂ (fun v t => v.text? = some t) vs ts) :
    List.Forall₂ (fun v t => v.text? = some t) (vs.filter Value.isTrue)
      (ts.filter fun t => !t.isEmpty) := by
  induction h with
  | nil => exact .nil
  | @cons v t _ _ hv _ ih =>
    have htrue := isTrue_of_text? hv
    cases ht : t.isEmpty with
    | true =>
      rw [List.filter_cons_of_neg (by simp [htrue, ht]), List.filter_cons_of_neg (by simp [ht])]
      exact ih
    | false =>
      rw [List.filter_cons_of_pos (by simp [htrue, ht]), List.filter_cons_of_pos (by simp [ht])]
      exact .cons hv ih

/-- Pieces that are texts are joined, but for the empty ones. -/
theorem join_eq_ok (separator : Text) {vs : List Value} {ts : List Text}
    (h : List.Forall₂ (fun v t => v.text? = some t) vs ts) :
    join separator vs = .ok (Text.join separator (ts.filter fun t => !t.isEmpty)) := by
  rw [join, texts_eq_ok (forall₂_filter_isTrue h)]
  rfl

end Fragment

/-! ## Groups of texts -/

namespace Text

variable {separator : Text} {ts us : List Text}

/-- Joined texts behind joined texts have a separator in front of them, if there are texts on both
sides. -/
theorem join_append (hts : ts ≠ []) (hus : us ≠ []) :
    join separator (ts ++ us) = join separator ts ++ separator ++ join separator us := by
  induction ts with
  | nil => exact absurd rfl hts
  | cons t ts ih =>
    cases ts with
    | nil =>
      obtain ⟨u, us, rfl⟩ := List.exists_cons_of_ne_nil hus
      rfl
    | cons t' ts =>
      have hrest := ih (List.cons_ne_nil t' ts)
      rw [List.cons_append] at hrest
      simp only [List.cons_append, join, hrest, append_assoc]

/-- Joined texts are not empty if the first of them is not. -/
theorem isEmpty_join_cons {t : Text} (ht : t.isEmpty = false) (ts : List Text) :
    (join separator (t :: ts)).isEmpty = false := by
  rcases t with ⟨_ | ⟨l, ls⟩⟩
  · cases ht
  · cases ts <;> rfl

/-! ## Leaving out the empty texts -/

/-- The texts that are not empty with `separator` between neighbours. -/
def joinFilled (separator : Text) (ts : List Text) : Text :=
  join separator (ts.filter (!·.isEmpty))

/-- What is joined is empty if and only if nothing is left when the empty texts are left out: the
first text that is left would stand in front. -/
theorem isEmpty_joinFilled_iff :
    (joinFilled separator ts).isEmpty = true ↔ ts.filter (!·.isEmpty) = [] := by
  rw [joinFilled]
  cases hleft : ts.filter (!·.isEmpty) with
  | nil => exact iff_of_true rfl rfl
  | cons t rest =>
    have ht : t ∈ ts.filter (!·.isEmpty) := by
      rw [hleft]
      exact List.mem_cons_self
    have hfilled : t.isEmpty = false := by
      simpa using (List.mem_filter.mp ht).2
    rw [isEmpty_join_cons hfilled]
    exact iff_of_false Bool.false_ne_true (List.cons_ne_nil t rest)

/-- What is joined is empty if and only if every text is. -/
theorem joinFilled_eq_empty_iff : joinFilled separator ts = "" ↔ ∀ t ∈ ts, t = "" := by
  rw [← isEmpty_iff, isEmpty_joinFilled_iff, List.filter_eq_nil_iff]
  simp only [Bool.not_eq_true, Bool.not_eq_false', isEmpty_iff]

/-- Empty texts are left out wherever they stand. -/
theorem joinFilled_insert (separator : Text) {empties : List Text} (h : ∀ t ∈ empties, t = "")
    (front back : List Text) :
    joinFilled separator (front ++ empties ++ back) = joinFilled separator (front ++ back) := by
  have hempty : joinFilled separator empties = "" := joinFilled_eq_empty_iff.mpr h
  have hnone : empties.filter (!·.isEmpty) = [] :=
    isEmpty_joinFilled_iff.mp (isEmpty_iff.mpr hempty)
  simp only [joinFilled, List.filter_append, hnone, List.append_nil]

/-- A single text stays what it is. -/
theorem joinFilled_singleton (t : Text) : joinFilled separator [t] = t := by
  cases ht : t.isEmpty with
  | true =>
    rw [isEmpty_iff.mp ht]
    rfl
  | false => simp [joinFilled, ht, join]

/-- Two groups of texts may be joined first, and then what they are joined to.

**Proof sketch.** If a group is joined to an empty text, then there are only empty texts in it, and
both it and what it is joined to are left out. If neither group is, then something is left of both,
and the separator stands once between what they are joined to. -/
theorem joinFilled_append (separator : Text) (ts us : List Text) :
    joinFilled separator (ts ++ us) =
      joinFilled separator [joinFilled separator ts, joinFilled separator us] := by
  by_cases hts : joinFilled separator ts = ""
  · have hgroup : joinFilled separator (ts ++ us) = joinFilled separator us :=
      joinFilled_insert separator (joinFilled_eq_empty_iff.mp hts) [] us
    have hpair : joinFilled separator ["", joinFilled separator us] = joinFilled separator us :=
      joinFilled_singleton (joinFilled separator us)
    rw [hts, hgroup, hpair]
  by_cases hus : joinFilled separator us = ""
  · have hgroup : joinFilled separator (ts ++ us) = joinFilled separator ts := by
      have hinsert := joinFilled_insert separator (joinFilled_eq_empty_iff.mp hus) ts []
      rwa [List.append_nil, List.append_nil] at hinsert
    have hempty : ∀ t ∈ [("" : Text)], t = "" := by simp
    have hpair : joinFilled separator [joinFilled separator ts, ""] = joinFilled separator ts :=
      (joinFilled_insert separator hempty [joinFilled separator ts] []).trans
        (joinFilled_singleton (joinFilled separator ts))
    rw [hus, hgroup, hpair]
  · rw [← isEmpty_iff] at hts hus
    have htsLeft : ts.filter (!·.isEmpty) ≠ [] := mt isEmpty_joinFilled_iff.mpr hts
    have husLeft : us.filter (!·.isEmpty) ≠ [] := mt isEmpty_joinFilled_iff.mpr hus
    have hpair (t u : Text) (ht : ¬t.isEmpty = true) (hu : ¬u.isEmpty = true) :
        joinFilled separator [t, u] = t ++ separator ++ u := by
      simp [joinFilled, ht, hu, join]
    calc joinFilled separator (ts ++ us)
        = join separator (ts.filter (!·.isEmpty) ++ us.filter (!·.isEmpty)) := by
          rw [joinFilled, List.filter_append]
      _ = joinFilled separator ts ++ separator ++ joinFilled separator us :=
          join_append htsLeft husLeft
      _ = joinFilled separator [joinFilled separator ts, joinFilled separator us] :=
          (hpair _ _ hts hus).symm

end Text

end CHeaders
