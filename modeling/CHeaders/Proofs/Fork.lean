import CHeaders.Proofs.Result
import Mathlib.Data.List.Forall2

/-!
# Lists that fork

Two lists fork if they are the same up to a place, and at that place both hold an item and the two
items are related. Nothing that is put in front of two such lists or behind them takes the fork
away. Lists that fork at items which differ are *apart*: neither of them begins with the other.

## Main definitions

* `CHeaders.Forks`: lists that fork at related items.
* `CHeaders.Apart`: lists that fork at items which differ.

## Main results

* `CHeaders.Forks.flatMap`: lists made of the items fork too.
* `CHeaders.apart_iff`: lists are apart exactly if nothing behind them makes them equal.
-/

namespace CHeaders

variable {α β : Type} {R : α → α → Prop}

/-- The lists are the same up to a place, and there `R` holds of their items. -/
inductive Forks (R : α → α → Prop) : List α → List α → Prop
  | here {x y : α} {xs ys : List α} (h : R x y) : Forks R (x :: xs) (y :: ys)
  | there {x : α} {xs ys : List α} (h : Forks R xs ys) : Forks R (x :: xs) (x :: ys)

/-- The lists are the same up to a place, and there they hold different items. -/
def Apart : List α → List α → Prop :=
  Forks (· ≠ ·)

namespace Forks

/-- The same may be put in front of lists that fork. -/
theorem append_left {xs ys : List α} (h : Forks R xs ys) (front : List α) :
    Forks R (front ++ xs) (front ++ ys) := by
  induction front with
  | nil => exact h
  | cons x front ih => exact .there ih

/-- Anything may be put behind lists that fork. -/
theorem append {xs ys : List α} (h : Forks R xs ys) (back back' : List α) :
    Forks R (xs ++ back) (ys ++ back') := by
  induction h with
  | here h => exact .here h
  | there _ ih => exact .there ih

/-- Items may be replaced one by one. -/
theorem map {S : β → β → Prop} {f : α → β} (hf : ∀ x y, R x y → S (f x) (f y)) {xs ys : List α}
    (h : Forks R xs ys) : Forks S (xs.map f) (ys.map f) := by
  induction h with
  | here h => exact .here (hf _ _ h)
  | there _ ih => exact .there ih

/-- Items may be replaced by lists that fork. -/
theorem flatMap {S : β → β → Prop} {f : α → List β} (hf : ∀ x y, R x y → Forks S (f x) (f y))
    {xs ys : List α} (h : Forks R xs ys) : Forks S (xs.flatMap f) (ys.flatMap f) := by
  induction h with
  | here h =>
    rw [List.flatMap_cons, List.flatMap_cons]
    exact (hf _ _ h).append _ _
  | there _ ih =>
    rw [List.flatMap_cons, List.flatMap_cons]
    exact ih.append_left _

/-- The same may be put beside the items, if there is enough of it. -/
theorem zip {S : β × α → β × α → Prop} (hS : ∀ z x y, R x y → S (z, x) (z, y)) {xs ys : List α}
    (h : Forks R xs ys) {zs : List β} (hlength : zs.length = xs.length) :
    Forks S (zs.zip xs) (zs.zip ys) := by
  induction h generalizing zs with
  | here h =>
    rcases zs with _ | ⟨z, zs⟩
    · simp at hlength
    · exact .here (hS z _ _ h)
  | there _ ih =>
    rcases zs with _ | ⟨z, zs⟩
    · simp at hlength
    · exact .there (ih (by simpa using hlength))

/-- Items may be replaced by results. -/
theorem mapM {ε : Type} {S : β → β → Prop} {f : α → Except ε β}
    (hf : ∀ x y z w, R x y → f x = .ok z → f y = .ok w → S z w) {xs ys : List α}
    (h : Forks R xs ys) {zs ws : List β} (hxs : xs.mapM f = .ok zs) (hys : ys.mapM f = .ok ws) :
    Forks S zs ws := by
  rw [mapM_eq_ok_iff] at hxs hys
  induction h generalizing zs ws with
  | here h =>
    rcases hxs with _ | ⟨hx, _⟩
    rcases hys with _ | ⟨hy, _⟩
    exact .here (hf _ _ _ _ h hx hy)
  | there _ ih =>
    rcases hxs with _ | ⟨hx, hxs⟩
    rcases hys with _ | ⟨hy, hys⟩
    obtain rfl := Except.ok.inj (hx.symm.trans hy)
    exact .there (ih hxs hys)

/-- Lists whose items are the same or related, one by one, are the same or fork. -/
theorem of_forall₂ {xs ys : List α} (h : List.Forall₂ (fun x y => x = y ∨ R x y) xs ys) :
    xs = ys ∨ Forks R xs ys := by
  induction h with
  | nil => exact .inl rfl
  | cons hxy _ ih =>
    rcases hxy with rfl | hxy
    · rcases ih with rfl | ih
      · exact .inl rfl
      · exact .inr (.there ih)
    · exact .inr (.here hxy)

end Forks

/-- Lists that are apart are not equal. -/
theorem Apart.ne {xs ys : List α} (h : Apart xs ys) : xs ≠ ys := by
  induction h with
  | here h =>
    intro heq
    exact h (List.cons.inj heq).1
  | there _ ih =>
    intro heq
    exact ih (List.cons.inj heq).2

/-- Lists are apart exactly if nothing that is put behind them makes them equal. -/
theorem apart_iff {xs ys : List α} : Apart xs ys ↔ ∀ back back', xs ++ back ≠ ys ++ back' := by
  constructor
  · intro h back back'
    exact Apart.ne (h.append back back')
  · intro h
    induction xs generalizing ys with
    | nil => exact absurd (by simp) (h ys [])
    | cons x xs ih =>
      rcases ys with _ | ⟨y, ys⟩
      · exact absurd (by simp) (h [] (x :: xs))
      · by_cases hxy : x = y
        · subst hxy
          refine .there (ih fun back back' heq => h back back' ?_)
          rw [List.cons_append, List.cons_append, heq]
        · exact .here hxy

/-- Lists of the same length that differ are apart. -/
theorem apart_of_length_eq {xs ys : List α} (hlength : xs.length = ys.length) (hne : xs ≠ ys) :
    Apart xs ys := by
  rw [apart_iff]
  intro back back' heq
  exact hne (List.append_inj_left heq hlength)

/-- Lists are apart if what is left of them is. -/
theorem Apart.of_filter {p : α → Bool} {xs ys : List α} (h : Apart (xs.filter p) (ys.filter p)) :
    Apart xs ys := by
  rw [apart_iff] at h ⊢
  intro back back' heq
  apply h (back.filter p) (back'.filter p)
  rw [← List.filter_append, ← List.filter_append, heq]

end CHeaders
