import CHeaders.Outcome
import Mathlib.Data.List.Forall2

/-!
# Results of lists

Many functions of the library go through a list, do the same with each item and fail with the first
fault. This module says what such a walk returns, in terms of what is done with a single item, and
that the notices of an outcome have no influence on its result.

A result is *judged* by what is said of what is returned and of what goes wrong. The result of a
function that checks what it is given *decides* whether that is as it has to be. What is decided
follows the compositions and the walks that such functions are made of.

## Main definitions

* `CHeaders.Judged` — what is returned is as one predicate says, what goes wrong as another one.
* `CHeaders.Decides` — there is a result if and only if something holds.

## Main results

* `CHeaders.bind_eq_ok_iff`, `CHeaders.map_eq_ok_iff` — when a composition returns.
* `CHeaders.mapM_eq_ok_iff` — a walk returns if and only if each item has a result.
* `CHeaders.mapM_eq_error_iff` — a walk fails if and only if a first item does.
* `CHeaders.mapM_eq_ok_map` — the results of a walk that cannot fail.
* `CHeaders.exists_mem_of_mapM`, `CHeaders.exists_mapM_eq_ok_iff` — items and results of a walk.
* `CHeaders.Judged.bind`, `CHeaders.Judged.mapM` — judging compositions and walks.
* `CHeaders.Decides.bind`, `CHeaders.Decides.mapM` — what compositions and walks decide.
* `CHeaders.Outcome.result_mapM` — a walk that leaves notices has the result of the walk without
  them.
-/

namespace CHeaders

variable {ε α β : Type}

/-- A composition returns if and only if both parts do. -/
theorem bind_eq_ok_iff {x : Except ε α} {f : α → Except ε β} {b : β} :
    x >>= f = .ok b ↔ ∃ a, x = .ok a ∧ f a = .ok b := by
  cases x <;> simp [bind, Except.bind]

/-- What is made of a result returns if and only if there is one. -/
theorem map_eq_ok_iff {x : Except ε α} {f : α → β} {b : β} :
    x.map f = .ok b ↔ ∃ a, x = .ok a ∧ f a = b := by
  cases x <;> simp [Except.map]

/-- A computation returns what is left of it when faults are forgotten. -/
theorem eq_ok_of_toOption {x : Except ε α} {a : α} (h : x.toOption = some a) : x = .ok a := by
  cases x with
  | ok b => exact congrArg _ (Option.some.inj h)
  | error e => cases h

/-- A walk through a list returns if and only if each item has a result, and then it returns these
results in order. -/
theorem mapM_eq_ok_iff (f : α → Except ε β) (xs : List α) (ys : List β) :
    xs.mapM f = .ok ys ↔ List.Forall₂ (fun x y => f x = .ok y) xs ys := by
  induction xs generalizing ys with
  | nil => simp [pure, Except.pure, eq_comm]
  | cons x xs ih =>
    simp only [List.mapM_cons, List.forall₂_cons_left_iff, ← ih]
    rcases f x with e | y
    · simp [bind, Except.bind]
    · rcases xs.mapM f with e | zs <;> simp [bind, Except.bind, pure, Except.pure, eq_comm]

/-- A walk fails if and only if an item fails and all items in front of it have results, and then it
fails as this item does.

**Proof sketch.** By induction on the list. The walk goes on behind an item that has a result, and
this item stands in front of the one that fails. -/
theorem mapM_eq_error_iff {f : α → Except ε β} {xs : List α} {e : ε} :
    xs.mapM f = .error e ↔ ∃ front x back ys, xs = front ++ x :: back ∧
      List.Forall₂ (fun x y => f x = .ok y) front ys ∧ f x = .error e := by
  induction xs with
  | nil => simp [pure, Except.pure]
  | cons x xs ih =>
    rw [List.mapM_cons]
    constructor
    · intro h
      cases hx : f x with
      | error e' =>
        rw [hx] at h
        obtain rfl : e' = e := Except.error.inj h
        exact ⟨[], x, xs, [], rfl, .nil, hx⟩
      | ok y =>
        have hxs : xs.mapM f = .error e := by
          cases hxs : xs.mapM f with
          | error e' => simpa [hx, hxs, bind, Except.bind] using h
          | ok ys => simp [hx, hxs, bind, Except.bind, pure, Except.pure] at h
        obtain ⟨front, z, back, ys, rfl, hfront, hz⟩ := ih.mp hxs
        exact ⟨x :: front, z, back, y :: ys, rfl, .cons hx hfront, hz⟩
    · rintro ⟨front, z, back, ys, heq, hfront, hz⟩
      cases hfront with
      | nil =>
        obtain ⟨rfl, rfl⟩ := List.cons.inj heq
        rw [hz]
        rfl
      | cons hy hfront =>
        obtain ⟨rfl, rfl⟩ := List.cons.inj heq
        rw [hy, ih.mpr ⟨_, z, back, _, rfl, hfront, hz⟩]
        rfl

/-- The results of a walk in which each item has a known result. -/
theorem mapM_eq_ok_map {f : α → Except ε β} {g : α → β} {xs : List α}
    (h : ∀ x ∈ xs, f x = .ok (g x)) : xs.mapM f = .ok (xs.map g) := by
  rw [mapM_eq_ok_iff, List.forall₂_map_right_iff, List.forall₂_same]
  exact h

/-- Walks through lists whose items have the same results one by one have the same result. -/
theorem mapM_eq_of_forall₂ {f : α → Except ε β} {xs ys : List α}
    (h : List.Forall₂ (fun x y => f y = f x) xs ys) : ys.mapM f = xs.mapM f := by
  induction h with
  | nil => rfl
  | cons hxy _ ih => rw [List.mapM_cons, List.mapM_cons, hxy, ih]

/-- What a walk returns comes from the items. -/
theorem exists_mem_of_mapM {f : α → Except ε β} {xs : List α} {ys : List β}
    (h : xs.mapM f = .ok ys) : ∀ y ∈ ys, ∃ x ∈ xs, f x = .ok y := by
  rw [mapM_eq_ok_iff] at h
  induction h with
  | nil => simp
  | cons hxy _ ih =>
    refine List.forall_mem_cons.mpr ⟨⟨_, List.mem_cons_self, hxy⟩, fun z hz => ?_⟩
    obtain ⟨x, hx, hxz⟩ := ih z hz
    exact ⟨x, List.mem_cons_of_mem _ hx, hxz⟩

/-- In a walk that returns every item has a result. -/
theorem exists_ok_of_mapM {f : α → Except ε β} {xs : List α} {ys : List β}
    (h : xs.mapM f = .ok ys) : ∀ x ∈ xs, ∃ y, f x = .ok y := by
  rw [mapM_eq_ok_iff] at h
  induction h with
  | nil => simp
  | cons hxy _ ih => exact List.forall_mem_cons.mpr ⟨⟨_, hxy⟩, ih⟩

/-- A walk returns if and only if every item has a result. -/
theorem exists_mapM_eq_ok_iff {f : α → Except ε β} {xs : List α} :
    (∃ ys, xs.mapM f = .ok ys) ↔ ∀ x ∈ xs, ∃ y, f x = .ok y := by
  refine ⟨fun ⟨ys, hys⟩ => exists_ok_of_mapM hys, fun h => ?_⟩
  induction xs with
  | nil => exact ⟨[], rfl⟩
  | cons x xs ih =>
    obtain ⟨⟨y, hy⟩, hxs⟩ := List.forall_mem_cons.mp h
    obtain ⟨ys, hys⟩ := ih hxs
    rw [mapM_eq_ok_iff] at hys
    exact ⟨y :: ys, (mapM_eq_ok_iff _ _ _).mpr (.cons hy hys)⟩

/-! ## Judgements -/

/-- What is returned is as `P` says, and what goes wrong is as `E` says. -/
def Judged (P : α → Prop) (E : ε → Prop) : Except ε α → Prop
  | .ok a => P a
  | .error e => E e

namespace Judged

variable {P P' : α → Prop} {Q : β → Prop} {E E' : ε → Prop} {x : Except ε α}

/-- What is said of whatever is returned holds of the result. -/
theorem of_eq_ok {a : α} (h : Judged P E x) (hx : x = .ok a) : P a := by
  rwa [hx] at h

/-- A judgement may say less. -/
theorem imp (h : Judged P E x) (hP : ∀ a, P a → P' a) (hE : ∀ e, E e → E' e) :
    Judged P' E' x := by
  cases x with
  | ok a => exact hP a h
  | error e => exact hE e h

/-- A composition is judged part by part. -/
theorem bind {f : α → Except ε β} (h : Judged P E x) (hE : ∀ e, E e → E' e)
    (hf : ∀ a, P a → Judged Q E' (f a)) : Judged Q E' (x >>= f) := by
  cases x with
  | ok a => exact hf a h
  | error e => exact hE e h

/-- What is made of a result is judged by the result. -/
theorem map {f : α → β} (h : Judged P E x) (hf : ∀ a, P a → Q (f a)) : Judged Q E (x.map f) := by
  cases x with
  | ok a => exact hf a h
  | error e => exact h

/-- A walk is judged item by item. -/
theorem mapM {P : β → Prop} {f : α → Except ε β} {xs : List α}
    (h : ∀ x ∈ xs, Judged P E (f x)) : Judged (fun ys => ∀ y ∈ ys, P y) E (xs.mapM f) := by
  induction xs with
  | nil => exact fun _ hy => absurd hy List.not_mem_nil
  | cons x xs ih =>
    obtain ⟨hx, hxs⟩ := List.forall_mem_cons.mp h
    rw [List.mapM_cons]
    refine hx.bind (fun _ he => he) fun y hy => (ih hxs).bind (fun _ he => he) fun ys hys => ?_
    exact List.forall_mem_cons.mpr ⟨hy, hys⟩

end Judged

/-- The result says whether `A` holds: something that is as `P` says is returned if it does, and
what goes wrong if it does not is as `E` says. -/
def Decides (A : Prop) (P : α → Prop) (E : ε → Prop) : Except ε α → Prop :=
  Judged (fun a => A ∧ P a) (fun e => ¬A ∧ E e)

namespace Decides

variable {A B : Prop} {P P' : α → Prop} {Q : β → Prop} {E E' : ε → Prop} {x : Except ε α}

/-- There is a result if and only if `A` holds. -/
theorem exists_ok_iff (h : Decides A P E x) : (∃ a, x = .ok a) ↔ A := by
  cases x with
  | ok a => simpa using h.1
  | error e => simpa using h.1

/-- What is decided may be said in other words, and less may be said of the results. -/
theorem imp (h : Decides A P E x) (hA : A ↔ B) (hP : ∀ a, P a → P' a) : Decides B P' E x :=
  Judged.imp h (fun a ha => ⟨hA.mp ha.1, hP a ha.2⟩) fun _ he => ⟨fun hB => he.1 (hA.mpr hB), he.2⟩

/-- A composition decides what both parts decide. -/
theorem bind {f : α → Except ε β} (h : Decides A P E x)
    (hf : ∀ a, A → P a → Decides B Q E (f a)) : Decides (A ∧ B) Q E (x >>= f) :=
  Judged.bind h (fun _ he => ⟨fun hAB => he.1 hAB.1, he.2⟩) fun a ha =>
    (hf a ha.1 ha.2).imp (and_iff_right ha.1).symm fun _ hQ => hQ

/-- What is made of the result decides the same. -/
theorem map {f : α → β} (h : Decides A P E x) (hf : ∀ a, A → P a → Q (f a)) :
    Decides A Q E (x >>= fun a => .ok (f a)) :=
  Judged.bind h (fun _ he => he) fun a ha => ⟨ha.1, hf a ha.1 ha.2⟩

/-- What goes wrong may be put in other terms. -/
theorem mapError {ε' : Type} {g : ε → ε'} {E' : ε' → Prop} (h : Decides A P E x)
    (hE : ∀ e, E e → E' (g e)) : Decides A P E' (x.mapError g) := by
  cases x with
  | ok a => exact h
  | error e => exact ⟨h.1, hE e h.2⟩

/-- A walk decides whether all items are as they have to be. -/
theorem mapM {A : α → Prop} {P : β → Prop} {E : ε → Prop} {f : α → Except ε β} {xs : List α}
    (h : ∀ x ∈ xs, Decides (A x) P E (f x)) :
    Decides (∀ x ∈ xs, A x) (fun ys => ∀ y ∈ ys, P y) E (xs.mapM f) := by
  induction xs with
  | nil => exact ⟨by simp, by simp⟩
  | cons x xs ih =>
    obtain ⟨hx, hxs⟩ := List.forall_mem_cons.mp h
    rw [List.mapM_cons]
    refine Decides.imp (hx.bind fun y _ hy => ?_) List.forall_mem_cons.symm fun _ hys => hys
    exact (ih hxs).map fun ys _ hys => List.forall_mem_cons.mpr ⟨hy, hys⟩

end Decides

namespace Outcome

/-- What is returned at once is the result. -/
@[simp] theorem result_pure (a : α) : (pure a : Outcome α).result = .ok a := rfl

/-- A computation without notices has its own result. -/
@[simp] theorem result_ofExcept (r : Except Fault α) : (ofExcept r).result = r := rfl

/-- A notice does not fail. -/
@[simp] theorem result_note (n : Notice) : (note n).result = .ok () := rfl

/-- A composition returns if and only if both parts do. -/
theorem result_bind_eq_ok_iff {x : Outcome α} {f : α → Outcome β} {b : β} :
    (x >>= f).result = .ok b ↔ ∃ a, x.result = .ok a ∧ (f a).result = .ok b := by
  rw [result_bind]
  exact bind_eq_ok_iff

/-- Notices have no influence on the results of a walk. -/
theorem result_mapM (f : α → Outcome β) (xs : List α) :
    (xs.mapM f).result = xs.mapM fun x => (f x).result := by
  induction xs with
  | nil => rfl
  | cons x xs ih =>
    simp only [List.mapM_cons, result_bind, ih]
    rfl

end Outcome

end CHeaders
