import CHeaders.Proofs.Value.Composition

/-!
# Equality is an equivalence

Equality and likeness are symmetric and transitive. A set has no two items that are like each other,
and a mapping no two entries; it is only for this reason that one set is equal to another if each of
its items is like one of the other's: there are equally many, so no item of the other is left.

A value that is like anything is like itself. A value that is not a number is equal to nothing, so
not every value is equal to itself, and a chain of cells is if its heads and its end are.

## Main definitions

* `CHeaders.Value.IsProper`: the values without marks whose sets and mappings have no entry twice.

## Main results

* `CHeaders.exists_of_length_le`: a matching of a list with one that is not longer leaves nothing.
* `CHeaders.Value.IsProper.symm`, `CHeaders.Value.IsProper.trans`: symmetry and transitivity.
* `CHeaders.Value.IsProper.related_self`: what is related to anything is related to itself.
* `CHeaders.Value.IsProper.related_true_eq`: likeness is equality for what is equal to itself.
-/

namespace CHeaders

/-- If each item of a list has one in another list, and no two have the same, then each item of the
other is taken, provided that it is not longer.

**Proof sketch.** By induction on the first list. Its first item takes one of the other list, and
the other items have theirs among the rest, because no two have the same. The rest is not longer
than the other items, so all of it is taken. -/
theorem exists_of_length_le {α β : Type} {R : α → β → Prop} {xs : List α} :
    ∀ {ys : List β}, xs.Pairwise (fun x x' => ∀ y ∈ ys, R x y → ¬R x' y) → ys.length ≤ xs.length →
      (∀ x ∈ xs, ∃ y ∈ ys, R x y) → ∀ y ∈ ys, ∃ x ∈ xs, R x y := by
  induction xs with
  | nil =>
    intro ys _ hlength _ y hy
    rw [List.length_eq_zero_iff.mp (Nat.le_zero.mp hlength)] at hy
    cases hy
  | cons x xs ih =>
    intro ys hapart hlength h y hy
    obtain ⟨hx, hxs⟩ := List.pairwise_cons.mp hapart
    obtain ⟨⟨y₀, hy₀, hxy₀⟩, hrest⟩ := List.forall_mem_cons.mp h
    obtain ⟨front, back, rfl⟩ := List.append_of_mem hy₀
    -- The rest of `xs` is matched without the item that `x` has taken.
    have hothers : ∀ x' ∈ xs, ∃ y ∈ front ++ back, R x' y := by
      intro x' hx'
      obtain ⟨y', hy', hxy'⟩ := hrest x' hx'
      rw [List.mem_append, List.mem_cons] at hy'
      obtain hfront | rfl | hback := hy'
      · exact ⟨y', List.mem_append_left _ hfront, hxy'⟩
      · exact absurd hxy' (hx x' hx' y' hy₀ hxy₀)
      · exact ⟨y', List.mem_append_right _ hback, hxy'⟩
    have hsub : ∀ y ∈ front ++ back, y ∈ front ++ y₀ :: back := fun y hy =>
      (List.mem_append.mp hy).elim (List.mem_append_left _)
        fun hback => List.mem_append_right _ (List.mem_cons_of_mem _ hback)
    have htaken := ih (hxs.imp fun happart y hy => happart y (hsub y hy))
      (by simp only [List.length_append, List.length_cons] at hlength ⊢; omega) hothers
    rw [List.mem_append, List.mem_cons] at hy
    obtain hfront | rfl | hback := hy
    · obtain ⟨x', hx', hxy⟩ := htaken y (List.mem_append_left _ hfront)
      exact ⟨x', List.mem_cons_of_mem _ hx', hxy⟩
    · exact ⟨x, List.mem_cons_self, hxy₀⟩
    · obtain ⟨x', hx', hxy⟩ := htaken y (List.mem_append_right _ hback)
      exact ⟨x', List.mem_cons_of_mem _ hx', hxy⟩

namespace Value

open CHeaders.Value.Composition (Matches)

/-- Whether two lists of values are related item by item. -/
def AllRelated (loose : Bool) (xs ys : List Value) : Prop :=
  List.Forall₂ (fun x y => related loose x y = true) xs ys

/-- No two entries are alike if they come in any order. -/
def Composition.IsDistinct : Composition Value → Prop
  | .unordered _ entries => entries.Pairwise fun x y => ¬AllRelated true x y
  | _ => True

/-- The values without marks whose sets have no item twice and whose mappings have no entry
twice. -/
inductive IsProper : Value → Prop
  | mk {v : Value} (hmarked : v.isMarked = false) (hdistinct : v.composition.IsDistinct)
      (hparts : ∀ p ∈ v.composition.parts, IsProper p) : IsProper v

variable {loose : Bool} {u v w : Value} {xs ys zs : List Value} {c d e : Composition Value}

/-! ## Symmetry and transitivity -/

/-- Whether a value stands in a relation both ways if it stands in it one way. -/
def IsSymmAt (x : Value) : Prop :=
  ∀ loose y, IsProper y → related loose x y = true → related loose y x = true

/-- Whether a value is related to whatever is related to what it is related to. -/
def IsTransAt (x : Value) : Prop :=
  ∀ loose y z, IsProper y → IsProper z → related loose x y = true → related loose y z = true →
    related loose x z = true

/-- Lists are related both ways if their items are. -/
theorem AllRelated.symm (h : AllRelated loose xs ys) (hxs : ∀ x ∈ xs, IsSymmAt x)
    (hys : ∀ y ∈ ys, IsProper y) : AllRelated loose ys xs := by
  induction h with
  | nil => exact .nil
  | cons h _ ih =>
    obtain ⟨hx, hxs⟩ := List.forall_mem_cons.mp hxs
    obtain ⟨hy, hys⟩ := List.forall_mem_cons.mp hys
    exact .cons (hx _ _ hy h) (ih hxs hys)

/-- Lists are related if they are related to one in between, item by item. -/
theorem AllRelated.trans (h : AllRelated loose xs ys) (h' : AllRelated loose ys zs)
    (hxs : ∀ x ∈ xs, IsTransAt x) (hys : ∀ y ∈ ys, IsProper y) (hzs : ∀ z ∈ zs, IsProper z) :
    AllRelated loose xs zs := by
  induction h generalizing zs with
  | nil => exact h'
  | cons h _ ih =>
    cases h' with
    | cons h' hrest =>
      obtain ⟨hx, hxs⟩ := List.forall_mem_cons.mp hxs
      obtain ⟨hy, hys⟩ := List.forall_mem_cons.mp hys
      obtain ⟨hz, hzs⟩ := List.forall_mem_cons.mp hzs
      exact .cons (hx _ _ _ hy hz h h') (ih hrest hxs hys hzs)

/-- What holds of all parts holds of all parts of an entry. -/
theorem forall_mem_entry {P : Value → Prop} {kind : Unordered} {entries : List (List Value)}
    (h : ∀ p ∈ (Composition.unordered kind entries).parts, P p) {x : List Value}
    (hx : x ∈ entries) : ∀ p ∈ x, P p :=
  fun p hp => h p (List.mem_flatten.mpr ⟨x, hx, hp⟩)

/-- Compositions match both ways if their parts are related both ways. -/
theorem Composition.Matches.symm (h : Matches related loose c d) (hdistinct : c.IsDistinct)
    (hsymm : ∀ p ∈ c.parts, IsSymmAt p) (htrans : ∀ p ∈ c.parts, IsTransAt p)
    (hc : ∀ p ∈ c.parts, IsProper p) (hd : ∀ p ∈ d.parts, IsProper p) :
    Matches related loose d c := by
  cases h with
  | leaf h =>
    obtain ⟨k, hv, hw⟩ := leaf_related_iff.mp h
    exact .leaf (leaf_related_iff.mpr ⟨k, hw, hv⟩)
  | ordered h => exact .ordered (AllRelated.symm h hsymm hd)
  | @unordered kind xs ys hlength h =>
    refine .unordered hlength.symm fun y hy => ?_
    have happart : xs.Pairwise fun x x' =>
        ∀ y ∈ ys, AllRelated true x y → ¬AllRelated true x' y := by
      refine List.Pairwise.imp_of_mem (fun {x x'} hx hx' hne y hy hxy hx'y => hne ?_) hdistinct
      have hyx' := AllRelated.symm hx'y (forall_mem_entry hsymm hx') (forall_mem_entry hd hy)
      exact hxy.trans hyx' (forall_mem_entry htrans hx) (forall_mem_entry hd hy)
        (forall_mem_entry hc hx')
    obtain ⟨x, hx, hxy⟩ := exists_of_length_le happart (Nat.le_of_eq hlength.symm) h y hy
    exact ⟨x, hx, AllRelated.symm hxy (forall_mem_entry hsymm hx) (forall_mem_entry hd hy)⟩

/-- Compositions match if they match one in between. -/
theorem Composition.Matches.trans (h : Matches related loose c d) (h' : Matches related loose d e)
    (htrans : ∀ p ∈ c.parts, IsTransAt p) (hd : ∀ p ∈ d.parts, IsProper p)
    (he : ∀ p ∈ e.parts, IsProper p) : Matches related loose c e := by
  cases h with
  | leaf h =>
    cases h' with
    | leaf h' =>
      obtain ⟨k, hu, hv⟩ := leaf_related_iff.mp h
      obtain ⟨k', hv', hw⟩ := leaf_related_iff.mp h'
      exact .leaf (leaf_related_iff.mpr ⟨k, hu, hv.unique hv' ▸ hw⟩)
  | ordered h =>
    cases h' with
    | ordered h' => exact .ordered (AllRelated.trans h h' htrans hd he)
  | unordered hlength h =>
    cases h' with
    | unordered hlength' h' =>
      refine .unordered (hlength.trans hlength') fun x hx => ?_
      obtain ⟨y, hy, hxy⟩ := h x hx
      obtain ⟨z, hz, hyz⟩ := h' y hy
      exact ⟨z, hz, AllRelated.trans hxy hyz (forall_mem_entry htrans hx) (forall_mem_entry hd hy)
        (forall_mem_entry he hz)⟩

/-- A proper value has no mark around it. -/
theorem IsProper.isMarked_eq (hv : IsProper v) : v.isMarked = false := by
  cases hv with | mk hmarked => exact hmarked

/-- The parts of a proper value are proper. -/
theorem IsProper.parts (hv : IsProper v) : ∀ p ∈ v.composition.parts, IsProper p := by
  cases hv with | mk _ _ hparts => exact hparts

/-- Proper values are related both ways, and along others. The two are proved at once: that sets are
equal both ways rests on transitivity for their items. -/
theorem IsProper.isSymmAt_and_isTransAt (hu : IsProper u) : IsSymmAt u ∧ IsTransAt u := by
  induction hu with
  | mk hmarked hdistinct hparts ih =>
    refine ⟨fun loose v hv h => ?_, fun loose v w hv hw h h' => ?_⟩
    · rw [related_iff_matches hv.isMarked_eq]
      exact ((related_iff_matches hmarked).mp h).symm hdistinct (fun p hp => (ih p hp).1)
        (fun p hp => (ih p hp).2) hparts hv.parts
    · rw [related_iff_matches hmarked] at h ⊢
      exact h.trans ((related_iff_matches hv.isMarked_eq).mp h') (fun p hp => (ih p hp).2) hv.parts
        hw.parts

/-- Relation is symmetric. -/
theorem IsProper.symm (hu : IsProper u) (hv : IsProper v) (h : related loose u v = true) :
    related loose v u = true :=
  hu.isSymmAt_and_isTransAt.1 loose v hv h

/-- Relation is transitive. -/
theorem IsProper.trans (hu : IsProper u) (hv : IsProper v) (hw : IsProper w)
    (h : related loose u v = true) (h' : related loose v w = true) : related loose u w = true :=
  hu.isSymmAt_and_isTransAt.2 loose v w hv hw h h'

/-! ## Reflexivity -/

/-- What is related to anything is related to itself. -/
theorem IsProper.related_self (hu : IsProper u) (hv : IsProper v) (h : related loose u v = true) :
    related loose u u = true :=
  hu.trans hv hu h (hu.symm hv h)

/-- Each item of a list has one to which it is related in the other list. -/
theorem AllRelated.exists_of_mem (h : AllRelated loose xs ys) :
    ∀ x ∈ xs, ∃ y ∈ ys, related loose x y = true := by
  induction h with
  | nil => exact fun _ hx => absurd hx List.not_mem_nil
  | cons h _ ih =>
    refine List.forall_mem_cons.mpr ⟨⟨_, List.mem_cons_self, h⟩, fun x hx => ?_⟩
    obtain ⟨y, hy, hxy⟩ := ih x hx
    exact ⟨y, List.mem_cons_of_mem _ hy, hxy⟩

/-- Lists that are related are mapped to lists whose items are related by `S` if related items are
mapped to such items. -/
theorem AllRelated.forall₂_map {α : Type} {S : α → α → Prop} {f : Value → α}
    (h : AllRelated loose xs ys)
    (hS : ∀ x ∈ xs, ∀ y ∈ ys, related loose x y = true → S (f x) (f y)) :
    List.Forall₂ S (xs.map f) (ys.map f) := by
  induction h with
  | nil => exact .nil
  | cons h _ ih =>
    exact .cons (hS _ List.mem_cons_self _ List.mem_cons_self h)
      (ih fun x hx y hy => hS x (List.mem_cons_of_mem _ hx) y (List.mem_cons_of_mem _ hy))

/-- If a composition matches any, then each of its parts is related to itself. -/
theorem Composition.Matches.related_self (h : Matches related loose c d)
    (hc : ∀ p ∈ c.parts, IsProper p) (hd : ∀ p ∈ d.parts, IsProper p) :
    ∀ p ∈ c.parts, related (c.level loose) p p = true := by
  intro p hp
  cases h with
  | leaf => cases hp
  | ordered h =>
    obtain ⟨q, hq, hpq⟩ := AllRelated.exists_of_mem h p hp
    exact (hc p hp).related_self (hd q hq) hpq
  | unordered _ h =>
    obtain ⟨x, hx, hpx⟩ := List.mem_flatten.mp hp
    obtain ⟨y, hy, hxy⟩ := h x hx
    obtain ⟨q, hq, hpq⟩ := AllRelated.exists_of_mem hxy p hpx
    exact (hc p hp).related_self (forall_mem_entry hd hy q hq) hpq

/-- Lists are related as what they are mapped to if their items are. -/
theorem AllRelated.map_iff {loose' : Bool} {f : Value → Value}
    (h : ∀ x ∈ xs, ∀ y ∈ ys, related loose x y = related loose' (f x) (f y)) :
    AllRelated loose xs ys ↔ AllRelated loose' (xs.map f) (ys.map f) := by
  induction xs generalizing ys with
  | nil => cases ys <;> simp [AllRelated]
  | cons x xs ih =>
    cases ys with
    | nil => simp [AllRelated]
    | cons y ys =>
      rw [List.forall_mem_cons] at h
      have hrest := ih fun x hx y hy => h.2 x hx y (List.mem_cons_of_mem _ hy)
      simp only [AllRelated] at hrest ⊢
      rw [List.map_cons, List.map_cons, List.forall₂_cons, List.forall₂_cons, hrest,
        h.1 y List.mem_cons_self]

/-- A leaf that is equal to itself is a number, or it is no real. -/
theorem isSameNaN_eq_false (h : equalsAtom v v = true) (w : Value) : isSameNaN v w = false := by
  unfold isSameNaN
  split
  · simp [equalsAtom, number?, text?, Binary64.dyadic?] at h
  · rfl

/-- Compositions that match themselves match others in the same way, however they are compared. -/
theorem Composition.Matches.true_iff (h : Matches related false c c)
    (hc : ∀ p ∈ c.parts, IsProper p)
    (hparts : ∀ p ∈ c.parts, related false p p = true → ∀ w, related true p w = related false p w) :
    Matches related true c d ↔ Matches related false c d := by
  have hself := h.related_self hc hc
  cases c with
  | leaf v =>
    have hv : equalsAtom v v = true := by cases h with | leaf h => simpa using h
    simp only [matches_leaf_iff, isSameNaN_eq_false hv, Bool.and_false]
  | unordered kind entries => simp only [matches_unordered_iff]
  | ordered kind xs =>
    rw [matches_ordered_iff, matches_ordered_iff]
    refine exists_congr fun ys => and_congr_right fun _ => ?_
    cases kind with
    | cell =>
      have hiff : AllRelated true xs ys ↔ AllRelated false (xs.map id) (ys.map id) :=
        AllRelated.map_iff fun x hx y _ => hparts x hx (hself x hx) y
      rwa [List.map_id, List.map_id] at hiff
    | _ => exact Iff.rfl

/-- Likeness is equality for what is equal to itself. -/
theorem IsProper.related_true_eq (hv : IsProper v) (h : related false v v = true) (w : Value) :
    related true v w = related false v w := by
  induction hv generalizing w with
  | mk hmarked _ hparts ih =>
    rw [Bool.eq_iff_iff, related_iff_matches hmarked, related_iff_matches hmarked]
    exact ((related_iff_matches hmarked).mp h).true_iff hparts ih

end Value

end CHeaders
