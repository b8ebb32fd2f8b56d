import CHeaders.Proofs.Result
import CHeaders.Value.Order
import Mathlib.Data.List.Perm.Basic

/-!
# Sorting values that may have no order

The scalars fall into classes: numbers, texts, byte strings, days, and instants with and without an
offset. Two scalars have an order if they are in one class; `none` is in no class and has no order
even to itself. Sorting compares each item with some other one. So a list of scalars is sorted if
and only if it has a single item or none, or if all its items are in one class.

## Main definitions

* `CHeaders.Value.orderClass`: the class of a value.
* `CHeaders.Fault.isOrder`: the faults of values without an order.

## Main results

* `CHeaders.Value.decides_less`: when two values have an order.
* `CHeaders.Value.decides_sortBy`: when a list is sorted.
-/

namespace CHeaders

/-- Whether two values have no order. -/
def Fault.isOrder : Fault → Bool
  | unordered _ _ | dayAgainstInstant | unknownOffset => true
  | _ => false

namespace Value

/-- The classes of values that have an order to each other. A moment is a day, or an instant of
which the offset is known or not. -/
inductive OrderClass where
  | number
  | text
  | bytes
  | moment (isOffsetKnown : Option Bool)
  deriving DecidableEq, Repr

/-- The class of a value, if it is in one. -/
def orderClass (v : Value) : Option OrderClass :=
  match v.bare with
  | bool _ | int _ | real _ => some .number
  | text _ | fragment _ => some .text
  | bytes _ => some .bytes
  | moment m => some (.moment (m.time.map (·.offset.isSome)))
  | _ => Option.none

/-- Whether a value is a scalar. -/
def isScalar (v : Value) : Bool :=
  match v.bare with
  | none | bool _ | int _ | real _ | text _ | fragment _ | bytes _ | moment _ => true
  | _ => false

/-- Two moments have an order if they are of one kind. -/
theorem decides_momentLess (a b : Moment) :
    Decides (a.time.map (·.offset.isSome) = b.time.map (·.offset.isSome)) (fun _ => True)
      (·.isOrder = true) (momentLess a b) := by
  have hiff : a.comparable b = true ↔
      a.time.map (·.offset.isSome) = b.time.map (·.offset.isSome) := by
    rw [Moment.comparable]
    cases a.time <;> cases b.time <;> simp
  rw [momentLess]
  split
  · rename_i h
    exact ⟨hiff.mp h, trivial⟩
  · rename_i h
    have hnot := fun heq => h (hiff.mpr heq)
    split
    · exact ⟨hnot, rfl⟩
    · exact ⟨hnot, rfl⟩

/-- A value has an order to a scalar if and only if the two are in one class.

**Proof sketch.** Only the kinds of the two values matter. A value that is in no class has no order
to any scalar; a value in a class is compared with the scalars of each kind. -/
theorem decides_less (v w : Value) (hw : w.isScalar = true) :
    Decides (w.orderClass.isSome = true ∧ v.orderClass = w.orderClass) (fun _ => True)
      (·.isOrder = true) (less v w) := by
  have hnot (hv : v.orderClass = Option.none) :
      ¬(w.orderClass.isSome = true ∧ v.orderClass = w.orderClass) := by
    rintro ⟨hsome, heq⟩
    rw [← heq, hv] at hsome
    cases hsome
  have hscalar := hw
  rw [isScalar] at hw
  cases v
  case shared mark v => exact decides_less v w hscalar
  case list | tuple =>
    rw [less]
    split
    · simp_all
    · exact ⟨hnot rfl, rfl⟩
  case moment m =>
    simp only [less]
    rw [orderClass, orderClass]
    cases hu : w.bare
    case moment => simpa [isNumeric, text?, bare] using decides_momentLess _ _
    all_goals simp_all [isNumeric, text?, bare, Decides, Judged, Fault.isOrder]
  case bool | int | real =>
    simp only [less]
    rw [orderClass, orderClass]
    cases hu : w.bare
    case bool | int | real =>
      simp only [isNumeric, Bool.and_self, if_true, bare]
      split <;> exact ⟨⟨rfl, trivial⟩, trivial⟩
    all_goals simp_all [isNumeric, text?, bare, Decides, Judged, Fault.isOrder]
  case text | fragment | bytes =>
    simp only [less]
    rw [orderClass, orderClass]
    cases hu : w.bare <;>
      simp_all [isNumeric, text?, bare, Decides, Judged, Fault.isOrder]
  all_goals exact ⟨hnot rfl, rfl⟩

/-! ## Sorting -/

section Sorting

variable {α : Type} {key : α → Value} {P : α → Prop} {E : Fault → Prop}

/-- The items that are as `P` says have an order to each other and to no other items. -/
def IsClass (key : α → Value) (P : α → Prop) (E : Fault → Prop) : Prop :=
  ∀ x y, P x → Decides (P y) (fun _ => True) E (less (key y) (key x))

/-- What a run that is taken out of a list of items and the rest are: a rearrangement of the items,
where the run is not empty and all in one class. If there is no run then the items are not all in
the class. -/
def IsRun (P : α → Prop) (E : Fault → Prop) (items : List α) :
    Except Fault (List α × List α) → Prop :=
  Judged (fun r => r.1 ≠ [] ∧ (∀ x ∈ r.1, P x) ∧ (r.1 ++ r.2).Perm items)
    (fun f => (¬∀ x ∈ items, P x) ∧ E f)

/-- A run that never descends. -/
theorem isRun_risingRun (hclass : IsClass key P E) (rest : List α) :
    ∀ x, P x → IsRun P E (x :: rest) (risingRun key x rest) := by
  induction rest with
  | nil => exact fun x hx => ⟨by simp, by simpa using hx, by simp⟩
  | cons y rest ih =>
    intro x hx
    rw [risingRun]
    refine Judged.bind (hclass x y hx) (fun f hf => ⟨fun h => hf.1 (h y (by simp)), hf.2⟩)
      fun descends hy => ?_
    cases descends with
    | true => exact ⟨by simp, by simpa using hx, by simp⟩
    | false =>
      refine Judged.bind (ih y hy.1)
        (fun f hf => ⟨fun h => hf.1 fun z hz => h z (.tail x hz), hf.2⟩) ?_
      rintro ⟨run, tail⟩ ⟨-, hrun, hperm⟩
      exact ⟨by simp, List.forall_mem_cons.mpr ⟨hx, hrun⟩, hperm.cons x⟩

/-- A run that always descends. -/
theorem isRun_fallingRun (hclass : IsClass key P E) (rest : List α) :
    ∀ acc x, (∀ z ∈ acc, P z) → P x →
      IsRun P E (acc ++ x :: rest) (fallingRun key acc x rest) := by
  induction rest with
  | nil =>
    intro acc x hacc hx
    exact ⟨by simp, List.forall_mem_cons.mpr ⟨hx, hacc⟩,
      by simpa using (List.perm_append_singleton x acc).symm⟩
  | cons y rest ih =>
    intro acc x hacc hx
    have hrun : ∀ z ∈ x :: acc, P z := List.forall_mem_cons.mpr ⟨hx, hacc⟩
    rw [fallingRun]
    refine Judged.bind (hclass x y hx) (fun f hf => ⟨fun h => hf.1 (h y (by simp)), hf.2⟩)
      fun descends hy => ?_
    cases descends with
    | true =>
      have hperm : (x :: acc ++ y :: rest).Perm (acc ++ x :: y :: rest) := List.perm_middle.symm
      refine (ih (x :: acc) y hrun hy.1).imp (fun r hr => ⟨hr.1, hr.2.1, hr.2.2.trans hperm⟩)
        fun f hf => ⟨fun h => hf.1 fun z hz => h z (hperm.mem_iff.mp hz), hf.2⟩
    | false => exact ⟨by simp, hrun, List.perm_middle.symm⟩

/-- The place of an item is looked for by comparing it with items of the class. -/
theorem decides_place (hclass : IsClass key P E) {x : α} {sorted : List α}
    (hsorted : ∀ m ∈ sorted, P m) (bound : Nat) :
    ∀ lo hi, hi ≤ sorted.length →
      Decides (0 < bound → lo < hi → P x) (fun _ => True) E
        (place key x sorted.toArray bound lo hi) := by
  induction bound with
  | zero => exact fun lo hi _ => ⟨by simp, trivial⟩
  | succ bound ih =>
    intro lo hi hhi
    rw [place]
    split
    · rename_i hlt
      have hmid : (lo + hi) / 2 < sorted.length := by omega
      have hget : sorted.toArray[(lo + hi) / 2]? = some sorted[(lo + hi) / 2] := by simp [hmid]
      simp only [hget]
      have hless := hclass _ x (hsorted _ (List.getElem_mem hmid))
      -- Once the item has an order to one item of the class it has one to all of them.
      refine Decides.imp (hless.bind (B := True) fun descends hx _ => ?_) (by simp [hlt])
        fun _ h => h
      split
      · exact (ih lo _ (by omega)).imp (iff_of_true (fun _ _ => hx) trivial) fun _ h => h
      · exact (ih _ hi hhi).imp (iff_of_true (fun _ _ => hx) trivial) fun _ h => h
    · rename_i hge
      exact ⟨fun _ h => absurd h hge, trivial⟩

/-- Items are put into a run if they are all in the class. -/
theorem decides_insertAll (hclass : IsClass key P E) (rest : List α) :
    ∀ run, run ≠ [] → (∀ m ∈ run, P m) →
      Decides (∀ x ∈ rest, P x) (·.Perm (run ++ rest)) E (insertAll key run rest) := by
  induction rest with
  | nil => exact fun run _ _ => ⟨by simp, by simp⟩
  | cons x rest ih =>
    intro run hne hrun
    have hlength : 0 < run.length := List.length_pos_iff.mpr hne
    rw [insertAll, List.forall_mem_cons]
    refine Decides.bind ((decides_place hclass hrun run.length 0 run.length (Nat.le_refl _)).imp
      ⟨fun h => h hlength hlength, fun h _ _ => h⟩ fun _ h => h) fun place hx _ => ?_
    have hperm : (run.take place ++ x :: run.drop place).Perm (x :: run) :=
      List.perm_middle.trans (.of_eq (by rw [List.take_append_drop]))
    refine (ih _ (by simp) fun m hm => ?_).imp Iff.rfl fun ys hys => ?_
    · rcases List.mem_cons.mp (hperm.mem_iff.mp hm) with rfl | hm
      · exact hx
      · exact hrun m hm
    · exact hys.trans ((hperm.append_right rest).trans List.perm_middle.symm)

/-- A list is sorted by putting the rest of its items into its first run. -/
theorem IsRun.decides {items : List α} {r : Except Fault (List α × List α)}
    (h : IsRun P E items r) (hclass : IsClass key P E) :
    Decides (∀ x ∈ items, P x) (·.Perm items) E
      (r >>= fun (run, tail) => insertAll key run tail) := by
  refine Judged.bind h (fun _ hf => hf) ?_
  rintro ⟨run, tail⟩ ⟨hne, hrun, hperm⟩
  have hall : (∀ x ∈ tail, P x) ↔ ∀ x ∈ items, P x := by
    simp only [← hperm.mem_iff, List.mem_append]
    exact ⟨fun h x hx => hx.elim (hrun x) (h x), fun h x hx => h x (.inr hx)⟩
  exact (decides_insertAll hclass tail run hne hrun).imp hall fun ys hys => hys.trans hperm

/-- A list of which the first item is in a class is sorted if all its items are. -/
theorem decides_sortBy_of_isClass (hclass : IsClass key P E) {x : α} (hx : P x) (rest : List α) :
    Decides (∀ y ∈ x :: rest, P y) (·.Perm (x :: rest)) E (sortBy key (x :: rest)) := by
  cases rest with
  | nil => exact ⟨by simpa using hx, by simp⟩
  | cons y rest =>
    rw [sortBy]
    refine Judged.bind (hclass x y hx) (fun f hf => ⟨fun h => hf.1 (h y (by simp)), hf.2⟩)
      fun descends hy => ?_
    cases descends with
    | true => exact (isRun_fallingRun hclass rest [x] y (by simpa using hx) hy.1).decides hclass
    | false =>
      have hrun : IsRun P E (x :: y :: rest)
          (risingRun key y rest >>= fun r => .ok (x :: r.1, r.2)) := by
        refine Judged.bind (isRun_risingRun hclass rest y hy.1)
          (fun f hf => ⟨fun h => hf.1 fun z hz => h z (.tail x hz), hf.2⟩) fun r hr => ?_
        exact ⟨by simp, List.forall_mem_cons.mpr ⟨hx, hr.2.1⟩, hr.2.2.cons x⟩
      have hsort := hrun.decides hclass
      rw [bind_assoc] at hsort
      exact hsort

end Sorting

/-- The scalars of a class have an order to each other and to no other values. -/
theorem isClass_orderClass {α : Type} (key : α → Value) (c : OrderClass) :
    IsClass key (fun x => (key x).orderClass = some c) (·.isOrder = true) := by
  intro x y hx
  have hscalar : (key x).isScalar = true := by
    rw [orderClass] at hx
    rw [isScalar]
    split at hx <;> simp_all
  exact (decides_less (key y) (key x) hscalar).imp (by simp [hx]) fun _ h => h

/-- A list of scalars is sorted if and only if it has a single item or none, or if all its items
are in one class. Sorting rearranges the list.

**Proof sketch.** A list with one item or none is sorted. In a longer one the second item is
compared with the first: if the first has a class, then all others have to be in it, and if it has
none, the comparison fails. -/
theorem decides_sortBy {α : Type} (key : α → Value) (xs : List α)
    (hscalar : ∀ x ∈ xs, (key x).isScalar = true) :
    Decides (xs.length ≤ 1 ∨ ∃ c, ∀ x ∈ xs, (key x).orderClass = some c) (·.Perm xs)
      (·.isOrder = true) (sortBy key xs) := by
  match xs with
  | [] => exact ⟨.inl (by simp), .refl []⟩
  | [x] => exact ⟨.inl (by simp), .refl [x]⟩
  | x :: y :: rest =>
    cases hx : (key x).orderClass with
    | some c =>
      refine (decides_sortBy_of_isClass (isClass_orderClass key c) hx (y :: rest)).imp ?_
        fun _ h => h
      constructor
      · exact fun h => .inr ⟨c, h⟩
      · rintro (hlength | ⟨c', h⟩)
        · simp at hlength
        · obtain rfl := Option.some.inj (hx.symm.trans (h x (by simp)))
          exact h
    | none =>
      have hless := decides_less (key y) (key x) (hscalar x (by simp))
      have hnot : ¬((x :: y :: rest).length ≤ 1 ∨
          ∃ c, ∀ z ∈ x :: y :: rest, (key z).orderClass = some c) := by
        simp [hx]
      rw [sortBy]
      exact Judged.bind hless (fun f hf => ⟨hnot, hf.2⟩) fun _ hok => by simp [hx] at hok

end Value

end CHeaders
