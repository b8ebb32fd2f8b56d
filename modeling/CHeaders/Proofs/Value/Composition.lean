import CHeaders.Proofs.Value.Equality
import Mathlib.Data.List.Forall2

/-!
# What values are made of

A value is a leaf, or it is made of other values. Those made of other values are of two sorts: some
have their parts in order, such as lists and cells, and some have entries that come in any order,
such as sets and mappings. Two values are related if they are made in the same way, and of related
parts. Marks do not count as a way to be made, so this holds of values that are not marked.

Two leaves are related if they have a key in common: what a number is worth, the letters of a text,
the place of a moment in time.

## Main definitions

* `CHeaders.Value.HasKey`: what a leaf is compared by.
* `CHeaders.Value.Composition`: the ways to be made.
* `CHeaders.Value.composition`: how a value is made.
* `CHeaders.Value.Composition.Matches`: whether two values are made alike.

## Main results

* `CHeaders.Value.leaf_related_iff`: leaves are related if they have a key in common.
* `CHeaders.Value.related_iff_matches`: values are related if they are made alike.
-/

namespace CHeaders.Value

/-! ## Leaves -/

/-- The keys by which leaves are compared. -/
inductive Key where
  | number (x : Number)
  | letters (t : Text)
  | none
  | nil
  | bytes (bs : List UInt8)
  /-- A place in time; days, instants and instants with an offset are apart. -/
  | moment (offset : Option Bool) (position : Int)
  | foreign (serial : Nat)
  | callable (serial : Nat)
  | cycle (mark : Nat)
  | nan (serial : Nat)

/-- What a leaf is compared by. What is not a number is compared by its serial if likeness is asked
for, and by nothing if equality is. -/
inductive HasKey (loose : Bool) : Value → Key → Prop
  | number {v : Value} {x : Number} (h : v.number? = some x) : HasKey loose v (.number x)
  | letters {v : Value} {t : Text} (h : v.text? = some t) : HasKey loose v (.letters t)
  | none : HasKey loose .none .none
  | nil : HasKey loose .nil .nil
  | bytes (bs : List UInt8) : HasKey loose (.bytes bs) (.bytes bs)
  | moment {m : Moment} {offset : Option Bool} {position : Int}
      (hoffset : (m.time.map fun t => t.offset.isSome) = offset)
      (hposition : m.position = position) : HasKey loose (.moment m) (.moment offset position)
  | foreign (serial : Nat) : HasKey loose (.foreign serial) (.foreign serial)
  | callable (serial : Nat) (name : String) (answer : Value) (failure : Option String) :
      HasKey loose (.callable serial name answer failure) (.callable serial)
  | cycle (mark : Nat) (shape : Shape) : HasKey loose (.cycle mark shape) (.cycle mark)
  | nan (serial : Nat) (h : loose = true) : HasKey loose (.real (.nan (some serial))) (.nan serial)

/-- Moments are the same if they are of one kind and at one place. -/
theorem sameAs_iff {a b : Moment} : a.sameAs b = true ↔
    (a.time.map fun t => t.offset.isSome) = (b.time.map fun t => t.offset.isSome) ∧
      a.position = b.position := by
  rw [Moment.sameAs, Moment.comparable, Bool.and_eq_true, beq_iff_eq]
  cases a.time <;> cases b.time <;> simp

variable {loose : Bool} {u v w : Value}

/-- A number has no letters. -/
theorem text?_eq_none_of_number? {x : Number} (h : v.number? = some x) : v.text? = Option.none := by
  cases v <;> first | rfl | cases h

/-- A leaf has one key.

**Proof sketch.** By the two keys. A number has no text and a text no number, and both determine
their key; the offset and the position of a moment determine its key, and every other leaf is its
own key. -/
theorem HasKey.unique {k k' : Key} (h : HasKey loose v k) (h' : HasKey loose v k') : k = k' := by
  cases h with
  | number h =>
    cases h' with
    | number h' => rw [Option.some.inj (h.symm.trans h')]
    | letters h' => rw [text?_eq_none_of_number? h] at h'; cases h'
    | _ => simp [number?, Binary64.dyadic?] at h
  | letters h =>
    cases h' with
    | number h' => rw [text?_eq_none_of_number? h'] at h; cases h
    | letters h' => rw [Option.some.inj (h.symm.trans h')]
    | _ => simp [text?] at h
  | moment hoffset hposition =>
    cases h' with
    | moment hoffset' hposition' => rw [← hoffset, ← hposition, hoffset', hposition']
    | number h' | letters h' => cases h'
  | _ =>
    cases h' with
    | number h' => simp [number?, Binary64.dyadic?] at h'
    | letters h' => simp [text?] at h'
    | _ => rfl

/-- Leaves with a key in common are the same number, or they are no numbers. -/
theorem HasKey.number?_eq {k : Key} (hv : HasKey loose v k) (hw : HasKey loose w k) :
    v.number? = w.number? := by
  cases hv with
  | number hv =>
    cases hw with
    | number hw => rw [hv, hw]
  | letters hv =>
    cases hw with
    | letters hw =>
      cases hv' : v.number? with
      | some x => rw [text?_eq_none_of_number? hv'] at hv; cases hv
      | none =>
        cases hw' : w.number? with
        | some x => rw [text?_eq_none_of_number? hw'] at hw; cases hw
        | none => rfl
  | _ => cases hw; rfl

/-- Leaves are equal if they have a key for equality in common.

**Proof sketch.** By the cases of the comparison. Numbers are compared by what they are worth, texts
by their letters, and other leaves of the same form by what they hold; each of these is a key. -/
theorem exists_hasKey_of_equalsAtom (loose : Bool) (h : equalsAtom v w = true) :
    ∃ k, HasKey loose v k ∧ HasKey loose w k := by
  unfold equalsAtom at h
  split at h
  · next x y hx hy =>
    obtain rfl : x = y := by simpa using h
    exact ⟨_, .number hx, .number hy⟩
  · split at h
    · next s t hs ht =>
      obtain rfl : s = t := by simpa using h
      exact ⟨_, .letters hs, .letters ht⟩
    · split at h
      · exact ⟨_, .none, .none⟩
      · exact ⟨_, .nil, .nil⟩
      · obtain rfl := beq_iff_eq.mp h
        exact ⟨_, .bytes _, .bytes _⟩
      · obtain ⟨hoffset, hposition⟩ := sameAs_iff.mp h
        exact ⟨_, .moment hoffset hposition, .moment rfl rfl⟩
      · obtain rfl := beq_iff_eq.mp h
        exact ⟨_, .foreign _, .foreign _⟩
      · obtain rfl := beq_iff_eq.mp h
        exact ⟨_, .callable _ _ _ _, .callable _ _ _ _⟩
      · obtain rfl := beq_iff_eq.mp h
        exact ⟨_, .cycle _ _, .cycle _ _⟩
      · cases h

/-- Leaves with a key in common are equal, or they are the same number that is none.

**Proof sketch.** By the key, which tells the form of both leaves. -/
theorem leaf_related_of_hasKey {k : Key} (hv : HasKey loose v k) (hw : HasKey loose w k) :
    equalsAtom v w = true ∨ loose = true ∧ isSameNaN v w = true := by
  cases hv with
  | number hv =>
    cases hw with
    | number hw => simp [equalsAtom, hv, hw]
  | letters hv =>
    cases hw with
    | letters hw =>
      left
      cases hv' : v.number? with
      | some x => rw [text?_eq_none_of_number? hv'] at hv; cases hv
      | none => simp [equalsAtom, hv, hw, hv']
  | moment hoffset hposition =>
    cases hw with
    | moment hoffset' hposition' =>
      have hsame := sameAs_iff.mpr ⟨hoffset.trans hoffset'.symm, hposition.trans hposition'.symm⟩
      exact .inl (by simpa [equalsAtom, number?, text?] using hsame)
  | nan serial hloose =>
    cases hw with
    | nan => exact .inr ⟨hloose, beq_self_eq_true serial⟩
  | _ =>
    cases hw
    simp [equalsAtom, number?, text?]

/-- Leaves are related if they have a key in common. -/
theorem leaf_related_iff : (equalsAtom v w || loose && isSameNaN v w) = true ↔
    ∃ k, HasKey loose v k ∧ HasKey loose w k := by
  rw [Bool.or_eq_true, Bool.and_eq_true]
  constructor
  · rintro (h | ⟨rfl, h⟩)
    · exact exists_hasKey_of_equalsAtom loose h
    · unfold isSameNaN at h
      split at h
      · obtain rfl := beq_iff_eq.mp h
        exact ⟨_, .nan _ rfl, .nan _ rfl⟩
      · cases h
  · rintro ⟨k, hv, hw⟩
    exact leaf_related_of_hasKey hv hw

/-! ## Compositions -/

/-- The kinds of values whose parts are in order. -/
inductive Ordered where
  | cell
  | list
  | tuple
  | call
  | declaration
  | plan
  | step
  | position
  | symbolKey
  deriving DecidableEq

/-- How the parts of a value are compared: those of a cell as the cell is, all others by
likeness. -/
def Ordered.loosely (loose : Bool) : Ordered → Bool
  | cell => loose
  | _ => true

/-- The kinds of values whose entries come in any order. -/
inductive Unordered where
  | set
  | dict
  deriving DecidableEq

/-- The ways in which a value is made of what is in `α`. -/
inductive Composition (α : Type) where
  | leaf (v : Value)
  | ordered (kind : Ordered) (parts : List α)
  | unordered (kind : Unordered) (entries : List (List α))

namespace Composition

variable {α β : Type}

/-- What a value is made of. -/
def parts : Composition α → List α
  | leaf _ => []
  | ordered _ parts => parts
  | unordered _ entries => entries.flatten

/-- How the parts are compared. -/
def level (loose : Bool) : Composition α → Bool
  | ordered kind _ => kind.loosely loose
  | _ => true

/-- The same way to be made, of other things. -/
def map (f : α → β) : Composition α → Composition β
  | leaf v => .leaf v
  | ordered kind parts => .ordered kind (parts.map f)
  | unordered kind entries => .unordered kind (entries.map (List.map f))

/-- What a composition is mapped to is made of what its parts are mapped to. -/
theorem mem_parts_map {f : α → β} {c : Composition α} {p : α} (hp : p ∈ c.parts) :
    f p ∈ (c.map f).parts := by
  have hparts : (c.map f).parts = c.parts.map f := by
    cases c with
    | unordered kind entries => exact List.map_flatten.symm
    | _ => rfl
  exact hparts ▸ List.mem_map_of_mem hp

/-- The parts of what a composition is mapped to are compared as its parts are. -/
theorem level_map (f : α → β) (c : Composition α) (loose : Bool) :
    (c.map f).level loose = c.level loose := by
  cases c <;> rfl

/-- Two compositions match if they are of one kind and the parts are related by `R`, one by one if
they are in order. Of those that come in any order, there are equally many, and each of the first
has one of the second. -/
inductive Matches (R : Bool → Value → Value → Bool) (loose : Bool) :
    Composition Value → Composition Value → Prop
  | leaf {v w : Value} (h : (equalsAtom v w || loose && isSameNaN v w) = true) :
      Matches R loose (.leaf v) (.leaf w)
  | ordered {kind : Ordered} {xs ys : List Value}
      (h : List.Forall₂ (fun x y => R (kind.loosely loose) x y = true) xs ys) :
      Matches R loose (.ordered kind xs) (.ordered kind ys)
  | unordered {kind : Unordered} {xs ys : List (List Value)} (hlength : xs.length = ys.length)
      (h : ∀ x ∈ xs, ∃ y ∈ ys, List.Forall₂ (fun x y => R true x y = true) x y) :
      Matches R loose (.unordered kind xs) (.unordered kind ys)

variable {R : Bool → Value → Value → Bool} {loose : Bool} {c : Composition Value}

/-- Nothing but a leaf matches a leaf. -/
theorem matches_leaf_iff {v : Value} : Matches R loose (.leaf v) c ↔
    ∃ w, c = .leaf w ∧ (equalsAtom v w || loose && isSameNaN v w) = true :=
  ⟨fun h => by cases h with | leaf h => exact ⟨_, rfl, h⟩, by rintro ⟨w, rfl, h⟩; exact .leaf h⟩

/-- Nothing but what has its parts in the same order matches what has its parts in order. -/
theorem matches_ordered_iff {kind : Ordered} {xs : List Value} :
    Matches R loose (.ordered kind xs) c ↔ ∃ ys, c = .ordered kind ys ∧
      List.Forall₂ (fun x y => R (kind.loosely loose) x y = true) xs ys :=
  ⟨fun h => by cases h with | ordered h => exact ⟨_, rfl, h⟩,
    by rintro ⟨ys, rfl, h⟩; exact .ordered h⟩

/-- Nothing but what has as many entries matches what has entries. -/
theorem matches_unordered_iff {kind : Unordered} {xs : List (List Value)} :
    Matches R loose (.unordered kind xs) c ↔ ∃ ys, c = .unordered kind ys ∧
      xs.length = ys.length ∧
      ∀ x ∈ xs, ∃ y ∈ ys, List.Forall₂ (fun x y => R true x y = true) x y :=
  ⟨fun h => by cases h with | unordered hlength h => exact ⟨_, rfl, hlength, h⟩,
    by rintro ⟨ys, rfl, hlength, h⟩; exact .unordered hlength h⟩

end Composition

open CHeaders.Value.Composition (Matches matches_leaf_iff matches_ordered_iff matches_unordered_iff)

/-- How a value is made. -/
def composition : Value → Composition Value
  | list xs => .ordered .list xs
  | tuple xs => .ordered .tuple xs
  | cons h t => .ordered .cell [h, t]
  | call op args => .ordered .call [op, args]
  | declaration t c => .ordered .declaration [t, c]
  | plan n d g i => .ordered .plan [n, d, g, i]
  | step f args => .ordered .step [f, args]
  | position l c f => .ordered .position [l, c, f]
  | symbolKey s i p => .ordered .symbolKey [s, i, p]
  | set xs => .unordered .set (xs.map fun x => [x])
  | dict es => .unordered .dict (es.map fun e => [e.1, e.2])
  | shared _ v => v.composition
  | v => .leaf v

/-- Whether a value has a mark around it. -/
def isMarked : Value → Bool
  | shared _ _ => true
  | _ => false

/-- Marks do not count as a way to be made. -/
@[simp] theorem composition_bare : ∀ v : Value, v.bare.composition = v.composition
  | shared _ v => composition_bare v
  | none | bool _ | int _ | real _ | text _ | fragment _ | bytes _ | list _ | tuple _ | set _
  | dict _ | moment _ | nil | cons _ _ | foreign _ | call _ _ | declaration _ _ | plan _ _ _ _
  | step _ _ | position _ _ _ | symbolKey _ _ _ | callable _ _ _ _ | cycle _ _ => rfl

/-- There is no mark around a value without the marks around it. -/
@[simp] theorem isMarked_bare : ∀ v : Value, v.bare.isMarked = false
  | shared _ v => isMarked_bare v
  | none | bool _ | int _ | real _ | text _ | fragment _ | bytes _ | list _ | tuple _ | set _
  | dict _ | moment _ | nil | cons _ _ | foreign _ | call _ _ | declaration _ _ | plan _ _ _ _
  | step _ _ | position _ _ _ | symbolKey _ _ _ | callable _ _ _ _ | cycle _ _ => rfl

/-- What has a key is a leaf. -/
theorem HasKey.composition_eq {k : Key} (h : HasKey loose v k) : v.composition = .leaf v := by
  cases h with
  | number h => cases v <;> first | rfl | cases h
  | letters h => cases v <;> first | rfl | cases h
  | _ => rfl

/-- Two lists are alike if their items are. -/
theorem allAlike_iff {xs ys : List Value} :
    allAlike xs ys = true ↔ List.Forall₂ (fun x y => related true x y = true) xs ys := by
  induction xs generalizing ys with
  | nil => cases ys <;> simp [allAlike]
  | cons x xs ih => cases ys <;> simp [allAlike, ih]

/-- The items of a set are among those of another if each is like one of them. -/
theorem itemsAmong_iff {xs ys : List Value} :
    itemsAmong xs ys = true ↔ ∀ x ∈ xs, ∃ y ∈ ys, related true x y = true := by
  induction xs with
  | nil => simp [itemsAmong]
  | cons x xs ih => simp [itemsAmong, ih]

/-- The entries of a mapping are among those of another if each is like one of them. -/
theorem entriesAmong_iff {es fs : List (Value × Value)} : entriesAmong es fs = true ↔
    ∀ e ∈ es, ∃ f ∈ fs,
      List.Forall₂ (fun x y => related true x y = true) [e.1, e.2] [f.1, f.2] := by
  induction es with
  | nil => simp [entriesAmong]
  | cons e es ih =>
    rw [entriesAmong, Bool.and_eq_true, ih, List.forall_mem_cons]
    simp

/-- A value that is made as a leaf is that leaf, if it is not marked. -/
theorem eq_of_composition_eq_leaf (hv : v.isMarked = false) (h : v.composition = .leaf u) :
    v = u := by
  cases v with
  | shared => cases hv
  | _ => first | exact Composition.leaf.inj h | cases h

/-- Leaves are related to leaves only, and by their keys. -/
theorem related_leaf_iff (hv : v.composition = .leaf v) (hmarked : v.isMarked = false) :
    related loose v w = true ↔ Matches related loose v.composition w.composition := by
  have hrelated : related loose v w = (equalsAtom v w.bare || loose && isSameNaN v w.bare) := by
    cases v with
    | shared => cases hmarked
    | list | tuple | dict | set | cons | call | declaration | plan | step | position
    | symbolKey => cases hv
    | _ => simp only [related]
  rw [hrelated, hv, matches_leaf_iff]
  constructor
  · intro h
    obtain ⟨k, -, hk⟩ := leaf_related_iff.mp h
    exact ⟨w.bare, w.composition_bare ▸ hk.composition_eq, h⟩
  · rintro ⟨w', hw', h⟩
    rw [← w.composition_bare] at hw'
    rwa [eq_of_composition_eq_leaf w.isMarked_bare hw']

/-- Values are related if they are made alike. -/
theorem related_iff_matches (hv : v.isMarked = false) :
    related loose v w = true ↔ Matches related loose v.composition w.composition := by
  cases v with
  | shared => cases hv
  | none | bool _ | int _ | real _ | text _ | fragment _ | bytes _ | moment _ | nil | foreign _
  | callable _ _ _ _ | cycle _ _ => exact related_leaf_iff rfl rfl
  | _ =>
    have hw := w.isMarked_bare
    rw [← w.composition_bare]
    simp only [related]
    generalize w.bare = w at hw ⊢
    -- Values made in different ways are neither related nor do they match; for those made in the
    -- same way, both are said of the parts.
    cases w with
    | shared => cases hw
    | _ => first
      | exact iff_of_false Bool.false_ne_true (by rintro ⟨⟩)
      | simp [composition, matches_ordered_iff, Ordered.loosely, allAlike_iff, and_assoc]; done
      | simp [composition, matches_unordered_iff, itemsAmong_iff, entriesAmong_iff, -Prod.forall,
          -Prod.exists]

end CHeaders.Value
