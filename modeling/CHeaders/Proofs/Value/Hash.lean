import CHeaders.Proofs.Result
import CHeaders.Proofs.Value.Unmarked
import CHeaders.Value.Hash

/-!
# Hashes and equality

Values that are alike have the same hash, provided that leaves do. A walk for a hash and a
comparison take a value apart in the same way, so this holds at every depth. It follows that a set
of two values has one element if and only if they are alike: no two values that are alike are kept
apart by their hashes.

## Main definitions

* `CHeaders.Hashing.IsConsistent`: leaves that are alike have the same hash.
* `CHeaders.Hashing.gather`: a walk in terms of what a value is made of.
* `CHeaders.Hashing.Follows`: a walk that finds the same hash as another one, if that finds any.

## Main results

* `CHeaders.Hashing.fault?_walk`: a value has no hash if it has a part that can change.
* `CHeaders.Hashing.IsConsistent.follows_walk`: values that are alike have the same hash.
* `CHeaders.Hashing.IsConsistent.distinctCount_eq`: how many elements a set of two values has.
-/

namespace CHeaders

open Value (Composition IsMarkedBy related related_iff_matches equalsAtom isSameNaN HasKey)
open Value.Composition (Matches)

/-- The fault of a result, if it is one. -/
def Result.fault? {ε α : Type} : Except ε α → Option ε
  | .error e => some e
  | .ok _ => none

namespace Hashing

open Result (fault?)

/-- Leaves that are alike have the same hash. -/
structure IsConsistent {κ : Type} (H : Hashing κ) : Prop where
  leaf_eq : ∀ {v w : Value}, equalsAtom v w = true ∨ isSameNaN v w = true → H.leaf v = H.leaf w

variable {κ : Type} {H : Hashing κ} {loose : Bool} {v w : Value} {marks : Nat → Value}

/-! ## What has a hash -/

/-- The first fault of a cell is that of its head, or else that of its tail. -/
theorem fault?_ofCell (x y : Except String (List κ × κ)) :
    fault? (H.ofCell x y) = (fault? x).or (fault? y) := by
  cases x <;> cases y <;> rfl

/-- The first fault of a value is that of the first part that has one. -/
theorem fault?_ofParts (parts : List (Except String (List κ × κ))) :
    fault? (H.ofParts parts) = (parts.map fault?).foldr Option.or none := by
  have hwalk : fault? (parts.mapM fun part => part.map H.close) =
      (parts.map fault?).foldr Option.or none := by
    induction parts with
    | nil => rfl
    | cons part parts ih =>
      rw [List.mapM_cons, List.map_cons, List.foldr_cons, ← ih]
      cases part with
      | error => rfl
      | ok x => cases parts.mapM fun part => part.map H.close <;> rfl
  rw [← hwalk, ofParts]
  cases parts.mapM fun part => part.map H.close <;> rfl

/-- What is hashed like a tuple has no heads. -/
theorem ofParts_eq_map (parts : List (Except String (List κ × κ))) :
    H.ofParts parts = (H.ofParts parts).map fun found => ([], H.close found) := by
  rw [ofParts]
  cases parts.mapM fun part => part.map H.close <;> rfl

/-- A walk finds no heads in what is no cell. -/
theorem walk_eq_map_hash (hmarked : v.isMarked = false) (hcell : ∀ h t, v ≠ .cons h t) :
    H.walk v = (H.hash v).map fun last => ([], last) := by
  cases v with
  | shared => cases hmarked
  | cons h t => exact absurd rfl (hcell h t)
  | tuple | call | step | position | symbolKey =>
    rw [hash, walk, ofParts_eq_map]
    cases H.ofParts _ <;> rfl
  | _ => rfl

mutual

/-- A value has no hash if it has a part that can change, and the first such part is the fault. -/
theorem fault?_walk : ∀ v : Value, fault? (H.walk v) = v.unhashable?
  | .shared _ v => fault?_walk v
  | .cons h t => by
    rw [walk, fault?_ofCell, fault?_walk h, fault?_walk t, Value.unhashable?]
  | .tuple xs => by rw [walk, fault?_ofParts, foldr_walkAll xs, Value.unhashable?]
  | .call v v' | .step v v' => by
    simp [walk, fault?_ofParts, fault?_walk v, fault?_walk v', Value.unhashable?]
  | .position u v v' | .symbolKey u v v' => by
    simp [walk, fault?_ofParts, fault?_walk u, fault?_walk v, fault?_walk v', Value.unhashable?]
  | .none | .bool _ | .int _ | .real _ | .text _ | .fragment _ | .bytes _ | .list _ | .set _
  | .dict _ | .moment _ | .nil | .foreign _ | .declaration _ _ | .plan _ _ _ _
  | .callable _ _ _ _ | .cycle _ _ => rfl

/-- The same for several values. -/
theorem foldr_walkAll : ∀ xs : List Value,
    ((H.walkAll xs).map fault?).foldr Option.or none = Value.anyUnhashable? xs
  | [] => rfl
  | x :: xs => by
    rw [walkAll, List.map_cons, List.foldr_cons, fault?_walk x, foldr_walkAll xs,
      Value.anyUnhashable?]

end

/-- A value has a hash if it has no part that can change, and else there is the fault of the first
such part. -/
theorem hash_cases (H : Hashing κ) (v : Value) :
    (∃ x, H.hash v = .ok x ∧ v.unhashable? = none) ∨
      ∃ kind, H.hash v = .error kind ∧ v.unhashable? = some kind := by
  rw [← fault?_walk (H := H), hash]
  cases H.walk v with
  | ok r => exact .inl ⟨_, rfl, rfl⟩
  | error kind => exact .inr ⟨kind, rfl, rfl⟩

/-! ## Equal hashes -/

/-- What a walk finds in a value that is made of what walks find in its parts. -/
def gather (H : Hashing κ) :
    Composition (Except String (List κ × κ)) → Except String (List κ × κ)
  | .leaf v => H.walk v
  | .ordered .list _ => .error "list"
  | .ordered .declaration _ => .error "Declaration"
  | .ordered .plan _ => .error "Plan"
  | .ordered .cell [x, y] => H.ofCell x y
  | .ordered _ parts => H.ofParts parts
  | .unordered .set _ => .error "set"
  | .unordered .dict _ => .error "dict"

/-- Several values are walked through one by one. -/
theorem walkAll_eq_map (xs : List Value) : H.walkAll xs = xs.map H.walk := by
  induction xs with
  | nil => rfl
  | cons x xs ih => rw [walkAll, ih, List.map_cons]

/-- A walk gathers what it finds in the parts. -/
theorem walk_eq_gather : ∀ v : Value, H.walk v = H.gather (v.composition.map H.walk)
  | .shared _ v => walk_eq_gather v
  | .tuple xs => by
    rw [walk, walkAll_eq_map]
    rfl
  | .none | .bool _ | .int _ | .real _ | .text _ | .fragment _ | .bytes _ | .list _ | .set _
  | .dict _ | .moment _ | .nil | .cons _ _ | .foreign _ | .call _ _ | .declaration _ _
  | .plan _ _ _ _ | .step _ _ | .position _ _ _ | .symbolKey _ _ _ | .callable _ _ _ _
  | .cycle _ _ => rfl

/-- If the first of two walks finds a hash, so does the second, and it is the same. -/
def Follows (x y : Except String (List κ × κ)) : Prop :=
  ∀ r, x = .ok r → y = .ok r

/-- The walks through two cells find the same if those through their heads and tails do. -/
theorem Follows.ofCell {x x' y y' : Except String (List κ × κ)} (hx : Follows x x')
    (hy : Follows y y') : Follows (H.ofCell x y) (H.ofCell x' y') := by
  intro r hr
  cases x with
  | error => cases hr
  | ok a =>
    cases y with
    | error => cases hr
    | ok b => rw [hx a rfl, hy b rfl, ← hr]

/-- The walks through two values find the same if those through their parts do. -/
theorem Follows.ofParts {parts parts' : List (Except String (List κ × κ))}
    (h : List.Forall₂ Follows parts parts') : Follows (H.ofParts parts) (H.ofParts parts') := by
  intro r hr
  obtain ⟨xs, hxs, htuple⟩ := bind_eq_ok_iff.mp hr
  refine bind_eq_ok_iff.mpr ⟨xs, ?_, htuple⟩
  clear hr htuple
  rw [mapM_eq_ok_iff] at hxs ⊢
  induction h generalizing xs with
  | nil => exact hxs
  | cons h _ ih =>
    cases hxs with
    | cons hpart hrest =>
      obtain ⟨a, ha, rfl⟩ := map_eq_ok_iff.mp hpart
      exact .cons (map_eq_ok_iff.mpr ⟨a, h a ha, rfl⟩) (ih _ hrest)

/-- A leaf has the hash that leaves are given, unless it is a place where a collection holds
itself. -/
theorem walk_leaf {k : Value.Key} (h : HasKey loose v k) (hk : ∀ mark, k ≠ .cycle mark) :
    H.walk v = .ok ([], H.leaf v) := by
  cases h with
  | number h => cases v <;> first | rfl | cases h
  | letters h => cases v <;> first | rfl | cases h
  | cycle mark => exact absurd rfl (hk mark)
  | _ => rfl

/-- Leaves that are alike have the same hash. -/
theorem IsConsistent.follows_leaf (hH : H.IsConsistent)
    (h : (equalsAtom v w || loose && isSameNaN v w) = true) : Follows (H.walk v) (H.walk w) := by
  intro r hr
  obtain ⟨k, hv, hw⟩ := Value.leaf_related_iff.mp h
  have hk : ∀ mark, k ≠ .cycle mark := by
    rintro mark rfl
    cases hv
    cases hr
  rw [walk_leaf hv hk] at hr
  rw [walk_leaf hw hk, ← hr]
  have hsame : equalsAtom v w = true ∨ isSameNaN v w = true :=
    ((Bool.or_eq_true _ _).mp h).imp_right fun h => ((Bool.and_eq_true _ _).mp h).2
  rw [hH.leaf_eq hsame]

/-- What is gathered in values that are made alike is the same if the parts have the same hashes.

**Proof sketch.** By the composition. A leaf has the hash of its key. What has no order has no hash,
and neither have lists, declarations and plans. The hashes of the parts in order are combined, those
of a cell in their own way. -/
theorem IsConsistent.follows_gather (hH : H.IsConsistent) {c d : Composition Value}
    (h : Matches related loose c d)
    (hparts : ∀ p ∈ c.parts, ∀ q ∈ d.parts, related (c.level loose) p q = true →
      Follows (H.walk p) (H.walk q)) :
    Follows (H.gather (c.map H.walk)) (H.gather (d.map H.walk)) := by
  cases h with
  | leaf h => exact hH.follows_leaf h
  | @unordered kind => cases kind <;> exact fun r hr => by cases hr
  | @ordered kind xs ys h =>
    have hwalks : List.Forall₂ Follows (xs.map H.walk) (ys.map H.walk) :=
      Value.AllRelated.forall₂_map h hparts
    cases kind with
    | list | declaration | plan => exact fun r hr => by cases hr
    | cell =>
      -- A cell has two parts; what would have fewer or more is gathered like a tuple.
      cases h with
      | nil => exact Follows.ofParts hwalks
      | cons _ h =>
        cases h with
        | nil => exact Follows.ofParts hwalks
        | cons _ h =>
          cases h with
          | cons => exact Follows.ofParts hwalks
          | nil =>
            obtain _ | ⟨hx, _ | ⟨hy, _⟩⟩ := hwalks
            exact Follows.ofCell hx hy
    | _ => exact Follows.ofParts hwalks

/-- Values that are alike have the same hash. -/
theorem IsConsistent.follows_walk (hH : H.IsConsistent) (hv : IsMarkedBy marks v)
    (hw : IsMarkedBy marks w) (h : related loose v w = true) : Follows (H.walk v) (H.walk w) := by
  induction hv generalizing loose w with
  | @shared mark v hmark _ ih =>
    rw [related, Bool.or_eq_true] at h
    obtain hsame | h := h
    · rw [hw.eq_of_isSameCell hsame, hmark]
      exact fun r hr => hr
    · exact ih hw h
  | @plain v hmarked _ ih =>
    rw [walk_eq_gather v, walk_eq_gather w]
    exact hH.follows_gather ((related_iff_matches hmarked).mp h) fun p hp q hq hpq =>
      ih p hp (hw.parts q hq) hpq

/-! ## Sets -/

/-- Values that are alike have the same hash, if one of them has any. -/
theorem IsConsistent.hash_eq (hH : H.IsConsistent) (hv : IsMarkedBy marks v)
    (hw : IsMarkedBy marks w) (h : related loose v w = true) {x : κ} (hx : H.hash v = .ok x) :
    H.hash w = .ok x := by
  obtain ⟨r, hr, rfl⟩ := map_eq_ok_iff.mp hx
  exact map_eq_ok_iff.mpr ⟨r, hH.follows_walk hv hw h r hr, rfl⟩

/-- A set of two values has one element if and only if they are alike. -/
theorem IsConsistent.distinctCount_eq [DecidableEq κ] (hH : H.IsConsistent)
    (hv : IsMarkedBy marks v) (hw : IsMarkedBy marks w) :
    H.distinctCount v w = v.distinctCount w := by
  rw [distinctCount, Value.distinctCount]
  obtain ⟨x, hx, hnone⟩ | ⟨kind, hkind, hsome⟩ := H.hash_cases v
  · obtain ⟨y, hy, hnone'⟩ | ⟨kind, hkind, hsome⟩ := H.hash_cases w
    · rw [hx, hy, hnone, hnone']
      cases halike : v.alike w with
      | false => simp [bind, Except.bind, pure, Except.pure]
      | true =>
        have hxy : x = y := Except.ok.inj ((hH.hash_eq hv hw halike hx).symm.trans hy)
        simp [bind, Except.bind, pure, Except.pure, hxy]
    · rw [hx, hkind, hnone, hsome]
      rfl
  · rw [hkind, hsome]
    rfl

end Hashing

end CHeaders
