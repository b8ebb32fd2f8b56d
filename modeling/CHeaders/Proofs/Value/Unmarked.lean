import CHeaders.Proofs.Value.Equivalence

/-!
# Values without their marks

Two cells with the same mark are one and the same, and no more is asked about them when they are
compared. This is a shortcut: if every mark stands for one value, and a value is equal to itself,
then it is equal to exactly what it is equal to without any marks.

## Main definitions

* `CHeaders.Value.unmarked`: a value without the marks in it.
* `CHeaders.Value.IsMarkedBy`: the values in which every mark stands for one value.
* `CHeaders.Value.IsDefinite`: the values that are equal to themselves without any marks.

## Main results

* `CHeaders.Value.IsMarkedBy.related_eq`: marks do not matter to values that are related to
  themselves.
* `CHeaders.Value.HasKey.isDefinite`: leaves are definite, if they are compared by anything.
* `CHeaders.Value.IsDefinite.related_eq`: neither marks nor likeness matter to definite values.
-/

namespace CHeaders.Value

open CHeaders.Value.Composition (Matches)

mutual

/-- The value without the marks in it. -/
def unmarked : Value → Value
  | shared _ v => v.unmarked
  | cons h t => cons h.unmarked t.unmarked
  | list xs => list (allUnmarked xs)
  | tuple xs => tuple (allUnmarked xs)
  | set xs => set (allUnmarked xs)
  | dict es => dict (entriesUnmarked es)
  | call op args => call op.unmarked args.unmarked
  | declaration t c => declaration t.unmarked c.unmarked
  | plan n d g i => plan n.unmarked d.unmarked g.unmarked i.unmarked
  | step f args => step f.unmarked args.unmarked
  | position l c f => position l.unmarked c.unmarked f.unmarked
  | symbolKey s i p => symbolKey s.unmarked i.unmarked p.unmarked
  | v => v

/-- Several values without the marks in them. -/
def allUnmarked : List Value → List Value
  | [] => []
  | x :: xs => x.unmarked :: allUnmarked xs

/-- The entries of a mapping without the marks in them. -/
def entriesUnmarked : List (Value × Value) → List (Value × Value)
  | [] => []
  | (k, v) :: es => (k.unmarked, v.unmarked) :: entriesUnmarked es

end

/-- Several values lose their marks one by one. -/
theorem allUnmarked_eq_map (xs : List Value) : allUnmarked xs = xs.map unmarked := by
  induction xs with
  | nil => rfl
  | cons x xs ih => rw [allUnmarked, ih, List.map_cons]

/-- Entries lose their marks one by one. -/
theorem entriesUnmarked_eq_map (es : List (Value × Value)) :
    entriesUnmarked es = es.map fun e => (e.1.unmarked, e.2.unmarked) := by
  induction es with
  | nil => rfl
  | cons e es ih => rw [entriesUnmarked, ih, List.map_cons]

/-- A value without marks is made of the parts without marks. -/
theorem composition_unmarked : ∀ v : Value, v.unmarked.composition = v.composition.map unmarked
  | shared _ v => composition_unmarked v
  | list xs | tuple xs => by
    simp only [unmarked, composition, Composition.map, allUnmarked_eq_map]
  | set xs | dict xs => by
    simp [unmarked, composition, Composition.map, allUnmarked_eq_map, entriesUnmarked_eq_map]
  | none | bool _ | int _ | real _ | text _ | fragment _ | bytes _ | moment _ | nil | cons _ _
  | foreign _ | call _ _ | declaration _ _ | plan _ _ _ _ | step _ _ | position _ _ _
  | symbolKey _ _ _ | callable _ _ _ _ | cycle _ _ => rfl

/-- There is no mark around a value without marks. -/
theorem isMarked_unmarked : ∀ v : Value, v.unmarked.isMarked = false
  | shared _ v => isMarked_unmarked v
  | none | bool _ | int _ | real _ | text _ | fragment _ | bytes _ | list _ | tuple _ | set _
  | dict _ | moment _ | nil | cons _ _ | foreign _ | call _ _ | declaration _ _ | plan _ _ _ _
  | step _ _ | position _ _ _ | symbolKey _ _ _ | callable _ _ _ _ | cycle _ _ => rfl

/-- The values in which every mark stands for one value, the one that `marks` has for it. -/
inductive IsMarkedBy (marks : Nat → Value) : Value → Prop
  | shared {mark : Nat} {v : Value} (hmark : marks mark = v) (hv : IsMarkedBy marks v) :
      IsMarkedBy marks (.shared mark v)
  | plain {v : Value} (hmarked : v.isMarked = false)
      (hparts : ∀ p ∈ v.composition.parts, IsMarkedBy marks p) : IsMarkedBy marks v

variable {marks : Nat → Value} {loose : Bool} {v w : Value} {c d : Composition Value}

/-- In the parts of a value, marks stand for the same values as in the value. -/
theorem IsMarkedBy.parts (hv : IsMarkedBy marks v) :
    ∀ p ∈ v.composition.parts, IsMarkedBy marks p := by
  induction hv with
  | shared _ _ ih => exact ih
  | plain _ hparts => exact hparts

/-- A value whose mark is that of the other is that other value. -/
theorem IsMarkedBy.eq_of_isSameCell {mark : Nat} (hw : IsMarkedBy marks w)
    (h : isSameCell mark v w = true) : w = .shared mark (marks mark) := by
  unfold isSameCell at h
  split at h
  · obtain rfl := beq_iff_eq.mp h
    cases hw with
    | shared hmark => rw [hmark]
    | plain hmarked => cases hmarked
  · cases h

/-- Compositions match as what their parts are mapped to if the parts are related as these.

**Proof sketch.** By the kinds of the two compositions. Parts in order are related one by one;
entries without an order have their counterparts where what they are mapped to has them. -/
theorem Composition.Matches.map_iff {f : Value → Value}
    (h : ∀ p ∈ c.parts, ∀ q ∈ d.parts,
      related (c.level loose) p q = related (c.level loose) (f p) (f q)) :
    Matches related loose c d ↔ Matches related loose (c.map f) (d.map f) := by
  cases c with
  | leaf v =>
    cases d with
    | leaf w => exact Iff.rfl
    | _ => exact iff_of_false (by rintro ⟨⟩) (by rintro ⟨⟩)
  | ordered kind xs =>
    cases d with
    | ordered kind' ys =>
      simp only [map, matches_ordered_iff, ordered.injEq, and_assoc, exists_and_left,
        exists_eq_left']
      exact and_congr_right fun _ => AllRelated.map_iff h
    | _ => exact iff_of_false (by rintro ⟨⟩) (by rintro ⟨⟩)
  | unordered kind xs =>
    cases d with
    | unordered kind' ys =>
      have hentry : ∀ x ∈ xs, ∀ y ∈ ys,
          (AllRelated true x y ↔ AllRelated true (x.map f) (y.map f)) := fun x hx y hy =>
        AllRelated.map_iff fun p hp q hq =>
          h p (List.mem_flatten.mpr ⟨x, hx, hp⟩) q (List.mem_flatten.mpr ⟨y, hy, hq⟩)
      simp only [map, matches_unordered_iff, unordered.injEq, and_assoc, exists_and_left,
        exists_eq_left', List.length_map, List.mem_map, forall_exists_index, and_imp,
        forall_apply_eq_imp_iff₂, exists_exists_and_eq_and]
      exact and_congr_right fun _ => and_congr_right fun _ => forall₂_congr fun x hx =>
        exists_congr fun y => and_congr_right fun hy => hentry x hx y hy
    | _ => exact iff_of_false (by rintro ⟨⟩) (by rintro ⟨⟩)

/-- A mark is the same for what is without marks, if that is related to itself.

**Proof sketch.** By induction on the marks of the first value. A mark lets the comparison end early
if both values have the same; then they are the same without marks too, and that is related to
itself. What has no mark is compared part by part. -/
theorem IsMarkedBy.related_eq (hv : IsMarkedBy marks v) (hw : IsMarkedBy marks w)
    (hproper : IsProper v.unmarked) (hself : related loose v.unmarked v.unmarked = true) :
    related loose v w = related loose v.unmarked w.unmarked := by
  induction hv generalizing loose w with
  | @shared mark v hmark hv ih =>
    rw [related, ih hw hproper hself]
    cases hsame : isSameCell mark v w with
    | false => rfl
    | true =>
      -- The shortcut: both are the same cell, and it is related to itself.
      rw [hw.eq_of_isSameCell hsame, hmark]
      exact hself.symm
  | @plain v hmarked hparts ih =>
    rw [Bool.eq_iff_iff, related_iff_matches hmarked, related_iff_matches v.isMarked_unmarked,
      composition_unmarked, composition_unmarked]
    rw [related_iff_matches v.isMarked_unmarked] at hself
    have hlevels := hself.related_self hproper.parts hproper.parts
    have hparts := hproper.parts
    rw [composition_unmarked] at hlevels hparts
    rw [Composition.level_map] at hlevels
    refine Matches.map_iff fun p hp q hq => ih p hp (hw.parts q hq) ?_ ?_
    · exact hparts _ (Composition.mem_parts_map hp)
    · exact hlevels _ (Composition.mem_parts_map hp)

/-! ## Definite values -/

/-- The values whose sets and mappings have no entry twice, and which are equal to themselves for
what is in them: a cell is not, if it is so for its mark only. -/
structure IsDefinite (v : Value) : Prop where
  proper : IsProper v.unmarked
  self : v.unmarked.equals v.unmarked = true

/-- A leaf has no marks in it. -/
theorem HasKey.unmarked_eq {k : Key} (h : HasKey loose v k) : v.unmarked = v := by
  cases h with
  | number h => cases v <;> first | rfl | cases h
  | letters h => cases v <;> first | rfl | cases h
  | _ => rfl

/-- There is no mark around a leaf. -/
theorem HasKey.isMarked_eq {k : Key} (h : HasKey loose v k) : v.isMarked = false :=
  h.unmarked_eq ▸ v.isMarked_unmarked

/-- Leaves that are compared by the same thing are equal. -/
theorem HasKey.equals_eq {k : Key} (hv : HasKey false v k) (hw : HasKey false w k) :
    v.equals w = true := by
  rw [equals, related_iff_matches hv.isMarked_eq, hv.composition_eq, hw.composition_eq]
  exact .leaf (leaf_related_iff.mpr ⟨k, hv, hw⟩)

/-- A leaf is definite if it is compared by anything. -/
theorem HasKey.isDefinite {k : Key} (h : HasKey false v k) : IsDefinite v := by
  refine ⟨?_, ?_⟩ <;> rw [h.unmarked_eq]
  · refine .mk h.isMarked_eq ?_ ?_ <;> rw [h.composition_eq]
    · trivial
    · exact fun _ hp => absurd hp List.not_mem_nil
  · exact h.equals_eq h

/-- In a leaf, there are no marks that could stand for different values. -/
theorem HasKey.isMarkedBy {k : Key} (h : HasKey loose v k) (marks : Nat → Value) :
    IsMarkedBy marks v :=
  .plain h.isMarked_eq fun p hp => by rw [h.composition_eq] at hp; cases hp

/-- Marks do not matter to the comparison of a definite value. -/
theorem IsDefinite.related_eq (hv : IsDefinite v) (hmarked : IsMarkedBy marks v)
    (hw : IsMarkedBy marks w) (loose : Bool) :
    related loose v w = related false v.unmarked w.unmarked := by
  have hlike : related loose v.unmarked v.unmarked = true := by
    cases loose with
    | false => exact hv.self
    | true => exact (hv.proper.related_true_eq hv.self _).trans hv.self
  rw [hmarked.related_eq hw hv.proper hlike]
  cases loose with
  | false => rfl
  | true => exact hv.proper.related_true_eq hv.self _

end CHeaders.Value
