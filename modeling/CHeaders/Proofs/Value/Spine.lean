import CHeaders.Proofs.Value.Unmarked
import CHeaders.Sequence

/-!
# Spines of chains

The spine of a chain is what a loop along its cells finds: the heads, one after the other, and the
end. Two chains are compared head by head, and then end by end, so a comparison of chains is a
comparison of spines. Whatever holds everywhere in a chain holds of its spine, and a chain can be
made again from its spine, of cells that are not shared.

## Main results

* `CHeaders.Value.related_iff_spine`: comparison of chains in terms of heads and ends.
* `CHeaders.Value.isDefinite_of_spine`: a chain is definite if its heads and its end are.
* `CHeaders.Value.spine_chain`: the spine of a chain that is made of one.
-/

namespace CHeaders.Value

variable {loose : Bool} {v w : Value} {marks : Nat → Value}

/-! ## Heads and ends -/

/-- Marks do not matter to the spine of a chain. -/
theorem spine_bare : ∀ v : Value, v.bare.spine = v.spine
  | shared _ v => spine_bare v
  | none | bool _ | int _ | real _ | text _ | fragment _ | bytes _ | list _ | tuple _ | set _
  | dict _ | moment _ | nil | cons _ _ | foreign _ | call _ _ | declaration _ _ | plan _ _ _ _
  | step _ _ | position _ _ _ | symbolKey _ _ _ | callable _ _ _ _ | cycle _ _ => rfl

/-- What holds of a chain and of what its cells are made of holds of its heads and of its end. -/
theorem forall_spine {P : Value → Prop} (hshared : ∀ mark v, P (.shared mark v) → P v)
    (hcons : ∀ h t, P (.cons h t) → P h ∧ P t) (v : Value) (hv : P v) :
    (∀ x ∈ v.spine.1, P x) ∧ P v.spine.2 := by
  fun_induction spine v with
  | case1 mark v ih => exact ih (hshared mark v hv)
  | case2 h t ih =>
    obtain ⟨hh, ht⟩ := hcons h t hv
    obtain ⟨hheads, hlast⟩ := ih ht
    exact ⟨List.forall_mem_cons.mpr ⟨hh, hheads⟩, hlast⟩
  | case3 v _ _ => exact ⟨fun _ hx => absurd hx List.not_mem_nil, hv⟩

/-- The spine of a chain without marks has the same heads and the same end, without marks. -/
theorem spine_unmarked (v : Value) :
    v.unmarked.spine = (v.spine.1.map unmarked, v.spine.2.unmarked) := by
  fun_induction spine v with
  | case1 mark v ih => exact ih
  | case2 h t ih => simp only [unmarked, spine, ih, List.map_cons]
  | case3 v hshared hcons =>
    cases v with
    | shared mark v => exact absurd rfl (hshared mark v)
    | cons h t => exact absurd rfl (hcons h t)
    | _ => rfl

/-! ## Comparison -/

/-- Marks around the second value do not matter to the comparison, if there are none around the
first. -/
theorem related_bare (hmarked : v.isMarked = false) (w : Value) :
    related loose v w.bare = related loose v w := by
  rw [Bool.eq_iff_iff, related_iff_matches hmarked, related_iff_matches hmarked, composition_bare]

/-- What is no cell is related to no cell. -/
theorem related_cons_eq_false (hmarked : v.isMarked = false) (hcell : ∀ h t, v ≠ .cons h t)
    (h t : Value) : related loose v (.cons h t) = false := by
  rw [Bool.eq_false_iff, ne_eq, related_iff_matches hmarked]
  intro hmatches
  cases v with
  | shared => cases hmarked
  | cons h t => exact hcell h t rfl
  | _ => cases hmatches

/-- A cell is related to cells only, by heads and by tails. -/
theorem cons_related_iff {h t : Value} : related loose (.cons h t) w = true ↔
    ∃ h' t', w.bare = .cons h' t' ∧ related loose h h' = true ∧ related loose t t' = true := by
  rw [related]
  split
  · next h' t' hw => simp [hw]
  · next hcell =>
    refine iff_of_false Bool.false_ne_true ?_
    rintro ⟨h', t', hw, -⟩
    exact hcell h' t' hw

/-- What has no mark around it is a cell, or it is its own spine. -/
theorem cell_or_spine_eq (hmarked : v.isMarked = false) :
    (∃ h t, v = .cons h t) ∨ ((∀ h t, v ≠ .cons h t) ∧ v.spine = ([], v)) := by
  cases v with
  | shared => cases hmarked
  | cons h t => exact .inl ⟨h, t, rfl⟩
  | _ =>
    refine .inr ⟨?_, rfl⟩
    rintro _ _ ⟨⟩

/-- Two chains are equal if their heads are, one by one, and their ends are.

**Proof sketch.** By induction on the first chain. A cell is related to cells only, and to these by
head and tail. What is no cell has no heads, and is not related to a cell either. -/
theorem related_iff_spine (hv : IsProper v) (w : Value) :
    related loose v w = true ↔
      AllRelated loose v.spine.1 w.spine.1 ∧ related loose v.spine.2 w.spine.2 = true := by
  fun_induction spine v generalizing w with
  | case1 mark v ih => cases hv.isMarked_eq
  | case2 h t ih =>
    have ht : IsProper t := hv.parts t (by simp [composition, Composition.parts])
    rw [cons_related_iff, ← w.spine_bare]
    obtain ⟨h', t', hw⟩ | ⟨hcell, hspine⟩ := cell_or_spine_eq w.isMarked_bare
    · rw [hw, spine]
      simp [AllRelated, ih ht, and_assoc]
    · rw [hspine]
      refine iff_of_false ?_ (by rintro ⟨⟨⟩, -⟩)
      rintro ⟨h', t', hw, -⟩
      exact hcell h' t' hw
  | case3 v hshared hcons =>
    have hmarked := hv.isMarked_eq
    rw [← related_bare hmarked, ← w.spine_bare]
    obtain ⟨h', t', hw⟩ | ⟨-, hspine⟩ := cell_or_spine_eq w.isMarked_bare
    · rw [hw, related_cons_eq_false hmarked hcons]
      exact iff_of_false Bool.false_ne_true (by rintro ⟨⟨⟩, -⟩)
    · rw [hspine]
      exact (and_iff_right .nil).symm

/-- A chain is definite if its heads are and its end is. -/
theorem isDefinite_of_spine (hheads : ∀ x ∈ v.spine.1, IsDefinite x)
    (hlast : IsDefinite v.spine.2) : IsDefinite v := by
  have hproper : IsProper v.unmarked := by
    fun_induction spine v with
    | case1 mark v ih => exact ih hheads hlast
    | case2 h t ih =>
      obtain ⟨hh, ht⟩ := List.forall_mem_cons.mp hheads
      refine .mk rfl trivial ?_
      simpa [unmarked, composition, Composition.parts] using ⟨hh.proper, ih ht hlast⟩
    | case3 v _ _ => exact hlast.proper
  refine ⟨hproper, (related_iff_spine hproper _).mpr ?_⟩
  rw [spine_unmarked]
  refine ⟨List.forall₂_same.mpr fun y hy => ?_, hlast.self⟩
  obtain ⟨x, hx, rfl⟩ := List.mem_map.mp hy
  exact (hheads x hx).self

/-! ## Marks -/

/-- In the heads and in the end of a chain, marks stand for the same values as in the chain. -/
theorem IsMarkedBy.spine (hv : IsMarkedBy marks v) :
    (∀ x ∈ v.spine.1, IsMarkedBy marks x) ∧ IsMarkedBy marks v.spine.2 := by
  refine forall_spine (fun mark v hv => ?_) (fun h t hv => ?_) v hv
  · cases hv with
    | shared _ hv => exact hv
    | plain hmarked => cases hmarked
  · exact ⟨hv.parts h (by simp [composition, Composition.parts]),
      hv.parts t (by simp [composition, Composition.parts])⟩

/-! ## Chains that are made of spines -/

/-- The end of a chain has no heads. -/
theorem spine_last (v : Value) : v.spine.2.spine = ([], v.spine.2) := by
  fun_induction spine v with
  | case1 mark v ih => exact ih
  | case2 h t ih => exact ih
  | case3 v hshared hcons =>
    cases v with
    | shared mark v => exact absurd rfl (hshared mark v)
    | cons h t => exact absurd rfl (hcons h t)
    | _ => rfl

/-- The spine of a chain is what it is made of. -/
theorem spine_chain {last : Value} (hlast : last.spine = ([], last)) (xs : List Value) :
    (chain xs last).spine = (xs, last) := by
  induction xs with
  | nil => exact hlast
  | cons x xs ih =>
    change (x :: (chain xs last).spine.1, (chain xs last).spine.2) = _
    rw [ih]

/-- In a chain, marks stand for the same values as in its heads and in its end. -/
theorem IsMarkedBy.chain {xs : List Value} {last : Value} (hxs : ∀ x ∈ xs, IsMarkedBy marks x)
    (hlast : IsMarkedBy marks last) : IsMarkedBy marks (Value.chain xs last) := by
  induction xs with
  | nil => exact hlast
  | cons x xs ih =>
    obtain ⟨hx, hxs⟩ := List.forall_mem_cons.mp hxs
    refine .plain rfl ?_
    simpa [Value.chain, composition, Composition.parts] using ⟨hx, ih hxs⟩

/-- A sequence is empty, a cell, or of another family. -/
theorem isSequence_cases {v : Value} (hv : v.isSequence = true) :
    v = .nil ∨ (∃ h t, v = .cons h t) ∨ ∃ serial, v = .foreign serial := by
  cases v with
  | nil => exact .inl rfl
  | cons h t => exact .inr (.inl ⟨h, t, rfl⟩)
  | foreign serial => exact .inr (.inr ⟨serial, rfl⟩)
  | _ => cases hv

/-- What is made of the spine of a sequence is a sequence. -/
theorem isSequence_chain_spine (hv : v.bare.isSequence = true) :
    (chain v.spine.1 v.spine.2).bare.isSequence = true := by
  rw [← v.spine_bare]
  obtain ⟨h, t, hcell⟩ | ⟨-, hspine⟩ := cell_or_spine_eq v.isMarked_bare
  · rw [hcell]
    rfl
  · rw [hspine]
    obtain hnil | ⟨h, t, hcell⟩ | ⟨serial, hforeign⟩ := isSequence_cases hv
    · rw [hnil]
      rfl
    · rw [hcell]
      rfl
    · rw [hforeign]
      rfl

end CHeaders.Value
