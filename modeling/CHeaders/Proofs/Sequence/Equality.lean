import CHeaders.Proofs.Value.Hash
import CHeaders.Proofs.Value.Spine

/-!
# Equality of sequences

Two sequences are equal if and only if their heads are, one by one, and their ends are. This is so
although cells that are shared are not looked into, provided that every head and every end is equal
to itself: a cell that is shared would be found equal to itself. From this and from what is known
about values it follows that equality of sequences is an equivalence, that to differ is its
negation, and that a set of two sequences has one element if and only if they are equal.

## Main definitions

* `CHeaders.Sequence.IsComparable`: sequences in which every head and the end is equal to itself.

## Main results

* `CHeaders.Sequence.IsComparable.equals_iff`: equality of sequences in terms of heads and ends.
* `CHeaders.Sequence.IsComparable.chain_equals_eq`: it does not matter which cells are shared.
* `CHeaders.Sequence.IsComparable.same_eq`: what the members of each family know about others.
* `CHeaders.Sequence.walk_eq_spine`: a hash is made of those of the heads and of the end.
* `CHeaders.Sequence.equality_structural`: equality of sequences is structural, an equivalence, and
  consistent with hashes.
-/

namespace CHeaders.Sequence

open Value (IsMarkedBy IsDefinite HasKey AllRelated related)

variable {marks : Nat → Value} {a b c : Value}

/-- The sequences in which every mark stands for one value, and every head and the end is equal to
itself. Two sequences that are comparable for the same marks may have cells in common. -/
structure IsComparable (marks : Nat → Value) (v : Value) : Prop where
  isSequence : v.bare.isSequence = true
  isMarkedBy : IsMarkedBy marks v
  heads : ∀ x ∈ v.spine.1, IsDefinite x
  last : IsDefinite v.spine.2

/-- To differ is not to be the same. -/
theorem differs_eq_not_same (v w : Value) : differs v w = !same v w := by
  rw [differs, same]
  cases answer? v w <;> cases answer? w v <;> rfl

namespace IsComparable

/-- A comparable sequence is equal to itself. -/
theorem isDefinite (ha : IsComparable marks a) : IsDefinite a :=
  Value.isDefinite_of_spine ha.heads ha.last

/-- Two sequences are equal if and only if their heads are, one by one, and their ends are. -/
theorem equals_iff (ha : IsComparable marks a) (hb : IsComparable marks b) : a.equals b = true ↔
    List.Forall₂ (fun x y => x.equals y = true) a.spine.1 b.spine.1 ∧
      a.spine.2.equals b.spine.2 = true := by
  obtain ⟨hheads, hlast⟩ := ha.isMarkedBy.spine
  obtain ⟨hheads', hlast'⟩ := hb.isMarkedBy.spine
  rw [Value.equals, ha.isDefinite.related_eq ha.isMarkedBy hb.isMarkedBy,
    Value.related_iff_spine ha.isDefinite.proper, Value.spine_unmarked, Value.spine_unmarked,
    Value.equals, ha.last.related_eq hlast hlast']
  refine and_congr_left fun _ => (AllRelated.map_iff fun x hx y hy => ?_).symm
  exact (ha.heads x hx).related_eq (hheads x hx) (hheads' y hy) false

/-- Equality is symmetric. -/
theorem equals_comm (ha : IsComparable marks a) (hb : IsComparable marks b) :
    a.equals b = b.equals a := by
  rw [Value.equals, Value.equals, ha.isDefinite.related_eq ha.isMarkedBy hb.isMarkedBy,
    hb.isDefinite.related_eq hb.isMarkedBy ha.isMarkedBy, Bool.eq_iff_iff]
  exact ⟨ha.isDefinite.proper.symm hb.isDefinite.proper,
    hb.isDefinite.proper.symm ha.isDefinite.proper⟩

/-- Equality is transitive. -/
theorem equals_trans (ha : IsComparable marks a) (hb : IsComparable marks b)
    (hc : IsComparable marks c) (hab : a.equals b = true) (hbc : b.equals c = true) :
    a.equals c = true := by
  rw [Value.equals, ha.isDefinite.related_eq ha.isMarkedBy hb.isMarkedBy] at hab
  rw [Value.equals, hb.isDefinite.related_eq hb.isMarkedBy hc.isMarkedBy] at hbc
  rw [Value.equals, ha.isDefinite.related_eq ha.isMarkedBy hc.isMarkedBy]
  exact ha.isDefinite.proper.trans hb.isDefinite.proper hc.isDefinite.proper hab hbc

/-- Likeness of sequences is equality. -/
theorem alike_eq (ha : IsComparable marks a) (hb : IsComparable marks b) :
    a.alike b = a.equals b := by
  rw [Value.alike, Value.equals, ha.isDefinite.related_eq ha.isMarkedBy hb.isMarkedBy,
    ha.isDefinite.related_eq ha.isMarkedBy hb.isMarkedBy]

/-- A sequence that knows another one knows whether they are equal, and one that does not is
different. -/
theorem answer?_cases (ha : IsComparable marks a) (hb : IsComparable marks b) :
    answer? a b = some (a.equals b) ∨ answer? a b = none ∧ a.equals b = false := by
  have hiff := ha.equals_iff hb
  rw [← a.spine_bare, ← b.spine_bare] at hiff
  rw [answer?]
  generalize a.equals b = equal at hiff ⊢
  -- There are three families, and the answer of each is read off for each family of the other.
  obtain ha | ⟨h, t, ha⟩ | ⟨serial, ha⟩ := Value.isSequence_cases ha.isSequence <;>
    obtain hb | ⟨h', t', hb⟩ | ⟨serial', hb⟩ := Value.isSequence_cases hb.isSequence <;>
    rw [ha, hb] at hiff ⊢ <;>
    simp [Value.spine, Value.equals, related, Value.bare, Value.equalsAtom, Value.number?,
      Value.text?] at hiff ⊢
  case inr.inr.inr.inr => by_cases hserial : serial = serial' <;> simpa [hserial] using hiff
  all_goals exact hiff

/-- Whether sequences are the same is whether they are equal. -/
theorem same_eq (ha : IsComparable marks a) (hb : IsComparable marks b) :
    same a b = a.equals b := by
  have hba := hb.answer?_cases ha
  rw [hb.equals_comm ha] at hba
  rw [same]
  obtain h | ⟨h, heq⟩ := ha.answer?_cases hb
  · rw [h]
    rfl
  · obtain h' | ⟨h', -⟩ := hba <;> rw [h, h', heq] <;> rfl

/-- A cell and the empty sequence are not equal. -/
theorem equals_nil_eq (ha : IsComparable marks a) (hb : IsComparable marks b) {h t : Value}
    (hcell : a.bare = .cons h t) (hnil : b.bare = .nil) : a.equals b = false := by
  rw [Bool.eq_false_iff, ne_eq, ha.equals_iff hb, ← a.spine_bare, ← b.spine_bare, hcell, hnil]
  rintro ⟨⟨⟩, -⟩

/-- A sequence made of the heads and the end of a comparable one, of cells that are not shared, is
comparable. -/
theorem chain_spine (ha : IsComparable marks a) :
    IsComparable marks (Value.chain a.spine.1 a.spine.2) := by
  obtain ⟨hheads, hlast⟩ := ha.isMarkedBy.spine
  refine ⟨Value.isSequence_chain_spine ha.isSequence, hlast.chain hheads, ?_, ?_⟩
  · rw [Value.spine_chain a.spine_last]
    exact ha.heads
  · rw [Value.spine_chain a.spine_last]
    exact ha.last

/-- It does not matter to equality which cells are shared. -/
theorem chain_equals_eq (ha : IsComparable marks a) (hb : IsComparable marks b) :
    (Value.chain a.spine.1 a.spine.2).equals (Value.chain b.spine.1 b.spine.2) = a.equals b := by
  rw [Bool.eq_iff_iff, ha.chain_spine.equals_iff hb.chain_spine, ha.equals_iff hb,
    Value.spine_chain a.spine_last, Value.spine_chain b.spine_last]

end IsComparable

/-! ## Hashes -/

/-- The walk for a hash hashes the heads of a chain one by one, and then its end. -/
theorem walk_eq_spine {κ : Type} (H : Hashing κ) (v : Value) : H.walk v = (do
    let xs ← v.spine.1.mapM H.hash
    let last ← H.hash v.spine.2
    return (xs, last)) := by
  fun_induction Value.spine v with
  | case1 mark v ih => exact ih
  | case2 h t ih =>
    have hhash : H.hash h = (H.walk h).map H.close := rfl
    rw [Hashing.walk, Hashing.ofCell, ih, List.mapM_cons, hhash]
    cases H.walk h with
    | error => rfl
    | ok r =>
      cases t.spine.1.mapM H.hash with
      | error => rfl
      | ok xs => cases H.hash t.spine.2 <;> rfl
  | case3 v hshared hcons =>
    have hmarked : v.isMarked = false := by
      cases v with
      | shared mark v => exact absurd rfl (hshared mark v)
      | _ => rfl
    rw [Hashing.walk_eq_map_hash hmarked fun h t hv => hcons h t hv]
    cases H.hash v <;> rfl

/-! ## The whole -/

/-- Equality of sequences is structural, an equivalence, and consistent with hashes. -/
theorem equality_structural {κ : Type} [DecidableEq κ] {H : Hashing κ} (hH : H.IsConsistent)
    (ha : IsComparable marks a) (hb : IsComparable marks b) (hc : IsComparable marks c) :
    (a.equals b = true ↔
      List.Forall₂ (fun x y => x.equals y = true) a.spine.1 b.spine.1 ∧
        a.spine.2.equals b.spine.2 = true) ∧
    (Value.chain a.spine.1 a.spine.2).equals (Value.chain b.spine.1 b.spine.2) = a.equals b ∧
    (∀ h t, a.bare = .cons h t → b.bare = .nil → same a b = false ∧ same b a = false) ∧
    a.equals a = true ∧ a.equals b = b.equals a ∧
    (a.equals b = true → b.equals c = true → a.equals c = true) ∧
    same a b = a.equals b ∧ (differs a b = !a.equals b) ∧
    (∀ x, a.equals b = true → H.hash a = .ok x → H.hash b = .ok x) ∧
    H.distinctCount a b = a.distinctCount b ∧
    (a.unhashable? = none → b.unhashable? = none →
      H.distinctCount a b = .ok (if a.equals b = true then 1 else 2)) := by
  have hcount := hH.distinctCount_eq ha.isMarkedBy hb.isMarkedBy
  refine ⟨ha.equals_iff hb, ha.chain_equals_eq hb, fun h t hcell hnil => ?_, ?_,
    ha.equals_comm hb, ha.equals_trans hb hc, ha.same_eq hb,
    (differs_eq_not_same a b).trans (congrArg not (ha.same_eq hb)),
    fun x hab hx => hH.hash_eq ha.isMarkedBy hb.isMarkedBy hab hx, hcount, fun ha' hb' => ?_⟩
  · rw [ha.same_eq hb, hb.same_eq ha, ← ha.equals_comm hb, ha.equals_nil_eq hb hcell hnil]
    exact ⟨rfl, rfl⟩
  · exact (ha.isDefinite.related_eq ha.isMarkedBy ha.isMarkedBy false).trans ha.isDefinite.self
  · rw [hcount, Value.distinctCount, ha', hb', ha.alike_eq hb]
    rfl

/-- Hashes in words of 64 bits. A whole number is its own hash, and that of a tuple is mixed from
those of its items; what is no number is hashed like the empty tuple. -/
def wordHashing : Hashing UInt64 where
  leaf v := (v.number?.map ofNumber).getD (mix [])
  tuple := mix
where
  /-- The hash of a number. -/
  ofNumber : Value.Number → UInt64
    | .exact d => UInt64.ofInt d.toRat.num
    | .infinite negative => if negative then 0 - 314159 else 314159
  /-- The hash of a tuple. -/
  mix (xs : List UInt64) : UInt64 :=
    xs.foldl step 2870177450012600261 +
      (UInt64.ofNat xs.length ^^^ 2870177450012600261 ^^^ 3527539)
  /-- One item more: it is added in, and the sum is turned by 31 places. -/
  step (acc x : UInt64) : UInt64 :=
    let sum := acc + x * 14029467366897019727
    (sum <<< 31 ||| sum >>> 33) * 11400714785074694791

/-- Leaves that are alike have the same hash. -/
theorem wordHashing_isConsistent : wordHashing.IsConsistent where
  leaf_eq := by
    intro v w h
    have hlike : (Value.equalsAtom v w || true && Value.isSameNaN v w) = true := by simpa using h
    obtain ⟨k, hv, hw⟩ := Value.leaf_related_iff.mp hlike
    exact congrArg (fun x => (x.map wordHashing.ofNumber).getD (wordHashing.mix []))
      (hv.number?_eq hw)

/-- A chain that other chains have in common. -/
def commonRest : Value :=
  .cons (.int 2) .nil

/-- A value in front of the common rest. -/
def inFront (head : Value) : Value :=
  .cons head (.shared 0 commonRest)

/-- What is in front of the common rest is comparable if it is a leaf that is equal to itself. -/
theorem isComparable_inFront {head : Value} {k : Value.Key} (hhead : HasKey false head k) :
    IsComparable (fun _ => commonRest) (inFront head) := by
  have htwo : HasKey false (.int 2) _ := .number rfl
  have hnil : HasKey false .nil .nil := .nil
  have hrest : IsMarkedBy (fun _ => commonRest) commonRest :=
    IsMarkedBy.chain (List.forall_mem_singleton.mpr (htwo.isMarkedBy _)) (hnil.isMarkedBy _)
  refine ⟨rfl, .plain rfl ?_, ?_, hnil.isDefinite⟩
  · simpa [inFront, Value.composition, Value.Composition.parts] using
      ⟨hhead.isMarkedBy _, IsMarkedBy.shared rfl hrest⟩
  · simpa [inFront, commonRest, Value.spine] using ⟨hhead.isDefinite, htwo.isDefinite⟩

/-- What is equal in front of the common rest makes equal chains. -/
theorem spine_inFront {head head' : Value} (h : head.equals head' = true) :
    List.Forall₂ (fun x y => x.equals y = true) (inFront head).spine.1 (inFront head').spine.1 := by
  have htwo : HasKey false (.int 2) _ := .number rfl
  exact .cons h (.cons (htwo.equals_eq htwo) .nil)

/-- The number one, a truth value and the real one in front of a common rest are equal, with or
without the rest in common, and two of them make one element of a set. -/
theorem equality_structural_common_rest :
    (inFront (.int 1)).equals (inFront (.bool true)) = true ∧
    (inFront (.int 1)).equals (inFront (.real (.finite false 4503599627370496 (-52)))) = true ∧
    (Value.chain [.int 1, .int 2] .nil).equals (.chain [.bool true, .int 2] .nil) = true ∧
    differs (inFront (.int 1)) (inFront (.bool true)) = false ∧
    wordHashing.distinctCount (inFront (.int 1)) (inFront (.bool true)) = .ok 1 := by
  have hint : HasKey false (.int 1) (.number (.exact (Dyadic.ofInt 1))) := .number (by decide)
  have hbool : HasKey false (.bool true) (.number (.exact (Dyadic.ofInt 1))) := .number (by decide)
  have hreal : HasKey false (.real (.finite false 4503599627370496 (-52)))
    (.number (.exact (Dyadic.ofInt 1))) := .number (by decide)
  have hnil : HasKey false .nil .nil := .nil
  obtain ⟨hiff, hcells, -, -, -, htrans, -, hdiffers, -, -, hcount⟩ :=
    equality_structural wordHashing_isConsistent (isComparable_inFront hint)
      (isComparable_inFront hbool) (isComparable_inFront hreal)
  have hequal := hiff.mpr ⟨spine_inFront (hint.equals_eq hbool), hnil.equals_eq hnil⟩
  have hequal' := ((isComparable_inFront hbool).equals_iff (isComparable_inFront hreal)).mpr
    ⟨spine_inFront (hbool.equals_eq hreal), hnil.equals_eq hnil⟩
  refine ⟨hequal, htrans hequal hequal', hcells.trans hequal, ?_, ?_⟩
  · rw [hdiffers, hequal]
    rfl
  · rw [hcount rfl rfl, hequal]
    rfl

end CHeaders.Sequence
