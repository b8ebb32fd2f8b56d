import CHeaders.Value.Equality

/-!
# Equality of plans and documents

Equality compares numbers by what they are worth and texts by their letters, so it does not tell a
generated text from another one. On the values of which plans and their documents are made, two
values are equal as soon as they are the same up to this difference. Equality is reflexive, but for
reals that are not a number.

## Main definitions

* `CHeaders.Value.asRead`: a value in which every generated text has become an ordinary one.
* `CHeaders.Value.isPlanData`: the values of which plans and their documents are made.
* `CHeaders.Value.isNaNFree`: the values without reals that are not a number.

## Main results

* `CHeaders.Value.equals_of_asRead_eq`: plan data that is the same up to generated texts is equal.
* `CHeaders.Value.equals_self`: a value without reals that are not a number equals itself.
-/

namespace CHeaders.Value

/-! ## Plan data -/

mutual

/-- The value in which every generated text has become an ordinary one. -/
def asRead : Value → Value
  | fragment t => text t
  | list xs => list (allAsRead xs)
  | dict es => dict (entriesAsRead es)
  | call op args => call op.asRead args.asRead
  | declaration term comment => declaration term.asRead comment.asRead
  | plan name ds guard includes => plan name.asRead ds.asRead guard.asRead includes.asRead
  | v => v

/-- The same for several values. -/
def allAsRead : List Value → List Value
  | [] => []
  | x :: xs => x.asRead :: allAsRead xs

/-- The same for the entries of a mapping. -/
def entriesAsRead : List (Value × Value) → List (Value × Value)
  | [] => []
  | (k, v) :: es => (k.asRead, v.asRead) :: entriesAsRead es

end

mutual

/-- Whether a value is of the kinds of which plans and their documents are made. -/
def isPlanData : Value → Bool
  | none | int _ | text _ | fragment _ => true
  | list xs => allPlanData xs
  | dict es => entriesPlanData es
  | call op args => op.isPlanData && args.isPlanData
  | declaration term comment => term.isPlanData && comment.isPlanData
  | plan name ds guard includes =>
    name.isPlanData && ds.isPlanData && guard.isPlanData && includes.isPlanData
  | _ => false

/-- Whether several values are plan data. -/
def allPlanData : List Value → Bool
  | [] => true
  | x :: xs => x.isPlanData && allPlanData xs

/-- Whether the entries of a mapping are plan data. -/
def entriesPlanData : List (Value × Value) → Bool
  | [] => true
  | (k, v) :: es => k.isPlanData && v.isPlanData && entriesPlanData es

end

/-- Several values become ordinary one by one. -/
@[simp] theorem allAsRead_eq_map (xs : List Value) : allAsRead xs = xs.map asRead := by
  induction xs with
  | nil => rfl
  | cons x xs ih => rw [allAsRead, ih, List.map_cons]

/-- Several values are plan data if each of them is. -/
@[simp] theorem allPlanData_eq_all (xs : List Value) : allPlanData xs = xs.all isPlanData := by
  induction xs with
  | nil => rfl
  | cons x xs ih => rw [allPlanData, ih, List.all_cons]

mutual

/-- A value whose texts are ordinary stays as it is. -/
theorem asRead_asRead : ∀ v : Value, v.asRead.asRead = v.asRead
  | list xs => congrArg list (allAsRead_allAsRead xs)
  | dict es => congrArg dict (entriesAsRead_entriesAsRead es)
  | call op args => by simp only [asRead, asRead_asRead op, asRead_asRead args]
  | declaration term comment => by
    simp only [asRead, asRead_asRead term, asRead_asRead comment]
  | plan name ds guard includes => by
    simp only [asRead, asRead_asRead name, asRead_asRead ds, asRead_asRead guard,
      asRead_asRead includes]
  | none | bool _ | int _ | real _ | text _ | fragment _ | bytes _ | tuple _ | set _ | moment _
  | nil | cons _ _ | foreign _ | step _ _ | position _ _ _ | symbolKey _ _ _
  | callable _ _ _ _ | shared _ _ | cycle _ _ => rfl

/-- The same for several values. -/
theorem allAsRead_allAsRead : ∀ xs : List Value, allAsRead (allAsRead xs) = allAsRead xs
  | [] => rfl
  | x :: xs => by simp only [allAsRead, asRead_asRead x, allAsRead_allAsRead xs]

/-- The same for entries. -/
theorem entriesAsRead_entriesAsRead : ∀ es : List (Value × Value),
    entriesAsRead (entriesAsRead es) = entriesAsRead es
  | [] => rfl
  | (k, v) :: es => by
    simp only [entriesAsRead, asRead_asRead k, asRead_asRead v, entriesAsRead_entriesAsRead es]

end

mutual

/-- Plan data that is the same up to generated texts is equal, however it is compared.

**Proof sketch.** Induction on the first value, mutual with that on lists and entries. The second
value has the same constructor, except where one is a text and the other a generated text, which
are compared by their letters. An entry of a mapping has its partner at the same place of the other
mapping. -/
theorem related_of_asRead_eq (loose : Bool) : ∀ v w : Value, v.isPlanData = true →
    w.isPlanData = true → v.asRead = w.asRead → related loose v w = true
  | .none, w, _, hw, h => by
    cases w <;> simp_all [asRead, isPlanData]
    simp [related, bare, equalsAtom, number?, text?]
  | .int n, w, _, hw, h => by
    cases w <;> simp_all [asRead, isPlanData]
    simp [related, bare, equalsAtom, number?]
  | .text s, w, _, hw, h => by
    cases w <;> simp_all [asRead, isPlanData] <;>
      simp [related, bare, equalsAtom, number?, text?]
  | .fragment s, w, _, hw, h => by
    cases w <;> simp_all [asRead, isPlanData] <;>
      simp [related, bare, equalsAtom, number?, text?]
  | .list xs, w, hv, hw, h => by
    cases w <;> simp only [asRead, reduceCtorEq, Value.list.injEq] at h
    rename_i ys
    simp only [related, bare]
    exact allAlike_of_asRead_eq xs ys hv hw h
  | .dict es, w, hv, hw, h => by
    cases w <;> simp only [asRead, reduceCtorEq, Value.dict.injEq] at h
    rename_i fs
    simp only [related, bare, Bool.and_eq_true, beq_iff_eq]
    exact ⟨length_eq_of_entriesAsRead_eq es fs h, entriesAmong_of_asRead_eq es fs [] hv hw h⟩
  | .call op args, w, hv, hw, h => by
    cases w <;> simp only [asRead, reduceCtorEq, Value.call.injEq] at h
    simp only [isPlanData, Bool.and_eq_true] at hv hw
    simp only [related, bare, Bool.and_eq_true]
    exact ⟨related_of_asRead_eq true op _ hv.1 hw.1 h.1,
      related_of_asRead_eq true args _ hv.2 hw.2 h.2⟩
  | .declaration t c, w, hv, hw, h => by
    cases w <;> simp only [asRead, reduceCtorEq, Value.declaration.injEq] at h
    simp only [isPlanData, Bool.and_eq_true] at hv hw
    simp only [related, bare, Bool.and_eq_true]
    exact ⟨related_of_asRead_eq true t _ hv.1 hw.1 h.1,
      related_of_asRead_eq true c _ hv.2 hw.2 h.2⟩
  | .plan n d g i, w, hv, hw, h => by
    cases w <;> simp only [asRead, reduceCtorEq, Value.plan.injEq] at h
    simp only [isPlanData, Bool.and_eq_true] at hv hw
    simp only [related, bare, Bool.and_eq_true]
    exact ⟨⟨⟨related_of_asRead_eq true n _ hv.1.1.1 hw.1.1.1 h.1,
      related_of_asRead_eq true d _ hv.1.1.2 hw.1.1.2 h.2.1⟩,
      related_of_asRead_eq true g _ hv.1.2 hw.1.2 h.2.2.1⟩,
      related_of_asRead_eq true i _ hv.2 hw.2 h.2.2.2⟩
  | .bool _, _, hv, _, _ | .real _, _, hv, _, _ | .bytes _, _, hv, _, _ | .tuple _, _, hv, _, _
  | .set _, _, hv, _, _ | .moment _, _, hv, _, _ | .nil, _, hv, _, _ | .cons _ _, _, hv, _, _
  | .foreign _, _, hv, _, _ | .step _ _, _, hv, _, _ | .position _ _ _, _, hv, _, _
  | .symbolKey _ _ _, _, hv, _, _ | .callable _ _ _ _, _, hv, _, _ | .shared _ _, _, hv, _, _
  | .cycle _ _, _, hv, _, _ => by simp [isPlanData] at hv

/-- The same for lists. -/
theorem allAlike_of_asRead_eq : ∀ xs ys : List Value, allPlanData xs = true →
    allPlanData ys = true → allAsRead xs = allAsRead ys → allAlike xs ys = true
  | [], [], _, _, _ => by rw [allAlike]
  | [], _ :: _, _, _, h | _ :: _, [], _, _, h => by simp [allAsRead] at h
  | x :: xs, y :: ys, hx, hy, h => by
    simp only [allPlanData, Bool.and_eq_true] at hx hy
    simp only [allAsRead, List.cons.injEq] at h
    simp only [allAlike, Bool.and_eq_true]
    exact ⟨related_of_asRead_eq true x y hx.1 hy.1 h.1,
      allAlike_of_asRead_eq xs ys hx.2 hy.2 h.2⟩

/-- The same for the entries of mappings. The entries that have been compared already stand in
front of those of the second mapping. -/
theorem entriesAmong_of_asRead_eq : ∀ es fs before : List (Value × Value),
    entriesPlanData es = true → entriesPlanData fs = true →
    entriesAsRead es = entriesAsRead fs → entriesAmong es (before ++ fs) = true
  | [], _, _, _, _, _ => by rw [entriesAmong]
  | (k, v) :: es, [], _, _, _, h => by simp [entriesAsRead] at h
  | (k, v) :: es, (k', v') :: fs, before, he, hf, h => by
    simp only [entriesPlanData, Bool.and_eq_true] at he hf
    simp only [entriesAsRead, List.cons.injEq, Prod.mk.injEq] at h
    have hk := related_of_asRead_eq true k k' he.1.1 hf.1.1 h.1.1
    have hv := related_of_asRead_eq true v v' he.1.2 hf.1.2 h.1.2
    have hrest := entriesAmong_of_asRead_eq es fs (before ++ [(k', v')]) he.2 hf.2 h.2
    rw [List.append_assoc, List.singleton_append] at hrest
    simp [entriesAmong, hk, hv, hrest]

/-- Mappings that are the same up to generated texts have equally many entries. -/
theorem length_eq_of_entriesAsRead_eq : ∀ es fs : List (Value × Value),
    entriesAsRead es = entriesAsRead fs → es.length = fs.length
  | [], [], _ => rfl
  | [], _ :: _, h | _ :: _, [], h => by simp [entriesAsRead] at h
  | (_, _) :: es, (_, _) :: fs, h => by
    simp only [entriesAsRead, List.cons.injEq] at h
    simp only [List.length_cons, length_eq_of_entriesAsRead_eq es fs h.2]

end

/-- Plan data that is the same up to generated texts is equal. -/
theorem equals_of_asRead_eq {v w : Value} (hv : v.isPlanData) (hw : w.isPlanData)
    (h : v.asRead = w.asRead) : v.equals w = true :=
  related_of_asRead_eq false v w hv hw h

/-! ## Reflexivity -/

mutual

/-- Whether no part of a value is a real that is not a number. -/
def isNaNFree : Value → Bool
  | real (.nan _) => false
  | list xs | tuple xs | set xs => allNaNFree xs
  | dict es => entriesNaNFree es
  | cons v w | call v w | declaration v w | step v w => v.isNaNFree && w.isNaNFree
  | plan name ds guard includes =>
    name.isNaNFree && ds.isNaNFree && guard.isNaNFree && includes.isNaNFree
  | position u v w | symbolKey u v w => u.isNaNFree && v.isNaNFree && w.isNaNFree
  | shared _ v => v.isNaNFree
  | _ => true

/-- Whether this holds of several values. -/
def allNaNFree : List Value → Bool
  | [] => true
  | x :: xs => x.isNaNFree && allNaNFree xs

/-- Whether this holds of the keys and the values of entries. -/
def entriesNaNFree : List (Value × Value) → Bool
  | [] => true
  | (k, v) :: es => k.isNaNFree && v.isNaNFree && entriesNaNFree es

end

/-- A list has no part that is not a number if no item has one. -/
@[simp] theorem allNaNFree_eq_all (xs : List Value) : allNaNFree xs = xs.all isNaNFree := by
  induction xs with
  | nil => rfl
  | cons x xs ih => rw [allNaNFree, ih, List.all_cons]

mutual

/-- A value without reals that are not a number is equal to what it is without the marks around it,
however it is compared.

**Proof sketch.** Induction on the first value, mutual with that on lists and entries. A value
without parts is compared by what it is; only a real that is not a number would differ from itself.
A value with parts goes back to them, and a mark is taken off before anything is compared. -/
theorem related_self_of_bare (loose : Bool) : ∀ v w : Value, v.isNaNFree = true →
    w.bare = v.bare → related loose v w = true
  | none, w, _, h | bool _, w, _, h | int _, w, _, h | text _, w, _, h | fragment _, w, _, h
  | bytes _, w, _, h | nil, w, _, h | foreign _, w, _, h | callable _ _ _ _, w, _, h
  | cycle _ _, w, _, h => by
    simp [related, h, bare, equalsAtom, number?, text?]
  | moment m, w, _, h => by
    simp [related, h, bare, equalsAtom, number?, text?, Moment.sameAs, Moment.comparable]
    rcases m.time <;> simp
  | real x, w, hn, h => by
    cases x <;> simp_all [related, bare, equalsAtom, number?, Binary64.dyadic?, isNaNFree]
  | list xs, w, hn, h | tuple xs, w, hn, h => by
    simp only [related, h, bare]
    exact allAlike_self xs hn
  | set xs, w, hn, h => by
    simp only [related, h, bare, beq_self_eq_true, Bool.true_and]
    exact itemsAmong_self xs [] hn
  | dict es, w, hn, h => by
    simp only [related, h, bare, beq_self_eq_true, Bool.true_and]
    exact entriesAmong_self es [] hn
  | cons v v', w, hn, h => by
    simp only [isNaNFree, Bool.and_eq_true] at hn
    simp only [related, h, bare, Bool.and_eq_true]
    exact ⟨related_self_of_bare loose v v hn.1 rfl, related_self_of_bare loose v' v' hn.2 rfl⟩
  | call v v', w, hn, h | declaration v v', w, hn, h | step v v', w, hn, h => by
    simp only [isNaNFree, Bool.and_eq_true] at hn
    simp only [related, h, bare, Bool.and_eq_true]
    exact ⟨related_self_of_bare true v v hn.1 rfl, related_self_of_bare true v' v' hn.2 rfl⟩
  | plan name ds guard includes, w, hn, h => by
    simp only [isNaNFree, Bool.and_eq_true] at hn
    simp only [related, h, bare, Bool.and_eq_true]
    exact ⟨⟨⟨related_self_of_bare true name name hn.1.1.1 rfl,
      related_self_of_bare true ds ds hn.1.1.2 rfl⟩,
      related_self_of_bare true guard guard hn.1.2 rfl⟩,
      related_self_of_bare true includes includes hn.2 rfl⟩
  | position u v v', w, hn, h | symbolKey u v v', w, hn, h => by
    simp only [isNaNFree, Bool.and_eq_true] at hn
    simp only [related, h, bare, Bool.and_eq_true]
    exact ⟨⟨related_self_of_bare true u u hn.1.1 rfl, related_self_of_bare true v v hn.1.2 rfl⟩,
      related_self_of_bare true v' v' hn.2 rfl⟩
  | shared m v, w, hn, h => by
    simp only [related, Bool.or_eq_true]
    exact .inr (related_self_of_bare loose v w hn h)

/-- The same for lists. -/
theorem allAlike_self : ∀ xs : List Value, allNaNFree xs = true → allAlike xs xs = true
  | [], _ => by rw [allAlike]
  | x :: xs, hn => by
    simp only [allNaNFree, Bool.and_eq_true] at hn
    simp only [allAlike, Bool.and_eq_true]
    exact ⟨related_self_of_bare true x x hn.1 rfl, allAlike_self xs hn.2⟩

/-- The same for the items of sets. -/
theorem itemsAmong_self : ∀ xs before : List Value, allNaNFree xs = true →
    itemsAmong xs (before ++ xs) = true
  | [], _, _ => by rw [itemsAmong]
  | x :: xs, before, hn => by
    simp only [allNaNFree, Bool.and_eq_true] at hn
    have hrest := itemsAmong_self xs (before ++ [x]) hn.2
    rw [List.append_assoc, List.singleton_append] at hrest
    simp [itemsAmong, related_self_of_bare true x x hn.1 rfl, hrest]

/-- The same for the entries of mappings. -/
theorem entriesAmong_self : ∀ es before : List (Value × Value), entriesNaNFree es = true →
    entriesAmong es (before ++ es) = true
  | [], _, _ => by rw [entriesAmong]
  | (k, v) :: es, before, hn => by
    simp only [entriesNaNFree, Bool.and_eq_true] at hn
    have hrest := entriesAmong_self es (before ++ [(k, v)]) hn.2
    rw [List.append_assoc, List.singleton_append] at hrest
    simp [entriesAmong, related_self_of_bare true k k hn.1.1 rfl,
      related_self_of_bare true v v hn.1.2 rfl, hrest]

end

/-- A value without reals that are not a number equals itself. -/
theorem equals_self {v : Value} (hn : v.isNaNFree) : v.equals v = true :=
  related_self_of_bare false v v hn rfl

end CHeaders.Value
