import CHeaders.Proofs.Value.Equality
import CHeaders.Proofs.Value.Reordered
import CHeaders.Value.Writable

/-!
# Parts of documents

A document is a tree of lists and mappings. Its parts are the document itself, the items of its
lists and what stands under the keys of its mappings, at any depth. What holds of a document
because it holds everywhere in it holds of its parts: a part of a document without cycles has none,
and a part of a document that can be written can be written.

## Main definitions

* `CHeaders.Value.IsPart`: the parts of a document.
* `CHeaders.Value.IsListOf`: the lists whose items are as a predicate says.

## Main results

* `CHeaders.Value.tree_induction`: induction over documents.
* `CHeaders.Value.IsPart.isCut_eq`, `CHeaders.Value.IsPart.isWritable_eq`,
  `CHeaders.Value.IsPart.isNaNFree_eq`: what the parts of a document have from it.
-/

namespace CHeaders.Value

/-- Whether a value is no tree with parts of its own. -/
def isLeaf : Value → Bool
  | list _ | dict _ | shared _ _ => false
  | _ => true

mutual

/-- Induction over documents: over the items of lists, over what stands in mappings, and over what
is marked. -/
theorem tree_induction {P : Value → Prop} (leaf : ∀ v, v.isLeaf = true → P v)
    (list : ∀ xs, (∀ x ∈ xs, P x) → P (.list xs))
    (dict : ∀ es : List (Value × Value), (∀ e ∈ es, P e.2) → P (.dict es))
    (shared : ∀ mark v, P v → P (.shared mark v)) : ∀ v, P v
  | .list xs => list xs (all_induction leaf list dict shared xs)
  | .dict es => dict es (entries_induction leaf list dict shared es)
  | .shared mark v => shared mark v (tree_induction leaf list dict shared v)
  | .none | .bool _ | .int _ | .real _ | .text _ | .fragment _ | .bytes _ | .tuple _ | .set _
  | .moment _ | .nil | .cons _ _ | .foreign _ | .call _ _ | .declaration _ _ | .plan _ _ _ _
  | .step _ _ | .position _ _ _ | .symbolKey _ _ _ | .callable _ _ _ _ | .cycle _ _ => leaf _ rfl

/-- The same for the items of a list. -/
theorem all_induction {P : Value → Prop} (leaf : ∀ v, v.isLeaf = true → P v)
    (list : ∀ xs, (∀ x ∈ xs, P x) → P (.list xs))
    (dict : ∀ es : List (Value × Value), (∀ e ∈ es, P e.2) → P (.dict es))
    (shared : ∀ mark v, P v → P (.shared mark v)) : ∀ xs : List Value, ∀ x ∈ xs, P x
  | [] => fun _ hx => absurd hx List.not_mem_nil
  | x :: xs => List.forall_mem_cons.mpr
    ⟨tree_induction leaf list dict shared x, all_induction leaf list dict shared xs⟩

/-- The same for the entries of a mapping. -/
theorem entries_induction {P : Value → Prop} (leaf : ∀ v, v.isLeaf = true → P v)
    (list : ∀ xs, (∀ x ∈ xs, P x) → P (.list xs))
    (dict : ∀ es : List (Value × Value), (∀ e ∈ es, P e.2) → P (.dict es))
    (shared : ∀ mark v, P v → P (.shared mark v)) :
    ∀ es : List (Value × Value), ∀ e ∈ es, P e.2
  | [] => fun _ he => absurd he List.not_mem_nil
  | e :: es => List.forall_mem_cons.mpr
    ⟨tree_induction leaf list dict shared e.2, entries_induction leaf list dict shared es⟩

end

/-- The value is a list whose items are as `P` says. -/
def IsListOf (P : Value → Prop) (v : Value) : Prop :=
  ∃ xs, v.bare = .list xs ∧ ∀ x ∈ xs, P x

/-! ## Parts -/

/-- The parts of a document: itself, the items of lists, what stands under the keys of mappings, and
what is marked. -/
inductive IsPart (whole : Value) : Value → Prop
  | refl : IsPart whole whole
  | item {xs : List Value} {x : Value} (h : IsPart whole (.list xs)) (hx : x ∈ xs) : IsPart whole x
  | entry {es : List (Value × Value)} {key : String} {v : Value} (h : IsPart whole (.dict es))
      (hv : lookup key es = some v) : IsPart whole v
  | marked {mark : Nat} {v : Value} (h : IsPart whole (.shared mark v)) : IsPart whole v

/-- The part of a document without the marks around it is a part, too. -/
theorem IsPart.bare {whole : Value} : ∀ {v : Value}, IsPart whole v → IsPart whole v.bare
  | .shared _ v, h => IsPart.bare (v := v) h.marked
  | .none, h | .bool _, h | .int _, h | .real _, h | .text _, h | .fragment _, h | .bytes _, h
  | .list _, h | .tuple _, h | .dict _, h | .set _, h | .moment _, h | .nil, h | .cons _ _, h
  | .foreign _, h | .call _ _, h | .declaration _ _, h | .plan _ _ _ _, h | .step _ _, h
  | .position _ _ _, h | .symbolKey _ _ _, h | .callable _ _ _ _, h | .cycle _ _, h => h

/-- Marks do not matter to whether a value counts as true. -/
theorem isTrue_bare : ∀ v : Value, v.bare.isTrue = v.isTrue
  | .shared _ v => isTrue_bare v
  | .none | .bool _ | .int _ | .real _ | .text _ | .fragment _ | .bytes _ | .list _ | .tuple _
  | .dict _ | .set _ | .moment _ | .nil | .cons _ _ | .foreign _ | .call _ _ | .declaration _ _
  | .plan _ _ _ _ | .step _ _ | .position _ _ _ | .symbolKey _ _ _ | .callable _ _ _ _
  | .cycle _ _ => rfl

/-- What is found under a key is the value of an entry. -/
theorem mem_of_lookup {key : String} {es : List (Value × Value)} {v : Value}
    (h : lookup key es = some v) : ∃ k, (k, v) ∈ es := by
  induction es with
  | nil => simp [lookup] at h
  | cons e es ih =>
    rw [lookup] at h
    split at h
    · obtain rfl := Option.some.inj h
      exact ⟨_, List.mem_cons_self⟩
    · obtain ⟨k, hk⟩ := ih h
      exact ⟨k, List.mem_cons_of_mem _ hk⟩

/-- What holds of a list if it holds of its items, and of a mapping if it holds of its keys and
values, holds of the parts of a document if it holds of the document. -/
theorem IsPart.eq_true {f : Value → Bool} (hlist : ∀ xs, f (.list xs) = xs.all f)
    (hdict : ∀ es, f (.dict es) = es.all fun e => f e.1 && f e.2)
    (hshared : ∀ mark v, f (.shared mark v) = f v) {whole v : Value} (h : IsPart whole v)
    (hwhole : f whole = true) : f v = true := by
  induction h with
  | refl => exact hwhole
  | item _ hx ih =>
    rw [hlist, List.all_eq_true] at ih
    exact ih _ hx
  | entry _ hv ih =>
    obtain ⟨k, hk⟩ := mem_of_lookup hv
    rw [hdict, List.all_eq_true] at ih
    exact ((Bool.and_eq_true _ _).mp (ih _ hk)).2
  | marked _ ih => exact hshared _ _ ▸ ih

/-- A mapping can be written if all keys and values can. -/
theorem entriesWritable_eq_all (es : List (Value × Value)) :
    entriesWritable es = es.all fun e => e.1.isWritable && e.2.isWritable := by
  induction es with
  | nil => rfl
  | cons e es ih => rw [entriesWritable, ih, List.all_cons]

/-- A mapping has no part that is not a number if no key and no value has one. -/
theorem entriesNaNFree_eq_all (es : List (Value × Value)) :
    entriesNaNFree es = es.all fun e => e.1.isNaNFree && e.2.isNaNFree := by
  induction es with
  | nil => rfl
  | cons e es ih => rw [entriesNaNFree, ih, List.all_cons]

/-- A list holds a cycle if one of its items does. -/
theorem anyCut_eq_any (xs : List Value) : anyCut xs = xs.any isCut := by
  induction xs with
  | nil => rfl
  | cons x xs ih => rw [anyCut, ih, List.any_cons]

/-- A part of a document without cycles has none. -/
theorem IsPart.isCut_eq {whole v : Value} (h : IsPart whole v) (hwhole : whole.isCut = false) :
    v.isCut = false := by
  have hnot : (!v.isCut) = true := by
    refine h.eq_true (f := fun v => !v.isCut) (fun xs => ?_) (fun es => ?_) (fun _ _ => rfl)
      (by rw [hwhole]; rfl)
    · rw [isCut, anyCut_eq_any, List.not_any_eq_all_not]
    · simp only [isCut, entriesCut_eq_any, List.not_any_eq_all_not, Bool.not_or]
  simpa using hnot

/-- A part of a document that can be written can be written. -/
theorem IsPart.isWritable_eq {whole v : Value} (h : IsPart whole v)
    (hwhole : whole.isWritable = true) : v.isWritable = true :=
  h.eq_true (fun xs => allWritable_eq_all xs) (fun es => entriesWritable_eq_all es)
    (fun _ _ => rfl) hwhole

/-- A part of a document in which every number is a number is such, too. -/
theorem IsPart.isNaNFree_eq {whole v : Value} (h : IsPart whole v)
    (hwhole : whole.isNaNFree = true) : v.isNaNFree = true :=
  h.eq_true (fun xs => allNaNFree_eq_all xs) (fun es => entriesNaNFree_eq_all es)
    (fun _ _ => rfl) hwhole

end CHeaders.Value
