import CHeaders.Plan.Document
import CHeaders.Proofs.Result
import Mathlib.Data.List.Nodup

/-!
# Documents with their entries in another order

The entries of a mapping have an order, but what is found under a key does not depend on it as long
as no key stands twice. A document is a reordering of another one if the two differ in the order of
the entries of their mappings only, at any depth.

## Main definitions

* `CHeaders.Value.Reordered`: one document is a reordering of another one.

## Main results

* `CHeaders.Value.lookup_eq_of_perm`: what is found under a key does not depend on the order.
* `CHeaders.Value.Reordered.lookup_eq`: what is found in a reordering is a reordering of what was
  found.
-/

namespace CHeaders

/-- Different strings are different texts. -/
theorem Text.ofString_inj {s t : String} : Text.ofString s = Text.ofString t ↔ s = t := by
  constructor
  · intro h
    have hs := congrArg Text.string? h
    simpa [Text.string?_ofString] using hs
  · exact congrArg Text.ofString

namespace Value

mutual

/-- The second document has the entries of the mappings of the first one in any order. -/
inductive Reordered : Value → Value → Prop
  | same (v : Value) : Reordered v v
  | list {xs ys : List Value} (h : AllReordered xs ys) : Reordered (.list xs) (.list ys)
  | dict {es fs gs : List (Value × Value)} (h : EntriesReordered es fs) (hperm : fs.Perm gs) :
      Reordered (.dict es) (.dict gs)

/-- The same for lists, item by item. -/
inductive AllReordered : List Value → List Value → Prop
  | nil : AllReordered [] []
  | cons {x y : Value} {xs ys : List Value} (hhead : Reordered x y) (htail : AllReordered xs ys) :
      AllReordered (x :: xs) (y :: ys)

/-- The same for the values of entries, whose keys stay as they are. -/
inductive EntriesReordered : List (Value × Value) → List (Value × Value) → Prop
  | nil : EntriesReordered [] []
  | cons {k v w : Value} {es fs : List (Value × Value)} (hvalue : Reordered v w)
      (htail : EntriesReordered es fs) : EntriesReordered ((k, v) :: es) ((k, w) :: fs)

end

/-- A reordering of a text is that text. -/
@[simp] theorem reordered_text {s : Text} {w : Value} : Reordered (.text s) w ↔ w = .text s :=
  ⟨fun h => by cases h; rfl, fun h => h ▸ .same _⟩

/-- The same for a generated text. -/
@[simp] theorem reordered_fragment {s : Text} {w : Value} :
    Reordered (.fragment s) w ↔ w = .fragment s :=
  ⟨fun h => by cases h; rfl, fun h => h ▸ .same _⟩

/-- The same for a number. -/
@[simp] theorem reordered_int {n : Int} {w : Value} : Reordered (.int n) w ↔ w = .int n :=
  ⟨fun h => by cases h; rfl, fun h => h ▸ .same _⟩

/-- The same for `none`. -/
@[simp] theorem reordered_none {w : Value} : Reordered .none w ↔ w = .none :=
  ⟨fun h => by cases h; rfl, fun h => h ▸ .same _⟩

/-- Every item is a reordering of itself. -/
theorem AllReordered.refl (xs : List Value) : AllReordered xs xs := by
  induction xs with
  | nil => exact .nil
  | cons x xs ih => exact .cons (.same x) ih

/-- Every value of an entry is a reordering of itself. -/
theorem EntriesReordered.refl (es : List (Value × Value)) : EntriesReordered es es := by
  induction es with
  | nil => exact .nil
  | cons e es ih => exact .cons (.same e.2) ih

/-- Items are reordered one by one. -/
theorem allReordered_iff {xs ys : List Value} :
    AllReordered xs ys ↔ List.Forall₂ Reordered xs ys := by
  induction xs generalizing ys with
  | nil =>
    constructor
    · rintro ⟨⟩
      exact .nil
    · rintro ⟨⟩
      exact .nil
  | cons x xs ih =>
    constructor
    · rintro ⟨⟩
      rename_i hhead htail
      exact .cons hhead (ih.mp htail)
    · rintro ⟨⟩
      rename_i hhead htail
      exact .cons hhead (ih.mpr htail)

/-- A reordering of a list is a list of reorderings of its items. -/
theorem reordered_list {xs : List Value} {w : Value} :
    Reordered (.list xs) w ↔ ∃ ys, w = .list ys ∧ List.Forall₂ Reordered xs ys := by
  constructor
  · rintro ⟨⟩
    · exact ⟨xs, rfl, allReordered_iff.mp (.refl xs)⟩
    · rename_i ys h
      exact ⟨ys, rfl, allReordered_iff.mp h⟩
  · rintro ⟨ys, rfl, h⟩
    exact .list (allReordered_iff.mpr h)

/-- A reordering of a mapping is a mapping with reorderings of its values in any order. -/
theorem reordered_dict {es : List (Value × Value)} {w : Value} :
    Reordered (.dict es) w ↔ ∃ fs gs, w = .dict gs ∧ EntriesReordered es fs ∧ fs.Perm gs := by
  constructor
  · rintro ⟨⟩
    · exact ⟨es, es, rfl, .refl es, .refl es⟩
    · rename_i fs gs hperm h
      exact ⟨fs, gs, rfl, h, hperm⟩
  · rintro ⟨fs, gs, rfl, h, hperm⟩
    exact .dict h hperm

/-- A list holds no cycle if and only if none of its items does. -/
theorem isCut_list_eq_false {xs : List Value} :
    (Value.list xs).isCut = false ↔ ∀ x ∈ xs, x.isCut = false := by
  rw [isCut]
  induction xs with
  | nil => simp [anyCut]
  | cons x xs ih => rw [anyCut, Bool.or_eq_false_iff, ih, List.forall_mem_cons]

/-- A cycle stands in entries if it stands in one of them. -/
theorem entriesCut_eq_any (es : List (Value × Value)) :
    entriesCut es = es.any fun e => e.1.isCut || e.2.isCut := by
  induction es with
  | nil => rfl
  | cons e es ih => rw [entriesCut, ih, List.any_cons]

mutual

/-- A reordering holds cycles if and only if the document does. -/
theorem Reordered.isCut_eq : ∀ {v w : Value}, Reordered v w → w.isCut = v.isCut
  | _, _, .same _ => rfl
  | _, _, .list h => h.anyCut_eq
  | _, _, .dict h hperm => by
    rw [isCut, isCut, ← h.entriesCut_eq, entriesCut_eq_any, entriesCut_eq_any, hperm.any_eq]

/-- The same for lists. -/
theorem AllReordered.anyCut_eq : ∀ {xs ys : List Value}, AllReordered xs ys → anyCut ys = anyCut xs
  | _, _, .nil => rfl
  | _, _, .cons hhead htail => by rw [anyCut, anyCut, hhead.isCut_eq, htail.anyCut_eq]

/-- The same for entries. -/
theorem EntriesReordered.entriesCut_eq : ∀ {es fs : List (Value × Value)},
    EntriesReordered es fs → entriesCut fs = entriesCut es
  | _, _, .nil => rfl
  | _, _, .cons hvalue htail => by
    rw [entriesCut, entriesCut, hvalue.isCut_eq, htail.entriesCut_eq]

end

/-! ## What is found under a key -/

/-- The texts that the keys of entries are. -/
def keyTexts (es : List (Value × Value)) : List (Option Text) :=
  es.map fun e => e.1.text?

/-- What is found under a key does not depend on the order if no key stands twice. -/
theorem lookup_eq_of_perm {es fs : List (Value × Value)} (hperm : es.Perm fs) (key : String)
    (hkeys : (keyTexts es).Nodup) : lookup key es = lookup key fs := by
  induction hperm with
  | nil => rfl
  | cons e _ ih =>
    have htail := (List.nodup_cons.mp hkeys).2
    simp only [lookup, ih htail]
  | swap e f es =>
    have hne : f.1.text? ≠ e.1.text? := by
      intro heq
      exact (List.nodup_cons.mp hkeys).1 (List.mem_map.mpr ⟨e, List.mem_cons_self, heq.symm⟩)
    -- At most one of the two keys is the one that is looked for.
    simp only [lookup]
    split <;> split <;> simp_all
  | trans hperm _ ih ih' =>
    rw [ih hkeys, ih' ((hperm.map _).nodup_iff.mp hkeys)]

/-- Entries with reordered values have the keys that they had. -/
theorem EntriesReordered.keyTexts_eq {es fs : List (Value × Value)} (h : EntriesReordered es fs) :
    keyTexts es = keyTexts fs := by
  induction es generalizing fs with
  | nil =>
    obtain ⟨⟩ := h
    rfl
  | cons e es ih =>
    obtain ⟨⟩ := h
    rename_i htail
    exact congrArg (_ :: ·) (ih htail)

/-- What is found among reordered values is a reordering of what was found. -/
theorem EntriesReordered.lookup_eq {es fs : List (Value × Value)} (h : EntriesReordered es fs)
    {key : String} {v : Value} (hv : lookup key es = some v) :
    ∃ w, lookup key fs = some w ∧ Reordered v w := by
  induction es generalizing fs with
  | nil => simp [lookup] at hv
  | cons e es ih =>
    obtain ⟨⟩ := h
    rename_i k v' w fs hvalue htail
    simp only [lookup] at hv ⊢
    split at hv
    · obtain rfl := Option.some.inj hv
      exact ⟨w, by simp_all, hvalue⟩
    · obtain ⟨w', hw', hreordered⟩ := ih htail hv
      exact ⟨w', by simp_all, hreordered⟩

/-- What is found in a reordering of a mapping is a reordering of what was found, if no key stands
twice in the mapping. -/
theorem Reordered.lookup_eq {es : List (Value × Value)} {w : Value} (h : Reordered (.dict es) w)
    (hkeys : (keyTexts es).Nodup) : ∃ gs, w = .dict gs ∧ ∀ key v, lookup key es = some v →
      ∃ v', lookup key gs = some v' ∧ Reordered v v' := by
  obtain ⟨fs, gs, rfl, hes, hperm⟩ := reordered_dict.mp h
  refine ⟨gs, rfl, fun key v hv => ?_⟩
  obtain ⟨v', hv', hreordered⟩ := hes.lookup_eq hv
  rw [hes.keyTexts_eq] at hkeys
  exact ⟨v', by rw [← lookup_eq_of_perm hperm key hkeys, hv'], hreordered⟩

/-! ## Records -/

/-- What is found in a record is what its fields say. -/
theorem lookup_record (key : String) (fields : List (String × Value)) :
    lookup key (fields.map fun e => (.text e.1, e.2)) = fields.lookup key := by
  induction fields with
  | nil => rfl
  | cons e fields ih =>
    obtain ⟨name, v⟩ := e
    simp only [List.map_cons, lookup, text?, Option.some.injEq, Text.ofString_inj, List.lookup_cons,
      ih]
    by_cases h : name = key
    · simp [h]
    · rw [if_neg h, beq_eq_false_iff_ne.mpr (Ne.symm h)]

/-- What a field of a record says is found under its name. -/
theorem lookup_of_field {name : String} {fields : List (String × Value)} {v : Value}
    (h : fields.lookup name = some v) :
    lookup name (fields.map fun e => (.text e.1, e.2)) = some v := by
  rw [lookup_record, h]

/-- No key of a record stands twice if no name of a field does. -/
theorem nodup_keyTexts_record {fields : List (String × Value)}
    (h : (fields.map Prod.fst).Nodup) :
    (keyTexts (fields.map fun e => (.text e.1, e.2))).Nodup := by
  have hmap : keyTexts (fields.map fun e => (.text e.1, e.2)) =
      (fields.map Prod.fst).map fun name => some (Text.ofString name) := by
    simp only [keyTexts, List.map_map]
    rfl
  rw [hmap]
  refine List.Nodup.map (fun s t hst => ?_) h
  exact Text.ofString_inj.mp (Option.some.inj hst)

/-- The reorderings of the fields of a record stand under their names. -/
theorem Reordered.fields_eq {fields : List (String × Value)} {w : Value}
    (h : Reordered (.record fields) w) (hnames : (fields.map Prod.fst).Nodup) :
    ∃ gs, w = .dict gs ∧ ∀ name v, fields.lookup name = some v →
      ∃ v', lookup name gs = some v' ∧ Reordered v v' := by
  obtain ⟨gs, rfl, hgs⟩ := h.lookup_eq (nodup_keyTexts_record hnames)
  exact ⟨gs, rfl, fun name v hv => hgs name v (lookup_of_field hv)⟩

end Value

end CHeaders
