import CHeaders.Proofs.Plan.Document
import CHeaders.Proofs.Term.Schema

/-!
# Documents that are read as plans

A plan is read from a mapping with a name. Its guard is a text if there is one, its files are a list
of texts, and its declarations are a list of mappings that hold the document of a term each. Files
and declarations may be left out. The documentation means that nothing stands under their keys, or
`none`; the code takes everything that counts as false for left out, such as zero, the empty text or
an empty mapping. So the documents of plans are defined for either reading.

A document that is refused is refused because of a part of it, which the refusal shows. What is read
from a document is typed but for its comments, which are parts of the document.

## Main definitions

* `CHeaders.Plan.IsDocument`: the documents of plans, for what counts as left out.
* `CHeaders.Plan.IsDeclarationDocument`: the documents of declarations.
* `CHeaders.Plan.HoldsPartsOf`: what a plan has from the document that it is read from.

## Main results

* `CHeaders.Plan.decides_readDocument`: what is read from a mapping with a name, and what is
  refused.
* `CHeaders.Plan.holdsPartsOf_of_ofDocument`: whatever is read holds parts of the document.
* `CHeaders.Plan.accepts_iff`: the documents that are read, and which of them are documented.
-/

namespace CHeaders

open Value (IsPart IsListOf IsText Optional)

/-- What a refusal shows stays if it is a part of a document without cycles. -/
theorem Fault.ShowsPart.within_eq {whole : Value} {f : Fault} (h : f.ShowsPart whole)
    (hcut : whole.isCut = false) (v : Value) : f.within v = f := by
  obtain ⟨operation, expected, given, rfl, hgiven⟩ := h
  rw [Fault.within, Value.within_of_not_isCut (hgiven.isCut_eq hcut)]

namespace Plan

/-! ## The schema -/

/-- The documents of declarations: mappings with the document of a term. -/
def IsDeclarationDocument (m : Value) : Prop :=
  ∃ es term, m.bare = .dict es ∧ Value.lookup "term" es = some term ∧ Term.IsDocument term

/-- What may stand under the keys of a plan, if `isLeftOut` says what counts as left out. -/
structure HasFields (isLeftOut : Value → Prop) (es : List (Value × Value)) : Prop where
  name : ∃ v, Value.lookup "name" es = some v
  guard : ∀ v, Value.lookup "include_guard" es = some v → Optional IsText v
  includes : ∀ v, Value.lookup "includes" es = some v → isLeftOut v ∨ IsListOf IsText v
  declarations : ∀ v, Value.lookup "declarations" es = some v →
    isLeftOut v ∨ IsListOf IsDeclarationDocument v

/-- The documents of plans, if `isLeftOut` says what counts as left out. -/
def IsDocument (isLeftOut : Value → Prop) (d : Value) : Prop :=
  ∃ es, d.bare = .dict es ∧ HasFields isLeftOut es

/-- The fields of a mapping with a name are as they have to be if what stands under the other keys,
or for it, is so. -/
theorem hasFields_iff (isLeftOut : Value → Prop) (hnone : isLeftOut .none)
    {es : List (Value × Value)} {name : Value} (hname : Value.lookup "name" es = some name) :
    Optional IsText ((Value.lookup "include_guard" es).getD .none) ∧
        (isLeftOut ((Value.lookup "includes" es).getD .none) ∨
          IsListOf IsText ((Value.lookup "includes" es).getD .none)) ∧
        (isLeftOut ((Value.lookup "declarations" es).getD .none) ∨
          IsListOf IsDeclarationDocument ((Value.lookup "declarations" es).getD .none)) ↔
      HasFields isLeftOut es := by
  have hfield {P : Value → Prop} (key : String) (hP : P .none) :
      P ((Value.lookup key es).getD .none) ↔ ∀ v, Value.lookup key es = some v → P v := by
    cases Value.lookup key es <;> simp [hP]
  have hguard := hfield (P := Optional IsText) "include_guard" (.inl rfl)
  have hincludes := hfield (P := fun v => isLeftOut v ∨ IsListOf IsText v) "includes" (.inl hnone)
  have hdeclarations := hfield (P := fun v => isLeftOut v ∨ IsListOf IsDeclarationDocument v)
    "declarations" (.inl hnone)
  rw [hguard, hincludes, hdeclarations]
  exact ⟨fun h => ⟨⟨name, hname⟩, h.1, h.2.1, h.2.2⟩,
    fun h => ⟨h.guard, h.includes, h.declarations⟩⟩

/-! ## Reading the fields -/

variable {whole : Value}

/-- In a document without cycles an entry is what stands under its key. -/
theorem entry_eq {d : Value} {es : List (Value × Value)} (hcut : d.isCut = false)
    (hes : d.bare = .dict es) (key : String) :
    entry key d es = (Value.lookup key es).getD .none := by
  have hpart : IsPart d (.dict es) := hes ▸ IsPart.refl.bare
  cases hv : Value.lookup key es with
  | none => rw [entry, hv, Option.getD_none, Value.within_of_not_isCut rfl]
  | some v =>
    rw [entry, hv, Option.getD_some, Value.within_of_not_isCut ((hpart.entry hv).isCut_eq hcut)]

/-- What stands under a key, if anything does, is a part of the mapping. -/
theorem optional_isPart_lookup {es : List (Value × Value)} (hes : IsPart whole (.dict es))
    (key : String) : Optional (IsPart whole) ((Value.lookup key es).getD .none) := by
  cases hv : Value.lookup key es with
  | none => exact .inl rfl
  | some v => exact .inr (hes.entry hv)

/-- A guard has to be a text or missing. -/
theorem decides_guardOf {v : Value} (hv : Optional (IsPart whole) v) :
    Decides (Optional IsText v) (Optional IsText) (·.ShowsPart whole) (guardOf v) := by
  have hiff : (v.isNone || v.text?.isSome) = true ↔ Optional IsText v := by
    cases v <;> simp [Value.isNone, Value.text?, Optional, IsText]
  rw [guardOf]
  split
  · rename_i h
    exact ⟨hiff.mp h, hiff.mp h⟩
  · rename_i h
    refine ⟨fun hoptional => h (hiff.mpr hoptional), _, _, _, rfl, ?_⟩
    exact hv.resolve_left fun hnone => h (hiff.mpr (.inl hnone))

/-- The items of the list that a value is; a value that counts as false has none. -/
def Lists (v : Value) (items : List Value) : Prop :=
  v.isTrue = false ∧ items = [] ∨ v.isTrue = true ∧ v.bare = .list items

/-- Whether something holds of all items says whether the value is a list of such values. -/
theorem Lists.forall_iff {v : Value} {items : List Value} (h : Lists v items)
    (P : Value → Prop) : (∀ x ∈ items, P x) ↔ v.isTrue = false ∨ IsListOf P v := by
  rcases h with ⟨hfalse, rfl⟩ | ⟨htrue, hbare⟩
  · simp [hfalse]
  · simp [htrue, IsListOf, hbare]

/-- A value that does not count as false has to be a list of allowed values.

**Proof sketch.** By the checks in their order. A value that counts as false stands for no items.
Another one is a list or is refused, and if it is a list, then all its items are allowed or it is
refused as a whole. -/
theorem decides_listOf {v : Value} (hcut : whole.isCut = false) (hv : Optional (IsPart whole) v)
    (expected : String) (allowed : Value → Bool) :
    Decides (v.isTrue = false ∨ IsListOf (allowed · = true) v)
      (fun items => Lists v items ∧ ∀ x ∈ items, IsPart whole x) (·.ShowsPart whole)
      (listOf expected allowed v) := by
  rw [listOf]
  split
  · rename_i htrue
    have hpart : IsPart whole v := hv.resolve_left fun h => by simp [h, Value.isTrue] at htrue
    split
    · rename_i items hitems
      have hlists : Lists v items := .inr ⟨htrue, hitems⟩
      have hparts : ∀ x ∈ items, IsPart whole x := fun x hx => (hitems ▸ hpart.bare).item hx
      rw [← hlists.forall_iff, ← List.all_eq_true]
      split
      · rename_i hallowed
        have hmap : items.map (·.within v) = items := by
          conv_rhs => rw [← List.map_id items]
          exact List.map_congr_left fun x hx =>
            Value.within_of_not_isCut ((hparts x hx).isCut_eq hcut) v
        rw [hmap]
        exact ⟨hallowed, hlists, hparts⟩
      · rename_i hallowed
        exact ⟨hallowed, _, _, _, rfl, hpart⟩
    · rename_i hnot
      refine ⟨fun h => ?_, _, _, _, rfl, hpart⟩
      obtain ⟨items, hitems, -⟩ := h.resolve_left (by simp [htrue])
      exact hnot items hitems
  · rename_i hfalse
    have hfalse : v.isTrue = false := by simpa using hfalse
    exact ⟨.inl hfalse, .inl ⟨hfalse, rfl⟩, by simp⟩

/-- What reading makes of a declaration: its term is plain and can be written if the document can,
its comment is a part of the document. -/
def IsReading (whole d : Value) : Prop :=
  ∃ term comment, d = .declaration term comment ∧
    (Term.IsPlain term ∧ (whole.isWritable = true → term.isWritable = true)) ∧
    Optional (IsPart whole) comment

/-- A declaration is read from a mapping with the document of a term.

**Proof sketch.** By the checks in their order. What is no mapping, or has no term, is refused as a
whole. Otherwise the term decides, and what it shows is a part of the whole. -/
theorem decides_declarationOfDocument (hcut : whole.isCut = false) {m : Value}
    (hm : IsPart whole m) :
    Decides (IsDeclarationDocument m) (IsReading whole) (·.ShowsPart whole)
      (declarationOfDocument m) := by
  rw [declarationOfDocument]
  split
  · rename_i es hes
    have hentries : IsPart whole (.dict es) := hes ▸ hm.bare
    split
    · rename_i term hterm
      have hpart : IsPart whole term := hentries.entry hterm
      have hiff : IsDeclarationDocument m ↔ Term.IsDocument term := by
        simp [IsDeclarationDocument, hes, hterm]
      have hread := (Term.reads_ofShown whole term term hpart hpart).mapError
        (g := (·.within term)) fun f hf => (hf.within_eq hcut term).symm ▸ hf
      rw [Value.within_of_not_isCut (hpart.isCut_eq hcut), hiff]
      refine hread.map fun t _ ht => ⟨t, _, rfl, ht, ?_⟩
      rw [← entry, entry_eq (hm.isCut_eq hcut) hes]
      exact optional_isPart_lookup hentries "comment"
    · rename_i hnone
      exact ⟨by simp [IsDeclarationDocument, hes, hnone], _, _, _, rfl, hm⟩
  · rename_i hnot
    refine ⟨?_, _, _, _, rfl, hm⟩
    rintro ⟨es, term, hes, -⟩
    exact hnot es hes

/-! ## Reading plans -/

/-- What a plan has from the document that it is read from: it is typed but for its comments, which
are parts of the document, its terms are plain, and its name is an ordinary text. -/
structure HoldsPartsOf (d : Value) (p : Plan) : Prop where
  isTyped : IsTyped IsText (Optional (IsPart d)) p
  hasTerms : p.HasTerms fun t => Term.IsPlain t ∧ (d.isWritable = true → t.isWritable = true)
  reread_eq : p.reread = p

/-- A plan whose parts are read from a document holds parts of the document. -/
theorem holdsPartsOf_mk {d guard : Value} (name : Text) {files ds : List Value}
    (hguard : Optional IsText guard) (hfiles : ∀ f ∈ files, IsText f)
    (hds : ∀ x ∈ ds, IsReading d x) :
    HoldsPartsOf d ⟨.text name, .list ds, guard, .list files⟩ := by
  refine ⟨⟨rfl, hguard, hfiles, fun x hx => ?_⟩, ?_, rfl⟩
  · obtain ⟨term, comment, rfl, hterm, hcomment⟩ := hds x hx
    exact ⟨hterm.1.isTerm, hcomment⟩
  · intro ds' hds' term comment hmem
    obtain rfl := Value.list.inj hds'
    obtain ⟨term', comment', heq, hterm, -⟩ := hds _ hmem
    obtain ⟨rfl, -⟩ := Value.declaration.inj heq
    exact hterm

/-- A mapping with a name that can be written is read if its other fields are as they have to be.

**Proof sketch.** Entry by entry, in the order in which they are looked at. The declarations are
first checked to be a list and then read one by one; a list of which one item is refused is no list
of documents of declarations. -/
theorem decides_readDocument {d name : Value} {es : List (Value × Value)} (hcut : d.isCut = false)
    (hes : d.bare = .dict es) (hname : Value.lookup "name" es = some name)
    (hwritable : name.isWritable = true) :
    Decides (HasFields (·.isTrue = false) es) (HoldsPartsOf d) (·.ShowsPart d)
      (readDocument d) := by
  have hentries : IsPart d (.dict es) := hes ▸ IsPart.refl.bare
  have hpart := optional_isPart_lookup hentries
  have hshown : nameOf (name.within d) = .ok name.display := by
    rw [Value.within_of_not_isCut ((hentries.entry hname).isCut_eq hcut), nameOf,
      Value.written_of_isWritable hwritable]
  simp only [readDocument, hes, hname, hshown, entry_eq hcut hes]
  rw [← hasFields_iff (·.isTrue = false) rfl hname]
  refine (decides_guardOf (hpart "include_guard")).bind fun guard _ hguard => ?_
  refine (decides_listOf hcut (hpart "includes") _ _).bind fun files hallowed hfiles => ?_
  have htexts := (hfiles.1.forall_iff IsText).mpr hallowed
  have hread := (decides_listOf hcut (hpart "declarations") "a list of declarations"
    fun _ => true).bind fun items _ hitems =>
    ((Decides.mapM fun m hm => decides_declarationOfDocument hcut (hitems.2 m hm)).imp
      (hitems.1.forall_iff _) fun _ h => h).map
      fun ds _ hds => holdsPartsOf_mk name.display hguard htexts hds
  refine hread.imp (and_iff_right_of_imp fun h => h.imp_right ?_) fun _ h => h
  rintro ⟨xs, hxs, -⟩
  exact ⟨xs, hxs, fun _ _ => rfl⟩

/-- A plan is read from a mapping with a name that can be written. -/
theorem exists_name_of_readDocument {d : Value} {p : Plan} (hcut : d.isCut = false)
    (h : readDocument d = .ok p) : ∃ es name, d.bare = .dict es ∧
      Value.lookup "name" es = some name ∧ name.isWritable = true := by
  rw [readDocument] at h
  split at h
  · rename_i es hes
    split at h
    · obtain ⟨keys, -, h⟩ := bind_eq_ok_iff.mp h
      cases h
    · rename_i name hname
      obtain ⟨text, htext, -⟩ := bind_eq_ok_iff.mp h
      have hpart : IsPart d name := (hes ▸ IsPart.refl.bare : IsPart d (.dict es)).entry hname
      rw [Value.within_of_not_isCut (hpart.isCut_eq hcut), nameOf, Value.written,
        Fault.whenShown] at htext
      refine ⟨es, name, hes, hname, ?_⟩
      by_contra hnot
      simp [hnot] at htext
  · cases h

/-- What is read is what is read before refusals are worded. -/
theorem ofDocument_eq_ok_iff {d : Value} {p : Plan} :
    ofDocument d = .ok p ↔ readDocument d = .ok p := by
  rw [ofDocument, Fault.whenShown_nil_eq_ok_iff]

/-- Whatever is read from a document holds parts of it. -/
theorem holdsPartsOf_of_ofDocument {d : Value} {p : Plan} (hcut : d.isCut = false)
    (h : ofDocument d = .ok p) : HoldsPartsOf d p := by
  rw [ofDocument_eq_ok_iff] at h
  obtain ⟨es, name, hes, hname, hwritable⟩ := exists_name_of_readDocument hcut h
  have hread := decides_readDocument hcut hes hname hwritable
  rw [h] at hread
  exact hread.2

/-! ## The documentation and the code -/

/-- A list that counts as false is empty, and an empty list is a list of whatever is asked for. -/
theorem isListOf_iff_of_isTrue_eq_false {P : Value → Prop} {v : Value} (h : v.isTrue = false) :
    IsListOf P v ↔ v.bare = .list [] := by
  constructor
  · rintro ⟨xs, hxs, -⟩
    rw [← Value.isTrue_bare, hxs] at h
    obtain rfl : xs = [] := by simpa [Value.isTrue] using h
    exact hxs
  · exact fun hnil => ⟨[], hnil, by simp⟩

/-- What counts as false stands where `none` is documented only if it is `none` or an empty list. -/
theorem leftOut_iff {P : Value → Prop} {v : Value} (h : v.isTrue = false ∨ IsListOf P v) :
    v = .none ∨ IsListOf P v ↔ v.isTrue = false → v = .none ∨ v.bare = .list [] := by
  rcases h with hfalse | hlist
  · simp [hfalse, isListOf_iff_of_isTrue_eq_false hfalse]
  · simp only [hlist, or_true, true_iff]
    exact fun hfalse => .inr ((isListOf_iff_of_isTrue_eq_false hfalse).mp hlist)

/-- A document without cycles is read if and only if its name can be written and its fields are as
they have to be, where everything that counts as false is taken for left out. -/
theorem exists_ofDocument_eq_ok_iff {d : Value} (hcut : d.isCut = false) :
    (∃ p, ofDocument d = .ok p) ↔ IsDocument (·.isTrue = false) d ∧
      ∀ es name, d.bare = .dict es → Value.lookup "name" es = some name →
        name.isWritable = true := by
  simp only [ofDocument_eq_ok_iff]
  constructor
  · rintro ⟨p, hp⟩
    obtain ⟨es, name, hes, hname, hwritable⟩ := exists_name_of_readDocument hcut hp
    refine ⟨⟨es, hes, ?_⟩, fun es' name' hes' hname' => ?_⟩
    · exact (decides_readDocument hcut hes hname hwritable).exists_ok_iff.mp ⟨p, hp⟩
    · obtain rfl := Value.dict.inj (hes.symm.trans hes')
      obtain rfl := Option.some.inj (hname.symm.trans hname')
      exact hwritable
  · rintro ⟨⟨es, hes, hfields⟩, hwritable⟩
    obtain ⟨name, hname⟩ := hfields.name
    have hread := decides_readDocument hcut hes hname (hwritable es name hes hname)
    exact hread.exists_ok_iff.mpr hfields

/-- A document in which everything that counts as false is taken for left out is documented if and
only if nothing that counts as false stands for a list but `none` and the empty list. -/
theorem IsDocument.isDocumented_iff {d : Value} (h : IsDocument (·.isTrue = false) d) :
    IsDocument (· = .none) d ↔ ∀ es, d.bare = .dict es → ∀ key ∈ ["includes", "declarations"],
      ∀ v, Value.lookup key es = some v → v.isTrue = false → v = .none ∨ v.bare = .list [] := by
  obtain ⟨es, hes, hfields⟩ := h
  constructor
  · rintro ⟨es', hes', hdocumented⟩ es'' hes'' key hkey v hv
    obtain rfl := Value.dict.inj (hes.symm.trans hes')
    obtain rfl := Value.dict.inj (hes.symm.trans hes'')
    simp only [List.mem_cons, List.not_mem_nil, or_false] at hkey
    rcases hkey with rfl | rfl
    · exact (leftOut_iff (hfields.includes v hv)).mp (hdocumented.includes v hv)
    · exact (leftOut_iff (hfields.declarations v hv)).mp (hdocumented.declarations v hv)
  · intro h
    exact ⟨es, hes, hfields.name, hfields.guard,
      fun v hv => (leftOut_iff (hfields.includes v hv)).mpr (h es hes _ (by simp) v hv),
      fun v hv => (leftOut_iff (hfields.declarations v hv)).mpr (h es hes _ (by simp) v hv)⟩

/-- The documents that are read, and which of them are documented.

A document without cycles is read if and only if it is a mapping with a name that can be written and
with the documented fields, where everything that counts as false may stand for the files and for
the declarations. It is documented if and only if nothing that counts as false stands there but
`none` and the empty list. -/
theorem accepts_iff {d : Value} (hcut : d.isCut = false) :
    ((∃ p, ofDocument d = .ok p) ↔ IsDocument (·.isTrue = false) d ∧
      ∀ es name, d.bare = .dict es → Value.lookup "name" es = some name →
        name.isWritable = true) ∧
    ((∃ p, ofDocument d = .ok p) → (IsDocument (· = .none) d ↔
      ∀ es, d.bare = .dict es → ∀ key ∈ ["includes", "declarations"], ∀ v,
        Value.lookup key es = some v → v.isTrue = false → v = .none ∨ v.bare = .list [])) :=
  ⟨exists_ofDocument_eq_ok_iff hcut,
    fun hok => ((exists_ofDocument_eq_ok_iff hcut).mp hok).1.isDocumented_iff⟩

/-- A document with zero in place of the files. -/
def zeroIncludes : Value :=
  .record [("name", .text "x"), ("includes", .int 0)]

/-- The document with zero in place of the files is read and is not documented. -/
theorem accepts_zeroIncludes :
    zeroIncludes.isCut = false ∧ (∃ p, ofDocument zeroIncludes = .ok p) ∧
      ¬IsDocument (· = .none) zeroIncludes := by
  obtain ⟨-, hdocumented⟩ := accepts_iff (d := zeroIncludes) rfl
  have hread : ∃ p, ofDocument zeroIncludes = .ok p := ⟨_, rfl⟩
  refine ⟨rfl, hread, fun h => ?_⟩
  have hzero := (hdocumented hread).mp h _ rfl "includes" (by simp) (.int 0)
    (Value.lookup_of_field rfl) rfl
  rcases hzero with h | h <;> cases h

end Plan

end CHeaders
