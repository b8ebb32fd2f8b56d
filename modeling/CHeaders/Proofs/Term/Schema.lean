import CHeaders.Proofs.Term.Document
import CHeaders.Proofs.Value.Part

/-!
# Documents that are read as terms

Not every document is read as a term. One that is read is a text, a whole number, a list of such
documents, or a mapping that names an operation by a text and may list such documents as its
arguments. Every other document is refused as a malformed plan, and the refusal shows a part of the
document.

## Main definitions

* `CHeaders.Term.IsDocument`: the documents of terms.
* `CHeaders.Fault.ShowsPart`: the refusals of a malformed plan that show a part of a document.

## Main results

* `CHeaders.Term.reads_ofShown`: reading accepts the documents of terms and refuses all others.
-/

namespace CHeaders

open Value (IsPart IsListOf)

/-- The refusals of a malformed plan that show a part of the document `whole`. -/
def Fault.ShowsPart (whole : Value) (f : Fault) : Prop :=
  ∃ operation expected given, f = .refused .plan operation expected given ∧ IsPart whole given

namespace Term

/-- The documents of terms. -/
inductive IsDocument : Value → Prop
  | text (s : Text) : IsDocument (.text s)
  | fragment (s : Text) : IsDocument (.fragment s)
  | int (n : Int) : IsDocument (.int n)
  | list {ds : List Value} (h : ∀ d ∈ ds, IsDocument d) : IsDocument (.list ds)
  | name {es : List (Value × Value)} {op : Value} (hop : Value.lookup "op" es = some op)
      (htext : op.text?.isSome) (hargs : Value.lookup "args" es = none) : IsDocument (.dict es)
  | call {es : List (Value × Value)} {op args : Value} {ds : List Value}
      (hop : Value.lookup "op" es = some op) (htext : op.text?.isSome)
      (hargs : Value.lookup "args" es = some args) (hlist : args.bare = .list ds)
      (h : ∀ d ∈ ds, IsDocument d) : IsDocument (.dict es)
  | marked {mark : Nat} {d : Value} (h : IsDocument d) : IsDocument (.shared mark d)

/-- A list is the document of a term if all its items are. -/
theorem isDocument_list_iff {ds : List Value} :
    IsDocument (.list ds) ↔ ∀ d ∈ ds, IsDocument d := by
  constructor
  · rintro ⟨⟩
    assumption
  · exact .list

/-- A mapping is the document of a term if it names an operation by a text and its arguments, if
there are any, are a list of documents of terms. -/
theorem isDocument_dict_iff {es : List (Value × Value)} :
    IsDocument (.dict es) ↔ (∃ op, Value.lookup "op" es = some op ∧ op.text?.isSome) ∧
      ∀ args, Value.lookup "args" es = some args → IsListOf IsDocument args := by
  constructor
  · intro h
    cases h with
    | name hop htext hargs => exact ⟨⟨_, hop, htext⟩, fun args h => by simp [hargs] at h⟩
    | call hop htext hargs hlist h =>
      refine ⟨⟨_, hop, htext⟩, fun args h' => ?_⟩
      obtain rfl := Option.some.inj (hargs.symm.trans h')
      exact ⟨_, hlist, h⟩
  · rintro ⟨⟨op, hop, htext⟩, h⟩
    cases hargs : Value.lookup "args" es with
    | none => exact .name hop htext hargs
    | some args =>
      obtain ⟨ds, hlist, hds⟩ := h args hargs
      exact .call hop htext hargs hlist hds

/-- A marked value is the document of a term if the value is. -/
theorem isDocument_shared_iff {mark : Nat} {d : Value} :
    IsDocument (.shared mark d) ↔ IsDocument d := by
  constructor
  · rintro ⟨⟩
    assumption
  · exact .marked

/-! ## Reading -/

/-- Reading a part `d` of the document `whole` decides whether `d` is the document of a term. What
is read is plain and can be written if the document can, and a refusal shows a part of it. -/
def Reads (whole d : Value) : Except Fault Value → Prop :=
  Decides (IsDocument d) (fun t => IsPlain t ∧ (whole.isWritable = true → t.isWritable = true))
    (·.ShowsPart whole)

/-- The operation that a mapping names has to be a text. -/
theorem decides_operationOf {whole shown : Value} {es : List (Value × Value)}
    (hshown : IsPart whole shown) (hes : IsPart whole (.dict es)) :
    Decides (∃ op, Value.lookup "op" es = some op ∧ op.text?.isSome) (·.text?.isSome)
      (·.ShowsPart whole) (operationOf shown es) := by
  rw [operationOf]
  cases hop : Value.lookup "op" es with
  | none => exact ⟨by simp, _, _, _, rfl, hshown⟩
  | some op =>
    simp only
    split
    · rename_i htext
      exact ⟨⟨op, rfl, htext⟩, htext⟩
    · rename_i htext
      exact ⟨by simpa using htext, _, _, _, rfl, hes.entry hop⟩

/-- Several documents are read one by one. -/
theorem decides_ofDocuments {whole : Value} {ds : List Value}
    (h : ∀ d ∈ ds, Reads whole d (ofDocument d)) :
    Decides (∀ d ∈ ds, IsDocument d)
      (fun ts => ∀ t ∈ ts, IsPlain t ∧ (whole.isWritable = true → t.isWritable = true))
      (·.ShowsPart whole) (ofDocuments ds) := by
  rw [ofDocuments_eq_mapM]
  exact Decides.mapM h

/-- The arguments in a document are those in the list that it is. -/
theorem argsIn_eq (shown : Value) : ∀ v : Value, argsIn shown v =
    match v.bare with
    | .list ds => ofDocuments ds
    | _ => .error (.refused .plan "term_from_dict" "a list of args" shown)
  | .shared _ v => by
    rw [argsIn]
    exact argsIn_eq shown v
  | .list ds => rfl
  | .none | .bool _ | .int _ | .real _ | .text _ | .fragment _ | .bytes _ | .tuple _ | .dict _
  | .set _ | .moment _ | .nil | .cons _ _ | .foreign _ | .call _ _ | .declaration _ _
  | .plan _ _ _ _ | .step _ _ | .position _ _ _ | .symbolKey _ _ _ | .callable _ _ _ _
  | .cycle _ _ => rfl

/-- Nothing is read where no arguments are found. -/
theorem argsOf_of_lookup_eq_none {es : List (Value × Value)}
    (h : Value.lookup "args" es = none) : argsOf es = .ok [] := by
  induction es with
  | nil => rfl
  | cons e es ih =>
    rw [Value.lookup] at h
    split at h
    · cases h
    · rename_i hkey
      rw [argsOf, if_neg hkey, ih h]

/-- The arguments in a mapping, if there are any, have to be a list of documents of terms. -/
theorem decides_argsOf {whole : Value} {es : List (Value × Value)} (hes : IsPart whole (.dict es))
    (h : ∀ args, Value.lookup "args" es = some args → ∀ ds, args.bare = .list ds →
      ∀ d ∈ ds, Reads whole d (ofDocument d)) :
    Decides (∀ args, Value.lookup "args" es = some args → IsListOf IsDocument args)
      (fun ts => ∀ t ∈ ts, IsPlain t ∧ (whole.isWritable = true → t.isWritable = true))
      (·.ShowsPart whole) (argsOf es) := by
  cases hargs : Value.lookup "args" es with
  | none =>
    rw [argsOf_of_lookup_eq_none hargs]
    exact ⟨by simp, by simp⟩
  | some args =>
    have hlist (ds : List Value) (hds : args.bare = .list ds) :
        IsListOf IsDocument args ↔ ∀ d ∈ ds, IsDocument d := by
      simp [IsListOf, hds]
    rw [argsOf_eq hargs, argsIn_eq]
    simp only [Option.some.injEq, forall_eq']
    split
    · rename_i ds hds
      exact (decides_ofDocuments (h args hargs ds hds)).imp (hlist ds hds).symm fun _ hts => hts
    · rename_i hnot
      refine ⟨?_, _, _, _, rfl, hes.entry hargs⟩
      rintro ⟨ds, hds, -⟩
      exact hnot ds hds

/-- Reading accepts the documents of terms and gives plain terms, which can be written if the
document can. It refuses all other documents, and shows a part of them.

**Proof sketch.** By induction on the document. A mapping needs an operation, which has to be a
text; its arguments, if there are any, have to be a list, and are read one by one. -/
theorem reads_ofShown (whole d : Value) : ∀ shown, IsPart whole shown → IsPart whole d →
    Reads whole d (ofShown shown d) := by
  -- The items of a list are needed for the list itself and for the mapping whose arguments it is.
  suffices h : (∀ shown, IsPart whole shown → IsPart whole d → Reads whole d (ofShown shown d)) ∧
      ∀ ds, d.bare = .list ds → IsPart whole d → ∀ e ∈ ds, Reads whole e (ofDocument e) from h.1
  induction d using Value.tree_induction with
  | leaf d hleaf =>
    refine ⟨fun shown hshown hd => ?_, fun ds hds => ?_⟩
    · cases d <;> first
        | exact ⟨.text _, .text _, fun _ => rfl⟩
        | exact ⟨.fragment _, .fragment _, fun _ => rfl⟩
        | exact ⟨.int _, .int _, fun h => hd.isWritable_eq h⟩
        | exact absurd hleaf Bool.false_ne_true
        | exact ⟨fun h => (by cases h), _, _, _, rfl, hshown⟩
    · cases d <;> first
        | exact absurd hleaf Bool.false_ne_true
        | cases hds
  | list ds ih =>
    have hitems : IsPart whole (.list ds) → ∀ e ∈ ds, Reads whole e (ofDocument e) :=
      fun hd e he => (ih e he).1 e (hd.item he) (hd.item he)
    refine ⟨fun shown _ hd => ?_, fun ds' hds hd => ?_⟩
    · rw [ofShown, Reads, isDocument_list_iff]
      refine (decides_ofDocuments (hitems hd)).map fun ts _ hts =>
        ⟨.list fun t ht => (hts t ht).1, fun hwritable => ?_⟩
      rw [Value.isWritable, Value.allWritable_eq_all, List.all_eq_true]
      exact fun t ht => (hts t ht).2 hwritable
    · obtain rfl := Value.list.inj hds
      exact hitems hd
  | dict es ih =>
    refine ⟨fun shown hshown hd => ?_, fun ds hds => by cases hds⟩
    rw [ofShown, Reads, isDocument_dict_iff]
    refine (decides_operationOf hshown hd).bind fun op _ htext => ?_
    have hread := decides_argsOf hd fun args hargs ds hds => by
      obtain ⟨k, hk⟩ := Value.mem_of_lookup hargs
      exact (ih _ hk).2 ds hds (hd.entry hargs)
    refine hread.map fun ts _ hts => ⟨.call htext fun t ht => (hts t ht).1, fun hwritable => ?_⟩
    rw [Value.isWritable, Value.isWritable, Value.allWritable_eq_all,
      Value.isWritable_of_text htext, Bool.true_and, List.all_eq_true]
    exact fun t ht => (hts t ht).2 hwritable
  | shared mark d ih =>
    refine ⟨fun shown hshown hd => ?_, fun ds hds hd => ih.2 ds hds hd.marked⟩
    rw [ofShown, Reads, isDocument_shared_iff]
    exact ih.1 shown hshown hd.marked

end Term

end CHeaders
