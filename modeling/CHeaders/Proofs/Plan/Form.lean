import CHeaders.Plan
import CHeaders.Proofs.Term.Form
import CHeaders.Proofs.Value.Equality

/-!
# Forms of plans

The parts of a plan may hold any values. This module says which plans are typed, that is, hold in
each part what the part is meant for, and what the plain form of a typed plan is: the same plan with
the terms of its declarations in their plain forms.

What counts as a text and what counts as a comment is left open. A text is either any text or an
ordinary one, and a comment may be missing.

## Main definitions

* `CHeaders.Value.IsText`, `CHeaders.Value.IsOrdinaryText`, `CHeaders.Value.Optional`: texts,
  texts that were not generated, and what may be missing.
* `CHeaders.Plan.IsDeclaration`, `CHeaders.Plan.IsTyped`: typed declarations and plans.
* `CHeaders.Plan.listed`: the plain form of a plan.

## Main results

* `CHeaders.Plan.IsTyped.listed_eq`: a plan whose terms are plain is its own plain form.
* `CHeaders.Plan.IsTyped.isPlanData_listed`: the plain form of a typed plan is plan data.
-/

namespace CHeaders

namespace Value

/-- The value is a text of either kind. -/
def IsText (v : Value) : Prop := v.text?.isSome

/-- The value is a text that was not generated. -/
def IsOrdinaryText (v : Value) : Prop := ∃ t, v = .text t

/-- The value is missing, or it is as `P` says. -/
def Optional (P : Value → Prop) (v : Value) : Prop := v = .none ∨ P v

/-- An ordinary text is a text. -/
theorem IsOrdinaryText.isText {v : Value} (h : IsOrdinaryText v) : IsText v := by
  obtain ⟨t, rfl⟩ := h
  rfl

/-- What may be missing is at least as `Q` says if `P` says more. -/
theorem Optional.imp {P Q : Value → Prop} (h : ∀ v, P v → Q v) {v : Value} (hv : Optional P v) :
    Optional Q v :=
  hv.imp_right (h v)

/-- A text is one of two kinds of values. -/
theorem isText_iff {v : Value} : IsText v ↔ ∃ t, v = .text t ∨ v = .fragment t := by
  cases v <;> simp [IsText, text?]

/-- A text is plan data. -/
theorem IsText.isPlanData {v : Value} (h : IsText v) : v.isPlanData := by
  obtain ⟨t, rfl | rfl⟩ := isText_iff.mp h <;> rfl

/-- A text that may be missing is plan data. -/
theorem Optional.isPlanData {v : Value} (h : Optional IsText v) : v.isPlanData := by
  obtain rfl | h := h
  · rfl
  · exact h.isPlanData

/-- A text that may be missing can be written. -/
theorem Optional.isWritable {v : Value} (h : Optional IsText v) : v.isWritable = true := by
  obtain rfl | h := h
  · rfl
  · exact isWritable_of_text h

end Value

/-- Plain terms are plan data. -/
theorem Term.IsPlain.isPlanData {t : Value} (h : IsPlain t) : t.isPlanData := by
  induction h with
  | text s => rfl
  | fragment s => rfl
  | int n => rfl
  | list _ ih => simpa [Value.isPlanData] using ih
  | call hop _ ih => simpa [Value.isPlanData, Value.IsText.isPlanData hop] using ih

namespace Plan

/-- A declaration with a term and a comment. -/
inductive IsDeclaration (isComment : Value → Prop) : Value → Prop
  | mk {term comment : Value} (hterm : Term.IsTerm term) (hcomment : isComment comment) :
      IsDeclaration isComment (.declaration term comment)

/-- A plan with a name, a guard that may be missing, a list of files and a list of
declarations. -/
inductive IsTyped (isText isComment : Value → Prop) : Plan → Prop
  | mk {name guard : Value} {files ds : List Value} (hname : isText name)
      (hguard : Value.Optional isText guard) (hfiles : ∀ f ∈ files, isText f)
      (hds : ∀ d ∈ ds, IsDeclaration isComment d) :
      IsTyped isText isComment ⟨name, .list ds, guard, .list files⟩

/-- The terms of the declarations of a plan are as `P` says. -/
def HasTerms (P : Value → Prop) (p : Plan) : Prop :=
  ∀ ds, p.declarations = .list ds → ∀ term comment, Value.declaration term comment ∈ ds → P term

/-- A declaration with the plain form of its term. -/
def listedDeclaration : Value → Value
  | .declaration term comment => .declaration (Term.listed term) comment
  | v => v

/-- The plain form of a plan: its declarations with the plain forms of their terms. -/
def listed (p : Plan) : Plan :=
  match p.declarations with
  | .list ds => { p with declarations := .list (ds.map listedDeclaration) }
  | _ => p

variable {isText isText' isComment isComment' : Value → Prop}

/-- A typed declaration stays one when less is asked of its comment. -/
theorem IsDeclaration.imp (h : ∀ v, isComment v → isComment' v) {d : Value}
    (hd : IsDeclaration isComment d) : IsDeclaration isComment' d := by
  obtain ⟨hterm, hcomment⟩ := hd
  exact ⟨hterm, h _ hcomment⟩

/-- A typed plan stays one when less is asked of its texts and comments. -/
theorem IsTyped.imp (ht : ∀ v, isText v → isText' v) (hc : ∀ v, isComment v → isComment' v)
    {p : Plan} (hp : IsTyped isText isComment p) : IsTyped isText' isComment' p := by
  obtain ⟨hname, hguard, hfiles, hds⟩ := hp
  exact ⟨ht _ hname, hguard.imp ht, fun f hf => ht f (hfiles f hf),
    fun d hd => (hds d hd).imp hc⟩

/-- The plain form of a typed plan is typed. -/
theorem IsTyped.isTyped_listed {p : Plan} (hp : IsTyped isText isComment p) :
    IsTyped isText isComment p.listed := by
  obtain ⟨hname, hguard, hfiles, hds⟩ := hp
  refine ⟨hname, hguard, hfiles, List.forall_mem_map.mpr fun d hd => ?_⟩
  obtain ⟨hterm, hcomment⟩ := hds d hd
  exact ⟨hterm.isPlain_listed.isTerm, hcomment⟩

/-- A plan whose terms are plain is its own plain form. -/
theorem IsTyped.listed_eq {p : Plan} (hp : IsTyped isText isComment p)
    (hplain : p.HasTerms Term.IsPlain) : p.listed = p := by
  obtain @⟨name, guard, files, ds, hname, hguard, hfiles, hds⟩ := hp
  have hmap : ds.map listedDeclaration = ds.map id := by
    refine List.map_congr_left fun d hd => ?_
    obtain ⟨hterm, hcomment⟩ := hds d hd
    rw [listedDeclaration, (hplain ds rfl _ _ hd).listed_eq, id]
  simp only [listed, hmap, List.map_id]

/-- The terms of the plain form of a typed plan are plain. -/
theorem IsTyped.hasTerms_listed {p : Plan} (hp : IsTyped isText isComment p) :
    p.listed.HasTerms Term.IsPlain := by
  obtain @⟨name, guard, files, ds, hname, hguard, hfiles, hds⟩ := hp
  intro ds' h term comment hmem
  obtain rfl : ds.map listedDeclaration = ds' := Value.list.inj h
  obtain ⟨d, hd, heq⟩ := List.mem_map.mp hmem
  obtain ⟨hterm, -⟩ := hds d hd
  simp only [listedDeclaration, Value.declaration.injEq] at heq
  exact heq.1 ▸ hterm.isPlain_listed

/-- The plain form of a typed plan is plan data. -/
theorem IsTyped.isPlanData_listed {p : Plan}
    (hp : IsTyped Value.IsText (Value.Optional Value.IsText) p) : p.listed.toValue.isPlanData := by
  obtain @⟨name, guard, files, ds, hname, hguard, hfiles, hds⟩ := hp
  have hdeclarations : ∀ d ∈ ds, (listedDeclaration d).isPlanData := by
    intro d hd
    obtain ⟨hterm, hcomment⟩ := hds d hd
    simp [listedDeclaration, Value.isPlanData, hterm.isPlain_listed.isPlanData,
      hcomment.isPlanData]
  have hincludes : ∀ f ∈ files, f.isPlanData := fun f hf => (hfiles f hf).isPlanData
  simp [listed, toValue, Value.isPlanData, hname.isPlanData, hguard.isPlanData]
  exact ⟨hdeclarations, hincludes⟩

end Plan

end CHeaders
