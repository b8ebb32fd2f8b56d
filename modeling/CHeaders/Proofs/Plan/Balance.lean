import CHeaders.Proofs.Operation.Balance
import CHeaders.Proofs.Plan.Header
import CHeaders.Proofs.Term.Form

/-!
# Declarations with balanced brackets

If the brackets nest in every text of a plain term, then they nest in what the term stands for: in
its text, or in every text of its sequence at any depth. So they nest in the text of a declaration.
Names of operations do not count among the texts of a term, because nothing writes them.

This holds of plain terms. In other terms a call may stand in a sequence, which is not evaluated.
Such a call is written as a literal, and then the name of its operation is part of the text.

## Main definitions

* `CHeaders.Term.leaves`: the texts in a plain term.

## Main results

* `CHeaders.Term.IsPlain.isBalanced_of_evaluate`: evaluation keeps terms balanced.
* `CHeaders.Term.balanced_of_leaves`: terms and declarations with balanced texts in them.
-/

namespace CHeaders

namespace Term

mutual

/-- The texts in a plain term, at any depth. -/
def leaves : Value → List Text
  | .text s | .fragment s => [s]
  | .list ts => leavesOf ts
  | .call _ args => leaves args
  | _ => []

/-- The texts in several plain terms. -/
def leavesOf : List Value → List Text
  | [] => []
  | t :: ts => leaves t ++ leavesOf ts

end

/-- The texts in a term are among the texts in a list of terms with the term in it. -/
theorem leaves_subset_leavesOf {t : Value} {ts : List Value} (h : t ∈ ts) :
    leaves t ⊆ leavesOf ts := by
  induction ts with
  | nil => cases h
  | cons u ts ih =>
    rcases List.mem_cons.mp h with rfl | h
    · exact List.subset_append_left _ _
    · exact List.Subset.trans (ih h) (List.subset_append_right _ _)

/-- What terms stand for is balanced if the texts in them are, provided that this holds of each
term. -/
theorem forall_isBalanced_of_leavesOf {ts vs : List Value}
    (h : ∀ t ∈ ts, ∀ v, (∀ s ∈ leaves t, s.IsBalanced) → (evaluate t).result = .ok v →
      v.IsBalanced)
    (hleaves : ∀ s ∈ leavesOf ts, s.IsBalanced)
    (hvs : List.Forall₂ (fun t v => (evaluate t).result = .ok v) ts vs) :
    ∀ v ∈ vs, v.IsBalanced := by
  intro v hv
  obtain ⟨t, ht, htv⟩ := exists_mem_of_mapM ((mapM_eq_ok_iff _ _ _).mpr hvs) v hv
  exact h t ht v (fun s hs => hleaves s (leaves_subset_leavesOf ht hs)) htv

/-- What a plain term stands for is balanced if the texts in it are.

**Proof sketch.** Induction on the term. A text or a number stands for itself, a list for the
sequence of what its items stand for, and a call for what its operation writes, which is balanced
because its arguments are. -/
theorem IsPlain.isBalanced_of_evaluate {t : Value} (h : IsPlain t) :
    ∀ v, (∀ s ∈ leaves t, s.IsBalanced) → (evaluate t).result = .ok v → v.IsBalanced := by
  induction h with
  | text s =>
    intro v hleaves hv
    obtain rfl := Except.ok.inj hv
    exact .text (hleaves s (List.mem_singleton_self s))
  | fragment s =>
    intro v hleaves hv
    obtain rfl := Except.ok.inj hv
    exact .fragment (hleaves s (List.mem_singleton_self s))
  | int n =>
    intro v _ hv
    obtain rfl := Except.ok.inj hv
    exact .int n
  | list _ ih =>
    intro v hleaves hv
    obtain ⟨vs, hvs, rfl⟩ := evaluate_list_eq_ok_iff.mp hv
    exact .sequence (forall_isBalanced_of_leavesOf ih hleaves hvs)
  | call _ _ ih =>
    intro v hleaves hv
    obtain ⟨vs, r, hvs, hr, rfl⟩ := evaluate_call_eq_ok_iff.mp hv
    obtain ⟨op, -, hrun⟩ := Operation.exists_run_of_call hr
    exact .fragment (Operation.isBalanced_run (forall_isBalanced_of_leavesOf ih hleaves hvs) hrun)

end Term

namespace Plan

/-- A semicolon at the end keeps a text balanced. -/
theorem isBalanced_terminated {t : Text} (h : t.IsBalanced) : (terminated t).IsBalanced := by
  unfold terminated
  split
  · exact h
  · have hend : Text.IsBalanced ";" := rfl
    exact h.append hend

end Plan

namespace Term

/-- If the brackets nest in all texts of a plain term, then they nest in all texts of what it stands
for, and in the text of a declaration of it. -/
theorem balanced_of_leaves {t : Value} (h : IsPlain t) (hleaves : ∀ s ∈ leaves t, s.IsBalanced) :
    (∀ v, (evaluate t).result = .ok v → v.IsBalanced) ∧
    ∀ comment text, (Plan.renderDeclaration (.declaration t comment)).result = .ok text →
      text.IsBalanced := by
  have hvalue := fun v => h.isBalanced_of_evaluate v hleaves
  refine ⟨hvalue, fun comment text htext => ?_⟩
  obtain ⟨v, hv, -, -, -, rfl⟩ := Plan.renderDeclaration_eq_ok_iff.mp htext
  exact Plan.isBalanced_terminated (Text.isBalanced_trim.mpr (hvalue v hv).display)

/-- A structure whose second field has a list for its type. -/
def listField : Value :=
  .call (.text "struct") (.list [.text "S",
    .call (.text "indexedFields") (.list [.list [.text "int", .list [.text "f(a)", .text "[0]"]]])])

/-- The text of the structure, with the list as a literal. -/
def listFieldText : String :=
  "struct S\x7bint _0; seq_list('f(a)', '[0]') _1;\x7d;"

/-- The structure has balanced texts in it, so its text is balanced. -/
theorem balanced_listField :
    IsPlain listField ∧ (∀ s ∈ leaves listField, s.IsBalanced) ∧
      (Plan.renderDeclaration (.declaration listField .none)).result = .ok listFieldText ∧
      Text.IsBalanced listFieldText := by
  have hlist : IsPlain (.list [.text "f(a)", .text "[0]"]) :=
    .list (by simp [IsPlain.text])
  have hfields : IsPlain (.call (.text "indexedFields")
      (.list [.list [.text "int", .list [.text "f(a)", .text "[0]"]]])) :=
    .call rfl (List.forall_mem_singleton.mpr (.list (by simp [IsPlain.text, hlist])))
  have hplain : IsPlain listField := .call rfl (by simp [IsPlain.text, hfields])
  have hleaves : ∀ s ∈ leaves listField, s.IsBalanced := by decide
  have htext : (Plan.renderDeclaration (.declaration listField .none)).result =
      .ok listFieldText := eq_ok_of_toOption (by decide +kernel)
  exact ⟨hplain, hleaves, htext, (balanced_of_leaves hplain hleaves).2 .none _ htext⟩

end Term

end CHeaders
