import CHeaders.Proofs.Plan.Header
import CHeaders.Proofs.Term.Replay

/-!
# The first fault of a plan

The declarations of a plan are rendered in order, and the first one that fails on its own decides
what goes wrong; if none does, their texts are returned in order. In the same way the first node of
a term that fails, the parts of each node in front of the node, decides how the term fails.

## Main results

* `CHeaders.Plan.renderDeclarations_eq_error_iff`: how the declarations of a plan fail.
* `CHeaders.Plan.result_renderDeclarations_append`: the declarations of two lists.
* `CHeaders.Plan.first_fault_decides`: how terms and plans fail, and what they return if they do
  not.
-/

namespace CHeaders.Plan

/-- The declarations of a plan fail if and only if one of them fails and those in front of it
render, and then they fail as this one does. -/
theorem renderDeclarations_eq_error_iff {p : Plan} {ds : List Value} {f : Fault}
    (hds : itemsOf p.declarations = .ok ds) :
    (renderDeclarations p).result = .error f ↔ ∃ front d back texts, ds = front ++ d :: back ∧
      List.Forall₂ (fun d t => (renderDeclaration d).result = .ok t) front texts ∧
      (renderDeclaration d).result = .error f := by
  rw [result_renderDeclarations hds, mapM_eq_error_iff]

/-- The declarations of two lists are rendered one list after the other. -/
theorem result_renderDeclarations_append (p : Plan) (ds es : List Value) :
    (renderDeclarations { p with declarations := .list (ds ++ es) }).result = do
      let texts ← (renderDeclarations { p with declarations := .list ds }).result
      let others ← (renderDeclarations { p with declarations := .list es }).result
      return texts ++ others := by
  have hitems (xs : List Value) :
      (renderDeclarations { p with declarations := .list xs }).result =
        xs.mapM fun d => (renderDeclaration d).result := result_renderDeclarations rfl
  rw [hitems, hitems, hitems, List.mapM_append]

variable {t : Value} {p : Plan} {ds : List Value}

/-- What a term and the declarations of a plan return, and how they fail. A term is evaluated if all
its nodes are settled, the parts of each node in front of the node, and else it fails as the first
node does that fails in this order. The declarations of a plan are rendered if each of them renders
on its own, and else they fail as the first one does that fails. What is rendered of two lists of
declarations is what is rendered of the one and then of the other. -/
theorem first_fault_decides (ht : Term.IsTree t) (hds : itemsOf p.declarations = .ok ds) :
    ((∀ v, (Term.evaluate t).result = .ok v ↔ Term.replay (Term.nodes t) [] = .ok [v]) ∧
      ∀ f, (Term.evaluate t).result = .error f ↔ Term.FailsFirst (Term.nodes t) [] f) ∧
    ((∀ texts, (renderDeclarations p).result = .ok texts ↔
        List.Forall₂ (fun d t => (renderDeclaration d).result = .ok t) ds texts) ∧
      ∀ f, (renderDeclarations p).result = .error f ↔
        ∃ front d back texts, ds = front ++ d :: back ∧
          List.Forall₂ (fun d t => (renderDeclaration d).result = .ok t) front texts ∧
          (renderDeclaration d).result = .error f) ∧
    ∀ front back, (renderDeclarations { p with declarations := .list (front ++ back) }).result = do
      let texts ← (renderDeclarations { p with declarations := .list front }).result
      let others ← (renderDeclarations { p with declarations := .list back }).result
      return texts ++ others := by
  refine ⟨⟨fun v => ht.evaluate_eq_ok_iff, fun f => ht.evaluate_eq_error_iff⟩, ?_,
    result_renderDeclarations_append p⟩
  exact ⟨fun texts => renderDeclarations_eq_ok_iff hds,
    fun f => renderDeclarations_eq_error_iff hds⟩

/-- A call with too few arguments as an argument of an unknown operation. -/
def callInCall : Value :=
  .call (.text "nope") (.list [.text "int x", .call (.text "struct") (.list [.text "s"])])

/-- The call inside fails in front of the unknown operation, and its declaration in front of one
that is no term. -/
theorem first_fault_decides_callInCall :
    (Term.evaluate callInCall).result =
      .error (.refused .arity "struct" "2 argument(s)" (.int 1)) ∧
    ∀ name guard includes, (renderDeclarations ⟨name, .list [.declaration (.text "int x") .none,
      .declaration callInCall .none, .declaration (.bool true) .none], guard, includes⟩).result =
        .error (.refused .arity "struct" "2 argument(s)" (.int 1)) := by
  have htree : Term.IsTree callInCall := by
    refine .call _ (List.forall_mem_cons.mpr ⟨.leaf rfl, List.forall_mem_singleton.mpr ?_⟩)
    exact .call _ (List.forall_mem_singleton.mpr (.leaf rfl))
  have hstruct : Term.settle (.call (.text "struct") (.list [.text "s"])) [.text "s"] =
      .error (.refused .arity "struct" "2 argument(s)" (.int 1)) := by
    rfl
  have hcall : (Term.evaluate callInCall).result =
      .error (.refused .arity "struct" "2 argument(s)" (.int 1)) := by
    refine ((first_fault_decides (p := ⟨.none, .list [], .none, .none⟩) htree rfl).1.2 _).mpr ?_
    exact ⟨[.text "int x", .text "s"], .call (.text "struct") (.list [.text "s"]), [callInCall],
      [.text "s"], [.text "int x"], rfl, rfl, .cons rfl .nil, hstruct⟩
  refine ⟨hcall, fun name guard includes => ?_⟩
  refine ((first_fault_decides htree rfl).2.1.2 _).mpr
    ⟨[.declaration (.text "int x") .none], .declaration callInCall .none,
      [.declaration (.bool true) .none], ["int x;"], rfl, .cons rfl .nil, ?_⟩
  rw [result_renderDeclaration, hcall]
  rfl

end CHeaders.Plan
