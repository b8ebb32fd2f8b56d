import CHeaders.Proofs.Operation
import CHeaders.Proofs.Term.Form

/-!
# Terms node by node

A term is a tree. Its inner nodes are the calls, the lists and the tuples, with the arguments and
the items as their parts; what is none of these is a leaf, whatever it is. The nodes can be told one
after the other, the parts from left to right and each node behind its parts. In this order a term
is evaluated with a stack: a node takes what its parts stand for from the stack and puts there what
it stands for itself.

A node looks at nothing but what its parts stand for. So a call looks at its name, at the number of
its arguments and at their kinds, in this order, when all its arguments have been evaluated; and
evaluation fails with the fault of the first node that fails in this order, whatever stands behind
it.

## Main definitions

* `CHeaders.Term.IsTree`: the terms whose calls have their arguments in lists.
* `CHeaders.Term.parts`, `CHeaders.Term.nodes`: the parts of a node, and the nodes of a term.
* `CHeaders.Term.settle`: what a node stands for if its parts stand for given values.
* `CHeaders.Term.replay`: nodes settled one after the other.
* `CHeaders.Term.IsReplayed`: settling the nodes of a term is evaluating it.
* `CHeaders.Term.FailsFirst`: the first node that fails.

## Main results

* `CHeaders.Term.IsTree.replay_nodes`: all these terms are replayed.
* `CHeaders.Term.IsTree.evaluate_eq_ok_iff`, `CHeaders.Term.IsTree.evaluate_eq_error_iff`: what
  evaluation returns, and the first node that fails.
-/

namespace CHeaders.Term

/-- Whether a value holds no terms that are evaluated. -/
def isLeaf : Value → Bool
  | .call _ _ | .list _ | .tuple _ => false
  | _ => true

/-- The terms whose calls have their arguments in lists. The leaves may be any values. -/
inductive IsTree : Value → Prop
  | call (op : Value) {args : List Value} (h : ∀ t ∈ args, IsTree t) :
      IsTree (.call op (.list args))
  | list {items : List Value} (h : ∀ t ∈ items, IsTree t) : IsTree (.list items)
  | tuple {items : List Value} (h : ∀ t ∈ items, IsTree t) : IsTree (.tuple items)
  | leaf {v : Value} (h : isLeaf v = true) : IsTree v

/-- The parts of a node: the arguments of a call, and the items of a list or a tuple. -/
def parts : Value → List Value
  | .call _ (.list args) => args
  | .list items | .tuple items => items
  | _ => []

mutual

/-- The nodes of a term: those of its parts from left to right, and then the term itself. -/
def nodes : Value → List Value
  | .call op (.list args) => nodesOf args ++ [.call op (.list args)]
  | .list items => nodesOf items ++ [.list items]
  | .tuple items => nodesOf items ++ [.tuple items]
  | v => [v]

/-- The nodes of several terms from left to right. -/
def nodesOf : List Value → List Value
  | [] => []
  | t :: ts => nodes t ++ nodesOf ts

end

/-- What a node stands for if its parts stand for the given values. A call looks up its name, counts
what is given, and runs the operation, which looks at the kinds of what is given. A leaf is a
sequence, a text or a number, or it is no term. -/
def settle : Value → List Value → Except Fault Value
  | .call op _, given => do
    let operation ← Operation.ofName op
    operation.checkArity given
    let text ← operation.run given
    return .fragment text
  | .list _, given | .tuple _, given => .ok (Value.ofList given)
  | .text s, _ => .ok (.text s)
  | .fragment s, _ => .ok (.fragment s)
  | .int n, _ => .ok (.int n)
  | v, _ => if v.isSequence then .ok v else .error (notTerm "evaluate_term" v)

/-- Settles nodes one after the other: each takes as many values from the stack as it has parts,
those of the later parts first, and leaves one. -/
def replay : List Value → List Value → Except Fault (List Value)
  | [], stack => .ok stack
  | node :: rest, stack => do
    let v ← settle node (stack.take (parts node).length).reverse
    replay rest (v :: stack.drop (parts node).length)

/-! ## One node -/

/-- A node finds what its parts stand for on the stack. -/
theorem replay_cons {node : Value} {given : List Value}
    (hgiven : (parts node).length = given.length) (rest stack : List Value) :
    replay (node :: rest) (given.reverse ++ stack) =
      settle node given >>= fun v => replay rest (v :: stack) := by
  have hlength : (parts node).length = given.reverse.length := by
    rw [hgiven, List.length_reverse]
  rw [replay, hlength, List.take_left, List.drop_left, List.reverse_reverse]

/-- What nodes leave on the stack is there for the nodes behind them. -/
theorem replay_append (front back stack : List Value) :
    replay (front ++ back) stack = replay front stack >>= replay back := by
  induction front generalizing stack with
  | nil => rfl
  | cons node front ih =>
    rw [List.cons_append, replay, replay]
    cases settle node (stack.take (parts node).length).reverse with
    | error f => rfl
    | ok v => exact ih _

/-- The nodes of a list of terms that is cut in two. -/
theorem nodesOf_append (front back : List Value) :
    nodesOf (front ++ back) = nodesOf front ++ nodesOf back := by
  induction front with
  | nil => rfl
  | cons t front ih => rw [List.cons_append, nodesOf, nodesOf, ih, List.append_assoc]

/-- A leaf is its only node, it has no parts, and it is settled as it is evaluated. -/
theorem leaf_spec {v : Value} (h : isLeaf v = true) :
    nodes v = [v] ∧ parts v = [] ∧ settle v [] = (evaluate v).result := by
  cases v <;> first | exact ⟨rfl, rfl, rfl⟩ | cases h

/-- A call is settled as it is made. -/
theorem settle_call (op args : Value) (given : List Value) :
    settle (.call op args) given = (Operation.call op given).result.map Value.fragment := by
  rw [Operation.result_call, settle]
  simp only [bind, Except.bind]
  cases Operation.ofName op with
  | error f => rfl
  | ok operation =>
    cases hcount : operation.checkArity given with
    | error f => simp only [hcount, Except.map]
    | ok _ =>
      simp only [hcount]
      cases operation.run given <;> rfl

/-! ## All nodes -/

/-- Settling the nodes of a term is evaluating it: what it stands for is left on the stack, for the
nodes behind them. -/
def IsReplayed (t : Value) : Prop :=
  ∀ rest stack, replay (nodes t ++ rest) stack =
    (evaluate t).result >>= fun v => replay rest (v :: stack)

/-- What each of several terms leaves on the stack lies there together, that of the last one on top.

**Proof sketch.** By induction on the terms: what the first one leaves is on the stack when the
nodes of the others are settled. -/
theorem replay_nodesOf {ts : List Value} (h : ∀ t ∈ ts, IsReplayed t)
    (rest stack : List Value) :
    replay (nodesOf ts ++ rest) stack =
      (evaluateAll ts).result >>= fun vs => replay rest (vs.reverse ++ stack) := by
  induction ts generalizing stack with
  | nil => rfl
  | cons t ts ih =>
    obtain ⟨ht, hts⟩ := List.forall_mem_cons.mp h
    rw [nodesOf, List.append_assoc, ht _ _, result_evaluateAll, List.mapM_cons]
    cases (evaluate t).result with
    | error f => rfl
    | ok v =>
      change replay (nodesOf ts ++ rest) (v :: stack) = _
      rw [ih hts, result_evaluateAll]
      cases ts.mapM fun t => (evaluate t).result with
      | error f => rfl
      | ok vs =>
        change replay rest (vs.reverse ++ v :: stack) = replay rest ((v :: vs).reverse ++ stack)
        rw [List.reverse_cons, List.append_assoc]
        rfl

/-- Several terms can be evaluated if and only if each of them can. -/
theorem evaluateAll_eq_ok_iff {ts vs : List Value} : (evaluateAll ts).result = .ok vs ↔
    List.Forall₂ (fun t v => (evaluate t).result = .ok v) ts vs := by
  rw [result_evaluateAll, mapM_eq_ok_iff]

/-- A node is settled behind its parts.

**Proof sketch.** The parts leave what they stand for on the stack, if all of them can be evaluated,
and there the node finds it. -/
theorem replay_parts {node : Value} (h : ∀ t ∈ parts node, IsReplayed t)
    (rest stack : List Value) :
    replay (nodesOf (parts node) ++ node :: rest) stack =
      ((evaluateAll (parts node)).result >>= settle node) >>=
        fun v => replay rest (v :: stack) := by
  rw [replay_nodesOf h]
  cases hparts : (evaluateAll (parts node)).result with
  | error f => rfl
  | ok given => exact replay_cons (evaluateAll_eq_ok_iff.mp hparts).length_eq rest stack

/-- The evaluation of a node: its parts are evaluated, and then it is settled. -/
theorem evaluate_eq_settle {node : Value} (h : IsTree node) :
    (evaluate node).result = (evaluateAll (parts node)).result >>= settle node := by
  cases h with
  | call op _ =>
    rw [result_evaluate_call]
    exact congrArg (Except.bind _) (funext fun given => (settle_call op _ given).symm)
  | list _ =>
    rw [result_evaluate_list]
    rfl
  | tuple _ =>
    rw [result_evaluate_tuple, result_evaluate_list]
    rfl
  | leaf hleaf =>
    obtain ⟨-, hparts, hsettle⟩ := leaf_spec hleaf
    rw [hparts]
    exact hsettle.symm

/-- The nodes of a term are those of its parts and the term itself. -/
theorem nodes_eq {node : Value} (h : IsTree node) :
    nodes node = nodesOf (parts node) ++ [node] ∧ ∀ t ∈ parts node, IsTree t := by
  cases h with
  | call op h | list h | tuple h => exact ⟨rfl, h⟩
  | leaf hleaf =>
    obtain ⟨hnodes, hparts, -⟩ := leaf_spec hleaf
    rw [hnodes, hparts]
    exact ⟨rfl, by simp⟩

/-- What every node has if its parts have it, every term has. -/
@[elab_as_elim]
theorem IsTree.parts_induction {motive : ∀ t, IsTree t → Prop}
    (node : ∀ {t} (h : IsTree t),
      (∀ part (hpart : part ∈ parts t), motive part ((nodes_eq h).2 part hpart)) → motive t h)
    {t : Value} (h : IsTree t) : motive t h := by
  induction h with
  | call op h ih => exact node (.call op h) ih
  | list h ih => exact node (.list h) ih
  | tuple h ih => exact node (.tuple h) ih
  | leaf h => exact node (.leaf h) (by simp [(leaf_spec h).2.1])

/-- Settling the nodes of a term is evaluating it.

**Proof sketch.** By induction on the term. Its nodes are those of its parts and the term itself. -/
theorem IsTree.replay_nodes {t : Value} (h : IsTree t) : IsReplayed t := by
  induction h using IsTree.parts_induction with
  | node h ih =>
    intro rest stack
    rw [(nodes_eq h).1, List.append_assoc, evaluate_eq_settle h]
    exact replay_parts ih rest stack

/-- A term can be evaluated if and only if its nodes can be settled one after the other. -/
theorem IsTree.evaluate_eq_ok_iff {t v : Value} (h : IsTree t) :
    (evaluate t).result = .ok v ↔ replay (nodes t) [] = .ok [v] := by
  have hreplay := h.replay_nodes [] []
  rw [List.append_nil] at hreplay
  rw [hreplay]
  cases (evaluate t).result with
  | error f => simp [bind, Except.bind]
  | ok w => simp [bind, Except.bind, replay]

/-! ## The first node that fails -/

/-- A node among the given ones cannot be settled when those in front of it have been settled on the
stack, and there are the values of its parts: it fails with the given fault. -/
def FailsFirst (ns stack : List Value) (f : Fault) : Prop :=
  ∃ front node back given below, ns = front ++ node :: back ∧
    replay front stack = .ok (given.reverse ++ below) ∧
    List.Forall₂ (fun part v => (evaluate part).result = .ok v) (parts node) given ∧
    settle node given = .error f

/-- Nodes are settled as far as the first one that fails. -/
theorem FailsFirst.replay_eq {ns stack : List Value} {f : Fault} (h : FailsFirst ns stack f) :
    replay ns stack = .error f := by
  obtain ⟨front, node, back, given, below, rfl, hfront, hgiven, hf⟩ := h
  rw [replay_append, hfront]
  change replay (node :: back) (given.reverse ++ below) = .error f
  rw [replay_cons hgiven.length_eq, hf]
  rfl

/-- The first node that fails may stand behind others, and others may stand behind it. -/
theorem FailsFirst.append {front ns stack stack' : List Value} {f : Fault}
    (hfront : replay front stack = .ok stack') (h : FailsFirst ns stack' f) (back : List Value) :
    FailsFirst (front ++ (ns ++ back)) stack f := by
  obtain ⟨front', node, back', given, below, rfl, hfront', hgiven, hf⟩ := h
  refine ⟨front ++ front', node, back' ++ back, given, below, by simp, ?_, hgiven, hf⟩
  rw [replay_append, hfront]
  exact hfront'

/-- Terms that can be evaluated leave what they stand for on the stack. -/
theorem replay_nodesOf_eq_ok {ts vs : List Value} (hts : ∀ t ∈ ts, IsTree t)
    (h : List.Forall₂ (fun t v => (evaluate t).result = .ok v) ts vs) (stack : List Value) :
    replay (nodesOf ts) stack = .ok (vs.reverse ++ stack) := by
  have hreplay := replay_nodesOf (fun t ht => (hts t ht).replay_nodes) [] stack
  rwa [List.append_nil, evaluateAll_eq_ok_iff.mpr h] at hreplay

/-- In a term that cannot be evaluated a first node fails.

**Proof sketch.** By induction on the term, for all stacks. If a part cannot be evaluated, then in
the first such part a first node fails, and the parts in front of it leave what they stand for on
the stack. Else the node itself fails, behind all its parts. -/
theorem IsTree.failsFirst {t : Value} (h : IsTree t) {f : Fault} : ∀ stack,
    (evaluate t).result = .error f → FailsFirst (nodes t) stack f := by
  induction h using IsTree.parts_induction with
  | @node t h ih =>
    intro stack hf
    obtain ⟨hnodes, htrees⟩ := nodes_eq h
    rw [evaluate_eq_settle h] at hf
    rw [hnodes]
    cases hparts : (evaluateAll (parts t)).result with
    | error f' =>
      rw [hparts] at hf
      obtain rfl : f' = f := Except.error.inj hf
      rw [result_evaluateAll, mapM_eq_error_iff] at hparts
      obtain ⟨front, part, back, vs, heq, hfront, hpart⟩ := hparts
      rw [heq] at ih htrees ⊢
      have hstack := replay_nodesOf_eq_ok (fun u hu => htrees u (by simp [hu])) hfront stack
      rw [nodesOf_append, nodesOf, List.append_assoc, List.append_assoc]
      exact (ih part (by simp) _ hpart).append hstack _
    | ok given =>
      rw [hparts] at hf
      rw [evaluateAll_eq_ok_iff] at hparts
      exact ⟨nodesOf (parts t), t, [], given, stack, rfl,
        replay_nodesOf_eq_ok htrees hparts stack, hparts, hf⟩

/-- A term cannot be evaluated if and only if a first node fails, and then it fails as this node
does. -/
theorem IsTree.evaluate_eq_error_iff {t : Value} (h : IsTree t) {f : Fault} :
    (evaluate t).result = .error f ↔ FailsFirst (nodes t) [] f := by
  refine ⟨h.failsFirst [], fun hf => ?_⟩
  have hreplay := h.replay_nodes [] []
  rw [List.append_nil, hf.replay_eq] at hreplay
  cases hresult : (evaluate t).result with
  | error f' =>
    rw [hresult] at hreplay
    exact congrArg Except.error (Except.error.inj hreplay).symm
  | ok v =>
    rw [hresult] at hreplay
    cases hreplay

end CHeaders.Term
