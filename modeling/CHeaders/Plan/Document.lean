import CHeaders.Plan
import CHeaders.Value.Order

/-!
# Plans as documents

Plans are kept as documents, trees of mappings, lists and scalars. A call becomes a mapping with
the entries `op` and `args`, a sequence or a tuple becomes a list, and texts and whole numbers
stand for themselves. Reading checks the shape of a document and refuses what no plan looks like.

## Main definitions

* `CHeaders.Term.toDocument`, `CHeaders.Term.ofDocument`: terms.
* `CHeaders.Plan.toDocument`, `CHeaders.Plan.ofDocument`: whole plans.
* `CHeaders.Plan.declarationToDocument`, `CHeaders.Plan.declarationOfDocument`: declarations.

## Main results

* `CHeaders.Term.toDocuments_eq_mapM`, `CHeaders.Term.ofDocuments_eq_mapM`: lists are written and
  read item by item.
-/

namespace CHeaders

/-- A mapping whose keys are texts. -/
def Value.record (entries : List (String × Value)) : Value :=
  .dict (entries.map fun e => (.text e.1, e.2))

namespace Term

/-- The document of a call. -/
def callDocument (op : Value) (args : List Value) : Value :=
  .record [("op", op), ("args", .list args)]

mutual

/-- The document of a term. A sequence has to be well formed before its terms are looked at. -/
def toDocument : Value → Except Fault Value
  | .call op (.list args) => do return callDocument op (← toDocuments args)
  | .call op (.tuple args) => do return callDocument op (← toDocuments args)
  | .call op (.set args) => do return callDocument op (← toDocuments args)
  | .call op (.dict entries) => do return callDocument op (← keysToDocuments entries)
  | .call op args =>
    match args.items? with
    | some items => .ok (callDocument op items)
    | none => .error (.notIterable args.kind)
  | .nil => .ok (.list [])
  | .cons head tail => do
    let _ ← Sequence.toList (.cons head tail)
    let first ← toDocument head
    let rest ← chainToDocuments tail
    return .list (first :: rest)
  | .foreign _ => .ok (.list [])
  | .list items | .tuple items => do return .list (← toDocuments items)
  | .text s => .ok (.text s)
  | .fragment s => .ok (.fragment s)
  | .int n => .ok (.int n)
  | v => .error (notTerm "term_to_dict" v)

/-- The documents of the terms of a list. -/
def toDocuments : List Value → Except Fault (List Value)
  | [] => .ok []
  | t :: ts => do
    let d ← toDocument t
    let ds ← toDocuments ts
    return d :: ds

/-- The documents of the keys of a mapping. -/
def keysToDocuments : List (Value × Value) → Except Fault (List Value)
  | [] => .ok []
  | (k, _) :: es => do
    let d ← toDocument k
    let ds ← keysToDocuments es
    return d :: ds

/-- The documents of the terms of a chain. -/
def chainToDocuments : Value → Except Fault (List Value)
  | .cons head tail => do
    let d ← toDocument head
    let ds ← chainToDocuments tail
    return d :: ds
  | _ => .ok []

end

/-- The refusal of a mapping without an operation. -/
def noOperation (d : Value) : Fault :=
  .refused .plan "term_from_dict" "a call with an 'op' key" d

/-- The operation that a mapping `d` with the given entries names. -/
def operationOf (d : Value) (entries : List (Value × Value)) : Except Fault Value :=
  match Value.lookup "op" entries with
  | none => .error (noOperation d)
  | some op =>
    if op.text?.isSome then .ok op
    else .error (.refused .plan "term_from_dict" "an operation name string" op)

mutual

/-- The term of a document, which a refusal shows as `shown`. -/
def ofShown (shown : Value) : Value → Except Fault Value
  | .dict entries => do
    let op ← operationOf shown entries
    let args ← argsOf entries
    return .call op (.list args)
  | .list items => do return .list (← ofDocuments items)
  | .text s => .ok (.text s)
  | .fragment s => .ok (.fragment s)
  | .int n => .ok (.int n)
  | .shared _ v => ofShown shown v
  | _ => .error (.refused .plan "term_from_dict" "a call, list, string or int" shown)

/-- The terms of the documents of a list. -/
def ofDocuments : List Value → Except Fault (List Value)
  | [] => .ok []
  | d :: ds => do
    let t ← ofShown d d
    let ts ← ofDocuments ds
    return t :: ts

/-- The arguments in the entries of a mapping; there are none if nothing is said about them. -/
def argsOf : List (Value × Value) → Except Fault (List Value)
  | [] => .ok []
  | (k, v) :: es =>
    if k.text? = some (.ofString "args") then argsIn v v else argsOf es

/-- The arguments in a document that has to be a list, which a refusal shows as `shown`. -/
def argsIn (shown : Value) : Value → Except Fault (List Value)
  | .list items => ofDocuments items
  | .shared _ v => argsIn shown v
  | _ => .error (.refused .plan "term_from_dict" "a list of args" shown)

end

/-- The term of a document. -/
def ofDocument (d : Value) : Except Fault Value :=
  ofShown d d

/-- The documents of a list are the documents of its items. -/
theorem toDocuments_eq_mapM (ts : List Value) : toDocuments ts = ts.mapM toDocument := by
  induction ts with
  | nil => simp [toDocuments, pure, Except.pure]
  | cons t ts ih => simp [toDocuments, ih, List.mapM_cons]

/-- The terms of a list of documents are the terms of its items. -/
theorem ofDocuments_eq_mapM (ds : List Value) : ofDocuments ds = ds.mapM ofDocument := by
  induction ds with
  | nil => simp [ofDocuments, pure, Except.pure]
  | cons d ds ih => rw [ofDocuments, ih, List.mapM_cons]; rfl

end Term

namespace Plan

/-- The document of a declaration. -/
def declarationToDocument (declaration : Value) : Except Fault Value := do
  let (term, comment) ← declarationParts declaration
  let term ← Term.toDocument term
  return .record [("term", term), ("comment", comment)]

/-- The declaration of a document. -/
def declarationOfDocument (d : Value) : Except Fault Value :=
  match d.bare with
  | .dict entries =>
    match Value.lookup "term" entries with
    | some term => do
      let whole := term.within d
      let term ← (Term.ofDocument whole).mapError (·.within whole)
      let comment := (Value.lookup "comment" entries).getD .none
      return .declaration term (comment.within d)
    | none => .error refusal
  | _ => .error refusal
where
  /-- The refusal of a document without a term. -/
  refusal : Fault :=
    .refused .plan "declaration_from_dict" "a mapping with a 'term' key" d

/-- The document of a plan. -/
def toDocument (p : Plan) : Except Fault Value := do
  let includes ← itemsOf p.includes
  let ds ← itemsOf p.declarations
  let declarations ← ds.mapM declarationToDocument
  return .record [("name", p.name), ("include_guard", p.guard), ("includes", .list includes),
    ("declarations", .list declarations)]

/-- An entry of the mapping `d`, or `none` if it is missing. -/
def entry (key : String) (d : Value) (entries : List (Value × Value)) : Value :=
  ((Value.lookup key entries).getD .none).within d

/-- A guard, which has to be a text or missing. -/
def guardOf (guard : Value) : Except Fault Value :=
  if guard.isNone || guard.text?.isSome then .ok guard
  else .error (.refused .plan "plan_from_dict" "an include guard string or null" guard)

/-- A list, for which anything that counts as false may stand. -/
def listOf (expected : String) (allowed : Value → Bool) (v : Value) : Except Fault (List Value) :=
  if v.isTrue then
    match v.bare with
    | .list items =>
      if items.all allowed then .ok (items.map (·.within v))
      else .error (.refused .plan "plan_from_dict" expected v)
    | _ => .error (.refused .plan "plan_from_dict" expected v)
  else .ok []

/-- The text of a name, which is any value that can be written. -/
def nameOf (name : Value) : Except Fault Text :=
  name.written

/-- The plan of a document, or a refusal that has not been worded yet. -/
def readDocument (d : Value) : Except Fault Plan :=
  match d.bare with
  | .dict entries =>
    match Value.lookup "name" entries with
    | none => do
      let keys ← Value.sortBy id (entries.map Prod.fst)
      throw (.refused .plan "plan_from_dict" "a 'name' key" (.list keys))
    | some name => do
      let name ← nameOf (name.within d)
      let guard ← guardOf (entry "include_guard" d entries)
      let includes ← listOf "a list of header names" (fun v => v.text?.isSome)
        (entry "includes" d entries)
      let items ← listOf "a list of declarations" (fun _ => true)
        (entry "declarations" d entries)
      let declarations ← items.mapM declarationOfDocument
      return ⟨.text name, .list declarations, guard, .list includes⟩
  | _ => .error (.refused .plan "plan_from_dict" "a mapping" d)

/-- The plan of a document. -/
def ofDocument (d : Value) : Except Fault Plan :=
  Fault.whenShown [] (readDocument d)

end Plan

end CHeaders
