import CHeaders.Text.Class
import CHeaders.Term

/-!
# Plans

A plan describes one header as data: a name, the declarations in order, a guard against double
inclusion and the files to include. A declaration is a term with an optional comment. Rendering
evaluates the term of each declaration; either all declarations render, or the first fault is the
fault of the whole.

## Main definitions

* `CHeaders.Plan`: the parts of a plan.
* `CHeaders.Plan.ofValue`: the parts of a value that has to be a plan.
* `CHeaders.Plan.renderDeclaration`, `CHeaders.Plan.renderDeclarations`: declarations as text.
-/

namespace CHeaders

/-- The parts of a plan. They may hold any values until they are used. -/
structure Plan where
  name : Value
  declarations : Value
  guard : Value
  includes : Value
  deriving Inhabited

namespace Plan

/-- The plan as a value. -/
def toValue (p : Plan) : Value :=
  .plan p.name p.declarations p.guard p.includes

/-- The plan with a name and nothing else in it. -/
def empty (name : Value) : Plan :=
  ⟨name, .list [], .none, .list []⟩

/-- The parts of a value that has to be a plan; `part` is the one that is asked for first. -/
def ofValue (part : String) : Value → Except Fault Plan
  | .plan name declarations guard includes => .ok ⟨name, declarations, guard, includes⟩
  | v => .error (.noAttribute v.kind part)

/-- The values that one gets by going through `v`, which has to be possible. -/
def itemsOf (v : Value) : Except Fault (List Value) :=
  match v.items? with
  | some xs => .ok xs
  | none => .error (.notIterable v.kind)

/-- The term and the comment of a value that has to be a declaration. -/
def declarationParts : Value → Except Fault (Value × Value)
  | .declaration term comment => .ok (term, comment)
  | v => .error (.noAttribute v.kind "term")

/-- A text with a semicolon at its end. -/
def terminated (t : Text) : Text :=
  if t.letters.getLast? = some (.char ';') then t else t ++ ";"

/-- The text of a declaration from what its term stands for: the text of that without white space
around it, with a semicolon at its end. -/
def declarationText (term value : Value) : Except Fault Text :=
  if value.isSequence then
    .error (.refusal .plan "render_declaration" "a term rendering to text, not a list" term)
  else do
    let text := Text.trim (← value.written)
    if text.isEmpty then
      throw (.refusal .plan "render_declaration" "a non-empty declaration" term)
    return terminated text

/-- The text of a declaration, whose term is evaluated for it. -/
def renderDeclaration (declaration : Value) : Outcome Text := do
  let (term, _) ← Outcome.ofExcept (declarationParts declaration)
  let value ← Term.evaluate term
  Outcome.ofExcept (declarationText term value)

/-- The texts of declarations of which the first has the place `index`. A refusal is recorded with
its place in the plan called `name`. -/
def renderFrom (name : Value) (index : Nat) : List Value → Outcome (List Text)
  | [] => return []
  | d :: ds => do
    let text ← tryCatch (renderDeclaration d) fun f => do
      if f.isRefusal then
        Outcome.note (.record ⟨"plan", 40,
          "plan " ++ name.literal ++ ": declaration " ++ Decimal.ofNat index ++ " failed"⟩)
      throw f
    let texts ← renderFrom name (index + 1) ds
    return text :: texts

/-- The texts of all declarations of a plan. -/
def renderDeclarations (p : Plan) : Outcome (List Text) := do
  let ds ← Outcome.ofExcept (itemsOf p.declarations)
  let texts ← renderFrom p.name 0 ds
  Outcome.note (.record ⟨"plan", 20,
    "plan " ++ p.name.literal ++ ": rendered " ++ Decimal.ofNat texts.length ++
      " declaration(s)"⟩)
  return texts

end Plan

end CHeaders
