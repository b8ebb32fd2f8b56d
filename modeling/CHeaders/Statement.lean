import CHeaders.Fragment
import CHeaders.Outcome
import CHeaders.Text.Class
import CHeaders.Value.Arithmetic

/-!
# Statement chains

A *chained opening* expects exactly one statement behind it, and makes one statement together with
it. So openings can be put in front of each other, and the whole stands wherever C takes a single
statement. Each opening is a `for` loop that runs its statement once: a flag says "not run" at
first, the condition holds while it does, and the loop's step flips it.

The flags have fixed names, so that nested openings shadow each other's flags. This is meant, and
each opening is put between pragmas that keep the compiler from warning about it, unless the
caller asks for the bare loop.

## Main definitions

* `CHeaders.Statement.introduceVars`, `CHeaders.Statement.introduceNonNull`,
  `CHeaders.Statement.chainExpr`: the openings.
* `CHeaders.Statement.shadows`: an opening between the pragmas.
* `CHeaders.Statement.chain`: openings and the statement that closes them.
-/

namespace CHeaders.Statement

/-- The flag of an opening that introduces variables. -/
def varsFlag : String := "ml99_priv_break"

/-- The flag of an opening that evaluates an expression. -/
def exprFlag : String := "ml99_priv_expr_stmt_break"

/-- A pragma for the compiler's warnings. -/
def pragma (text : Text) : Text :=
  "_Pragma(\"clang diagnostic " ++ text ++ "\")"

/-- An opening between pragmas that allow it to shadow outer names. -/
def shadows (opening : Text) : Text :=
  pragma "push" ++ " " ++ pragma "ignored \\\"-Wshadow\\\"" ++ " " ++ opening ++ " " ++ pragma "pop"

/-- The opening, between pragmas if asked for. -/
def finish (opening : Text) (suppressShadow : Bool) : Text :=
  if suppressShadow then shadows opening else opening

/-- The text of a value that has to be a text with something in it, without the white space around
it. -/
def requireText (operation expected : String) (v : Value) : Except Fault Text :=
  match v.text? with
  | some t =>
    if Text.isInhabited t then .ok (Text.trim t)
    else .error (.refusal .arity operation expected v)
  | none => .error (.refusal .arity operation expected v)

/-- A loop that runs once: `start` opens it, `condition` holds until `step` is made. -/
def once (start condition step : Text) : Text :=
  "for (" ++ start ++ "; " ++ condition ++ "; " ++ step ++ ")"

/-- The bare loop that introduces variables. -/
def varsLoop (declarations : List Text) : Text :=
  once (Text.join ", " declarations ++ ", *" ++ varsFlag ++ " = (void *)0")
    (varsFlag ++ " != (void *)1") (varsFlag ++ " = (void *)1")

/-- Introduces variables for the next statement. The declarations share one base type. -/
def introduceVars (declarations : List Value) (suppressShadow : Bool) : Except Fault Text := do
  if declarations.isEmpty then
    throw (.refused .arity "introduceVarToStmt" "at least one declaration" (.tuple []))
  let texts ← declarations.mapM (requireText "introduceVarToStmt" "a non-empty declaration")
  return finish (varsLoop texts) suppressShadow

/-- The bare loop that introduces a pointer. -/
def pointerLoop (type name init : Text) : Text :=
  once (type ++ " *" ++ name ++ " = (" ++ init ++ ")") (name ++ " != (void *)0")
    (name ++ " = (void *)0")

/-- Introduces a pointer for the next statement, which is left out when the pointer is null. -/
def introduceNonNull (type name init : Value) (suppressShadow : Bool) : Except Fault Text := do
  let type ← requireText "introduceNonNullPtrToStmt" "a pointee type" type
  let name ← requireText "introduceNonNullPtrToStmt" "a pointer name" name
  let init ← requireText "introduceNonNullPtrToStmt" "an initializer" init
  return finish (pointerLoop type name init) suppressShadow

/-- The bare loop that evaluates an expression. -/
def exprLoop (expr : Text) : Text :=
  once ("int " ++ exprFlag ++ " = ((" ++ expr ++ "), 0)") (exprFlag ++ " != 1") (exprFlag ++ " = 1")

/-- Evaluates an expression before the next statement. -/
def chainExpr (expr : Value) (suppressShadow : Bool) : Except Fault Text := do
  let expr ← requireText "chainExprStmt" "an expression" expr
  return finish (exprLoop expr) suppressShadow

/-- Evaluates an expression to no value before the next statement. The operation is outdated, and
says so whatever it is given. -/
def suppressUnused (expr : Value) (suppressShadow : Bool) : Outcome Text := do
  Outcome.note (.outdated
    "suppress_unused_before_stmt() is deprecated; use chain_expr_stmt('(void)' + expr)")
  let expr ← Outcome.ofExcept (requireText "suppressUnusedBeforeStmt" "an expression" expr)
  Outcome.ofExcept (chainExpr (.text ("(void)" ++ expr)) suppressShadow)

/-- The parts one to a line, each `indent` deeper than the one before; the first is at `depth`. -/
def indented (indent : Value) : (depth : Nat) → List Value → Except Fault (List Text)
  | _, [] => .ok []
  | depth, part :: rest => do
    let margin ← indent.times depth
    let line ← Fault.whenShown [margin, part] (.ok (margin.display ++ part.display))
    let lines ← indented indent (depth + 1) rest
    return line :: lines

/-- Closes openings with their statement, in one line or, if an indentation is given, in one line
for each part. Openings that count as false are left out. -/
def chain (openings statement indent : Value) : Outcome Text := do
  let statement ← Outcome.ofExcept (requireText "chain" "a final statement" statement)
  match openings.items? with
  | none => throw (.notIterable openings.kind)
  | some items =>
    let kept := items.filter Value.isTrue
    Outcome.note (.record
      ⟨"chaining", 10, "chaining " ++ Decimal.ofNat kept.length ++ " prefix(es)"⟩)
    let parts := kept ++ [.text statement]
    if indent.isTrue then
      Outcome.ofExcept ((indented indent 0 parts).map (Text.join "\n"))
    else Outcome.ofExcept ((Fragment.texts 0 parts).map (Text.join " "))

end CHeaders.Statement
