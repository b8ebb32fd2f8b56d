import CHeaders.Indexed
import CHeaders.Outcome
import CHeaders.Statement
import CHeaders.Wrapper

/-!
# Operations

Plans reach the generators by name. An operation has a name and a number of arguments, which is
checked before the generator sees them.

## Main definitions

* `CHeaders.Operation`: the generators that have a name.
* `CHeaders.Operation.ofName`: the operation with a name.
* `CHeaders.Operation.checkArity`: whether the number of arguments is right.
* `CHeaders.Operation.run`: what the generator makes of its arguments.
* `CHeaders.Operation.call`: all of this, by name.

## Main results

* `CHeaders.Operation.find?_name`: an operation is found under its name.
-/

namespace CHeaders

/-- A generator that has a name. -/
inductive Operation where
  | braced
  | typedef
  | tagged (keyword : Wrapper.Keyword)
  | anonymous (keyword : Wrapper.Keyword)
  | params
  | fields
  | initializerList
  | args
  | introduceVars
  | introduceNonNull
  | chainExpr
  deriving DecidableEq, Repr

namespace Operation

/-- All operations in the order in which they are listed. -/
def all : List Operation :=
  [.braced, .typedef, .tagged .struct, .anonymous .struct, .tagged .union, .anonymous .union,
    .tagged .enumeration, .anonymous .enumeration, .params, .fields, .initializerList, .args,
    .introduceVars, .introduceNonNull, .chainExpr]

/-- The name of an operation. -/
def name : Operation → String
  | braced => "braced"
  | typedef => "typedef"
  | tagged keyword => keyword.text
  | anonymous keyword => keyword.anonymousOperation
  | params => "indexedParams"
  | fields => "indexedFields"
  | initializerList => "indexedInitializerList"
  | args => "indexedArgs"
  | introduceVars => "introduceVarToStmt"
  | introduceNonNull => "introduceNonNullPtrToStmt"
  | chainExpr => "chainExprStmt"

/-- The number of arguments of an operation; without one, it takes one argument or more. -/
def arity : Operation → Option Nat
  | braced | anonymous _ | params | fields | initializerList | args | chainExpr => some 1
  | typedef | tagged _ => some 2
  | introduceNonNull => some 3
  | introduceVars => none

/-- The operation with the given name. -/
def find? (name : Text) : Option Operation :=
  all.find? fun op => op.name == name

/-- The operation with the given name, which has to be one of the known names. -/
def ofName (name : Value) : Except Fault Operation :=
  match name.text?.bind find? with
  | some op => .ok op
  | none =>
    .error (.refusal .arity "call" ("one of " ++ Text.commas (all.map Operation.name)) name)

/-- The refusal of a wrong number of arguments. -/
def wrongArity (op : Operation) (given : Nat) : Fault :=
  match op.arity with
  | none => .refused .arity op.name "at least 1 argument" (.int given)
  | some n => .refused .arity op.name (Decimal.ofNat n ++ " argument(s)") (.int given)

/-- Whether an operation takes `n` arguments. -/
def takes (op : Operation) (n : Nat) : Bool :=
  match op.arity with
  | none => n != 0
  | some k => n == k

/-- The number of arguments has to be right. -/
def checkArity (op : Operation) (given : List Value) : Except Fault Unit :=
  if op.takes given.length then .ok () else .error (op.wrongArity given.length)

/-- What a generator makes of its arguments. -/
def run : Operation → List Value → Except Fault Text
  | braced, [body] => Wrapper.braced body
  | typedef, [name, body] => Wrapper.typedef name body
  | tagged keyword, [name, body] => Wrapper.tagged keyword name body
  | anonymous keyword, [body] => Wrapper.anonymous keyword body
  | params, [types] => Indexed.params types
  | fields, [types] => Indexed.fields types
  | initializerList, [n] => Indexed.initializerList n
  | args, [n] => Indexed.args n
  | introduceVars, d :: ds => Statement.introduceVars (d :: ds) true
  | introduceNonNull, [type, name, init] => Statement.introduceNonNull type name init true
  | chainExpr, [expr] => Statement.chainExpr expr true
  | op, given => .error (op.wrongArity given.length)

/-- Calls the operation with the given name. The call is recorded once the name and the number of
arguments are right. -/
def call (name : Value) (given : List Value) : Outcome Text := do
  let op ← Outcome.ofExcept (ofName name)
  Outcome.ofExcept (op.checkArity given)
  Outcome.note (.record
    ⟨"registry", 10, "call " ++ op.name ++ "/" ++ Decimal.ofNat given.length⟩)
  Outcome.ofExcept (op.run given)

/-- Every operation is listed. -/
theorem mem_all (op : Operation) : op ∈ all := by
  cases op <;> first | decide | (rename_i keyword; cases keyword <;> decide)

/-- An operation is found under its name. -/
theorem find?_name (op : Operation) : find? op.name = some op := by
  cases op <;> first | decide | (rename_i keyword; cases keyword <;> decide)

end Operation

end CHeaders
