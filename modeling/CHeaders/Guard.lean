import CHeaders.Outcome
import CHeaders.Statement

/-!
# Guards

A chained opening governs the one statement behind it. A *guard* is the same for a block of the
caller's own code: it does something on the way into the block, hands a target to the block, and
is released on every way out. Each guard governs one block in its life.

A guard that introduces variables hands out a *scope*, which holds the variables while the block
runs. A guard for a value that has to be there hands out the value. A guard for an expression
calls something and hands out nothing. Beside these there are guards of the caller's own making,
which are given by what they do on the way in and on the way out.

## Main definitions

* `CHeaders.Guard.Reaction`: what calling something leads to.
* `CHeaders.Guard.Kind`: the kinds of guards, with `CHeaders.Guard.Kind.family` and
  `CHeaders.Guard.Kind.flag`.
* `CHeaders.Guard`: guards, with how far they have come.
* `CHeaders.Guard.introduceVars`, `CHeaders.Guard.introduceNonNull`, `CHeaders.Guard.chainExpr`:
  the guards of the library.
* `CHeaders.Guard.acquire`, `CHeaders.Guard.release`: the way in and the way out.
-/

namespace CHeaders

namespace Guard

/-- A call: the name of what is called, and its arguments by place and by name. -/
structure Call where
  name : String
  args : List Value
  named : List (String × Value)

/-- What calling something leads to: the calls that were made, in order, and the result. -/
structure Reaction (α : Type) where
  calls : List Call
  result : Except Fault α

namespace Reaction

variable {α β : Type}

/-- The reaction that makes no call and returns. -/
def ok (a : α) : Reaction α :=
  ⟨[], .ok a⟩

/-- The reaction that makes no call and fails. -/
def fail (f : Fault) : Reaction α :=
  ⟨[], .error f⟩

/-- First `x`, then `f` on what it returns. -/
def andThen (x : Reaction α) (f : α → Reaction β) : Reaction β :=
  match x.result with
  | .ok a => ⟨x.calls ++ (f a).calls, (f a).result⟩
  | .error e => ⟨x.calls, .error e⟩

/-- The same calls, with another result. -/
def map (f : α → β) (x : Reaction α) : Reaction β :=
  ⟨x.calls, x.result.map f⟩

end Reaction

/-- Whether a value can be called. -/
def isCallable (v : Value) : Bool :=
  match v.bare with
  | .callable .. => true
  | _ => false

/-- Calls a value. -/
def invoke (v : Value) (args : List Value) (named : List (String × Value)) : Reaction Value :=
  match v.bare with
  | .callable _ name answer none => ⟨[⟨name, args, named⟩], .ok answer⟩
  | .callable _ name _ (some text) => ⟨[⟨name, args, named⟩], .error (.raised text)⟩
  | other => .fail (.notCallable other.kind)

/-- The value that an initializer stands for: what it answers, if it can be called, and else
itself. -/
def evaluate (init : Value) : Reaction Value :=
  if isCallable init then invoke init [] [] else .ok init

/-- The values of named initializers, evaluated in order up to the first that fails. -/
def evaluateAll : List (String × Value) → Reaction (List (String × Value))
  | [] => .ok []
  | (name, init) :: rest =>
    (evaluate init).andThen fun v => (evaluateAll rest).map ((name, v) :: ·)

/-- The kinds of guards. -/
inductive Kind where
  /-- Introduces variables with the given initializers. -/
  | vars (inits : List (String × Value))
  /-- Introduces a value that must not be `none`. -/
  | nonNull (init : Value)
  /-- Calls something before the block. -/
  | expr (fn : Value) (args : List Value) (named : List (String × Value))
  /-- Leaves open what to do on the way in. -/
  | blank
  /-- A kind of the caller's own making. -/
  | custom (family : String) (onEntry : Reaction Value) (onExit : Reaction Unit)

namespace Kind

/-- The name of the family of guards. -/
def family : Kind → String
  | vars _ => "IntroduceVars"
  | nonNull _ => "IntroduceNonNull"
  | expr .. => "ChainExpr"
  | blank => "ChainGuard"
  | custom family _ _ => family

/-- The name of the flag with which a guard keeps track of its block. All guards of a kind share
it, so that inner guards shadow outer ones. -/
def flag : Kind → String
  | vars _ => Statement.varsFlag
  | nonNull _ => "ptr"
  | expr .. => Statement.exprFlag
  | blank | custom .. => "chain_guard_break"

end Kind

/-- The variables of a block, in the order in which they were introduced. -/
abbrev Scope := List (String × Value)

/-- A variable with this name takes the place of a scope's own clearing: it is called instead. -/
def Scope.clearing : String := "_clear"

/-- The text of a scope. -/
def Scope.text (s : Scope) : String :=
  "Bindings(" ++ Text.commas (s.map fun e => e.1 ++ "=" ++ e.2.literal) ++ ")"

/-- The names that a scope answers by itself, whatever its variables are called: all of its
variables, its maker, and a place that stays empty. -/
def Scope.own? (s : Scope) (name : String) : Option Value :=
  if name = "__dict__" then some (.dict (s.map fun e => (.text e.1, e.2)))
  else if name = "__class__" then some (.callable 0 "Bindings" .none none)
  else if name = "__weakref__" then some .none
  else none

/-- What any scope answers to a name that none of its variables has: what a scope is, and the part
of the library that makes it. -/
def Scope.shared? (name : String) : Option Value :=
  if name = "__doc__" then
    some (.text ("\n    Variables introduced by introduce_vars().\n\n" ++
      "    Attributes exist only while the governing block runs.\n    "))
  else if name = "__module__" then some (.text "cdeclgen.guards")
  else none

/-- What a scope answers to a name: the value of a variable, as long as the scope holds it, unless
the scope has an answer of its own. -/
def Scope.get (s : Scope) (name : String) : Except Fault Value :=
  match ((s.own? name).or (s.lookup name)).or (Scope.shared? name) with
  | some v => .ok v
  | none => .error (.noAttribute "Bindings" name)

/-- What a guard hands to its block: a value, or the scope of the guard with the given number. -/
inductive Target where
  | value (v : Value)
  | scope (guard : Nat)

end Guard

/-- A guard, and how far it has come. -/
structure Guard where
  kind : Guard.Kind
  /-- The guard has run, or has been released. -/
  done : Bool
  /-- The guard's block is running. -/
  active : Bool
  /-- The value that the guard holds for its block, or `none`. -/
  value : Value
  /-- The guard has still to take back its scope. -/
  attached : Bool
  /-- The variables that the guard's block can see. -/
  scope : Guard.Scope

namespace Guard

/-- A guard of the kind before its block. -/
def ofKind (kind : Kind) : Guard :=
  ⟨kind, false, false, .none, false, []⟩

/-- Whether one of the named values has the name. -/
def isNamed (name : String) (values : List (String × Value)) : Bool :=
  (values.lookup name).isSome

/-- A guard that introduces variables. There has to be one at least, and one name is kept for the
guard itself. -/
def introduceVars (inits : List (String × Value)) : Except Fault Guard :=
  if isNamed "self" inits then .error (.nameTaken "IntroduceVars.__init__" "self")
  else if inits.isEmpty then
    .error (.refused .arity "introduceVars" "at least one variable" (.dict []))
  else .ok (ofKind (.vars inits))

/-- A guard that introduces a value which has to be there. -/
def introduceNonNull (init : Value) : Guard :=
  ofKind (.nonNull init)

/-- A guard that calls something before its block. Two names are kept for the guard itself and for
what it calls. -/
def chainExpr (fn : Value) (args : List Value) (named : List (String × Value)) :
    Except Fault Guard :=
  if isNamed "fn" named then .error (.nameTaken "chain_expr" "fn")
  else if isNamed "self" named then .error (.nameTaken "ChainExpr.__init__" "self")
  else if isCallable fn then .ok (ofKind (.expr fn args named))
  else .error (.refusal .typeMismatch "chainExpr" "a callable" fn)

/-- The way into the block of the guard with the number `self`: the guard with what it holds for
its block, and the target. -/
def acquire (self : Nat) (g : Guard) : Reaction (Guard × Target) :=
  match g.kind with
  | .vars inits =>
    (evaluateAll inits).map fun scope => ({ g with attached := true, scope }, .scope self)
  | .nonNull init =>
    (evaluate init).andThen fun v =>
      if v.isNone then
        .fail (.refused .nullPointer "introduceNonNull" "a non-None initial value" .none)
      else .ok ({ g with value := v }, .value v)
  | .expr fn args named => (invoke fn args named).map fun _ => (g, .value .none)
  | .blank => .fail .unimplemented
  | .custom _ onEntry _ => onEntry.map fun v => (g, .value v)

/-- The way out of the block: the guard without what it held for its block. A scope that cannot be
cleared stays attached. -/
def release (g : Guard) : Reaction Guard :=
  match g.kind with
  | .vars _ =>
    if g.attached then
      match g.scope.lookup Scope.clearing with
      | none => .ok { g with attached := false, scope := [] }
      | some v => (invoke v [] []).map fun _ => { g with attached := false }
    else .ok g
  | .nonNull _ => .ok { g with value := .none }
  | .expr .. | .blank => .ok g
  | .custom _ _ onExit => onExit.map fun _ => g

end Guard

end CHeaders
