import CHeaders.Fragment
import CHeaders.Sequence

/-!
# Traversals

A handler set says what to do with each kind of sequence: one handler takes the empty sequence,
one takes a cell. Both take extra arguments. A *dispatch* routes a sequence to the handler for it.
A *traversal* goes through a whole chain: the handler for cells returns a step, which is the
output for the head and the extra arguments for the rest; the handler for the empty sequence gives
the last piece of output.

Handlers have no effect on each other but through the arguments they pass on. The calls made to
them are part of the outcome, so that it can be said which calls a fault cuts off.

## Main definitions

* `CHeaders.Handlers`: handler sets, in which either handler may be missing.
* `CHeaders.Traced`: a result together with the calls made to handlers.
* `CHeaders.dispatch`: one routing step.
* `CHeaders.traverse`: the joined output of a whole sequence.
-/

namespace CHeaders

/-- A handler: what it returns for its extra arguments. -/
abbrev Handler := List Value → Except Fault Value

/-- A handler set of the given family. A handler for a cell takes its head and its tail before the
extra arguments. -/
structure Handlers where
  family : String
  onNil : Option Handler
  onCons : Option (Value → Value → Handler)

/-- A call made to a handler. -/
inductive HandlerCall where
  | onNil (args : List Value)
  | onCons (head tail : Value) (args : List Value)

/-- A result together with the calls made to handlers on the way, in order. -/
structure Traced (α : Type) where
  calls : List HandlerCall
  result : Except Fault α

namespace Traced

/-- A fault without any call. -/
def fail {α : Type} (f : Fault) : Traced α :=
  ⟨[], .error f⟩

/-- The same calls, with another result. -/
def map {α β : Type} (f : α → β) (t : Traced α) : Traced β :=
  ⟨t.calls, t.result.map f⟩

end Traced

/-- The refusal of a handler set without one of the two handlers. -/
def missingHandler (operation variant family : String) : Fault :=
  .refused .arity operation ("a '" ++ variant ++ "' handler") (.text family)

/-- The two handlers of a set that has both. The handler for the empty sequence is looked for
first. -/
def Handlers.resolve (h : Handlers) (operation : String) :
    Except Fault (Handler × (Value → Value → Handler)) :=
  match h.onNil, h.onCons with
  | none, _ => .error (missingHandler operation "nil" h.family)
  | some _, none => .error (missingHandler operation "cons" h.family)
  | some onNil, some onCons => .ok (onNil, onCons)

/-- Routes a sequence to the handler for it. -/
def dispatch (v : Value) (h : Handlers) (args : List Value) : Traced Value :=
  match h.resolve "dispatch" with
  | .error f => .fail f
  | .ok (onNil, onCons) =>
    match v with
    | .nil => ⟨[.onNil args], onNil args⟩
    | .cons head tail =>
      if tail.isSequence then ⟨[.onCons head tail args], onCons head tail args⟩
      else .fail (Sequence.malformed "dispatch" tail)
    | _ => .fail (Sequence.mismatch "dispatch" v)

/-- The pieces of output for a sequence, in order. A cell whose tail is no sequence is refused in
the name of the routing step. -/
def pieces (operation : String) (onNil : Handler) (onCons : Value → Value → Handler) :
    List Value → Value → Traced (List Value)
  | args, .cons head tail =>
    if tail.isSequence then
      let called := HandlerCall.onCons head tail args
      match onCons head tail args with
      | .error f => ⟨[called], .error f⟩
      | .ok (.step piece next) =>
        match next.items? with
        | none => ⟨[called], .error (.notIterable next.kind)⟩
        | some args' =>
          let rest := pieces operation onNil onCons args' tail
          ⟨called :: rest.calls, rest.result.map (piece :: ·)⟩
      | .ok other =>
        ⟨[called],
          .error (.refusal .typeMismatch operation "cons handler returning a Step" other)⟩
    else .fail (Sequence.malformed "dispatch" tail)
  | args, .nil => ⟨[.onNil args], (onNil args).map ([·])⟩
  | _, v => .fail (Sequence.mismatch operation v)

/-- Goes through a sequence and joins the pieces of output that are not empty. -/
def traverse (v : Value) (h : Handlers) (args : List Value) (separator : Text)
    (operation : String) : Traced Text :=
  if v.isSequence then
    match h.resolve operation with
    | .error f => .fail f
    | .ok (onNil, onCons) =>
      let out := pieces operation onNil onCons args v
      ⟨out.calls, out.result.bind (Fragment.join separator)⟩
  else .fail (Sequence.mismatch operation v)

end CHeaders
