import CHeaders.Moment
import CHeaders.Number.Shortest
import CHeaders.Text

/-!
# Values

The generators take loosely typed arguments: text, numbers, lists, sequences of terms and pieces
of declaration plans may stand anywhere, and each generator says which of them it accepts. This
module holds the one type for all of them.

A *sequence* is `nil`, a `cons` cell with a head and a tail, or a member of another family of
sequences. The tail of a cell may be any value; a chain of cells is well formed when it ends in
`nil`. A *fragment* is a piece of generated C text: it is text, and remembers that it was
generated.

## Main definitions

* `CHeaders.Value`: the values.
* `CHeaders.Value.kind`, `CHeaders.Value.fullKind`: the name of a value's kind, for messages.
* `CHeaders.Value.isSequence`, `CHeaders.Value.text?`, `CHeaders.Value.isTrue`: first questions
  about a value.
* `CHeaders.Value.items?`: the values one gets by going through a value.
* `CHeaders.Value.part?`: the named parts of a value.
* `CHeaders.Value.ofList`, `CHeaders.Value.unwind`: chains from lists, and back.
-/

namespace CHeaders

/-- The collections that may hold themselves. -/
inductive Shape where
  | list
  | tuple
  | dict
  deriving DecidableEq, Repr, Inhabited

namespace Shape

/-- The name of the kind of a collection. -/
def kind : Shape → String
  | list => "list"
  | tuple => "tuple"
  | dict => "dict"

/-- What is shown where a collection holds itself. -/
def dots : Shape → String
  | list => "[...]"
  | tuple => "(...)"
  | dict => "\x7b...\x7d"

end Shape

/-- A value. Values that are told apart by their making rather than by their content carry a
serial. -/
inductive Value where
  | none
  | bool (b : Bool)
  | int (n : Int)
  | real (x : Binary64)
  | text (t : Text)
  /-- A piece of generated text. -/
  | fragment (t : Text)
  | bytes (bs : List UInt8)
  | list (items : List Value)
  | tuple (items : List Value)
  | dict (entries : List (Value × Value))
  | set (items : List Value)
  | moment (m : Moment)
  /-- The empty sequence. -/
  | nil
  /-- A cell of a sequence: a term and the rest. -/
  | cons (head tail : Value)
  /-- A sequence of another family, which the traversals do not know. -/
  | foreign (serial : Nat)
  /-- A call of an operation inside a plan. -/
  | call (op args : Value)
  /-- A top-level declaration: a term and an optional comment. -/
  | declaration (term comment : Value)
  /-- A plan of a header. -/
  | plan (name declarations guard includes : Value)
  /-- What a handler returns for a cell: its output and the arguments for the rest. -/
  | step (fragment args : Value)
  /-- A source position: a line, a column if known, a file if known. -/
  | position (line column file : Value)
  /-- The parts of a generated symbol. -/
  | symbolKey (stem id position : Value)
  /-- Something to be called: it answers with a value, or fails with a text. -/
  | callable (serial : Nat) (name : String) (answer : Value) (failure : Option String)
  /-- A value that may stand in more than one place, with a mark that tells which one it is. -/
  | shared (mark : Nat) (value : Value)
  /-- The place where the collection with the mark and the shape holds itself. -/
  | cycle (mark : Nat) (shape : Shape)
  deriving Inhabited

namespace Value

/-- The value without the marks of a document around it. -/
def bare : Value → Value
  | shared _ v => v.bare
  | v => v

/-- The name of a value's kind. -/
def kind : Value → String
  | none => "NoneType"
  | bool _ => "bool"
  | int _ => "int"
  | real _ => "float"
  | text _ => "str"
  | fragment _ => "Fragment"
  | bytes _ => "bytes"
  | list _ => "list"
  | tuple _ => "tuple"
  | dict _ => "dict"
  | set _ => "set"
  | moment m => if m.time.isSome then "datetime" else "date"
  | nil => "Nil"
  | cons _ _ => "Cons"
  | foreign _ => "OtherSeq"
  | call _ _ => "Call"
  | declaration _ _ => "Declaration"
  | plan _ _ _ _ => "Plan"
  | step _ _ => "Step"
  | position _ _ _ => "SourcePosition"
  | symbolKey _ _ _ => "SymbolKey"
  | callable _ _ _ _ => "Fn"
  | shared _ v => v.kind
  | cycle _ shape => shape.kind

/-- The name of a value's kind together with the name of the family it belongs to, if it belongs to
one. -/
def fullKind : Value → String
  | moment m => "datetime." ++ (moment m).kind
  | shared _ v => v.fullKind
  | v => v.kind

/-- Whether the value is a sequence of any family. -/
def isSequence : Value → Bool
  | nil | cons _ _ | foreign _ => true
  | _ => false

/-- Whether the value is `none`. -/
def isNone : Value → Bool
  | none => true
  | _ => false

/-- The letters of a text or a fragment. -/
def text? : Value → Option Text
  | text t | fragment t => some t
  | _ => Option.none

/-- Whether the value counts as true: empty containers and texts, zeros, `none` and `false` do
not. -/
def isTrue : Value → Bool
  | none => false
  | bool b => b
  | int n => n != 0
  | real x => !x.isZero
  | text t | fragment t => !t.isEmpty
  | bytes bs => !bs.isEmpty
  | list xs | tuple xs | set xs => !xs.isEmpty
  | dict es => !es.isEmpty
  | shared _ v => v.isTrue
  | _ => true

/-- The values one gets by going through a value: the items of a container, the keys of a
mapping, the letters of a text, the numbers of a byte string. -/
def items? : Value → Option (List Value)
  | list xs | tuple xs | set xs => some xs
  | dict es => some (es.map Prod.fst)
  | text t | fragment t => some (t.letters.map fun l => text ⟨[l]⟩)
  | bytes bs => some (bs.map fun b => int b.toNat)
  | shared _ v => v.items?
  | _ => Option.none

/-- The chain of the values `xs`. -/
def ofList (xs : List Value) : Value :=
  xs.foldr cons nil

/-- The cells with heads `xs` in front of `tail`. -/
def chain (xs : List Value) (tail : Value) : Value :=
  xs.foldr cons tail

/-- The heads of a chain, and the value that ends it. -/
def unwind : Value → List Value × Value
  | cons h t => (h :: t.unwind.1, t.unwind.2)
  | v => ([], v)

/-- The value of the first entry whose key is the given text. -/
def lookup (key : String) : List (Value × Value) → Option Value
  | [] => Option.none
  | (k, v) :: rest => if k.text? = some (.ofString key) then some v else lookup key rest

/-- The whole number that a number or a truth value is. -/
def whole? : Value → Option Int
  | int n => some n
  | bool b => some (if b then 1 else 0)
  | _ => Option.none

/-- The part of a number that has a name: every number is complex, and a whole one is a fraction. -/
def numberPart? (v : Value) (name : String) : Option Value :=
  match v, v.whole?, name with
  | _, some n, "real" | _, some n, "numerator" => some (int n)
  | _, some _, "imag" => some (int 0)
  | _, some _, "denominator" => some (int 1)
  | real x, _, "real" => some (real x)
  | real _, _, "imag" => some (real Binary64.zero)
  | _, _, _ => Option.none

/-- The part of a value that has a name. -/
def part? : Value → String → Option Value
  | cons head _, "head" => some head
  | cons _ tail, "tail" => some tail
  | call op _, "op" => some op
  | call _ args, "args" => some args
  | declaration term _, "term" => some term
  | declaration _ comment, "comment" => some comment
  | plan name _ _ _, "name" => some name
  | plan _ declarations _ _, "declarations" => some declarations
  | plan _ _ guard _, "include_guard" => some guard
  | plan _ _ _ includes, "includes" => some includes
  | step piece _, "fragment" => some piece
  | step _ args, "args" => some args
  | position line _ _, "line" => some line
  | position _ column _, "column" => some column
  | position _ _ file, "file" => some file
  | symbolKey stem _ _, "prefix" => some stem
  | symbolKey _ id _, "short_id" => some id
  | symbolKey _ _ place, "position" => some place
  | v, name => v.numberPart? name

/-- Unwinding a chain gives back what it was made of, if the end is no cell. -/
theorem unwind_chain (xs : List Value) {tail : Value} (h : tail.unwind = ([], tail)) :
    (chain xs tail).unwind = (xs, tail) := by
  induction xs with
  | nil => exact h
  | cons x xs ih => simp only [chain, List.foldr_cons, unwind] at ih ⊢; rw [ih]

/-- A chain is made of its heads and its end. -/
theorem chain_unwind (v : Value) : chain v.unwind.1 v.unwind.2 = v := by
  fun_induction unwind v with
  | case1 h t ih => simpa [chain] using ih
  | case2 v _ => rfl

end Value

end CHeaders
