import CHeaders.Traversal
import CHeaders.Wrapper

/-!
# Indexed names

Parameters, fields, initializers and arguments that belong together are named by their place: the
term at place `k` is named `_k`. The empty cases differ, as C wants them: an empty parameter list
is `(void)`, an empty initializer is `{0}`, and empty fields or arguments are no text at all.

## Main definitions

* `CHeaders.Indexed.name`: the name for a place.
* `CHeaders.Indexed.params`, `CHeaders.Indexed.fields`: declarations of the terms of a sequence.
* `CHeaders.Indexed.initializerList`, `CHeaders.Indexed.args`: the first names by their number.

## Main results

* `CHeaders.Indexed.pieces_declarators`: what the traversal of a well formed sequence writes.
-/

namespace CHeaders.Indexed

/-- The name for the place `i`. -/
def name (i : Value) : Text :=
  "_" ++ i.display

/-- The place that is passed on from term to term. -/
def placeOf : List Value → Int
  | [.int i] => i
  | _ => 0

/-- A term in front of the name for its place, and `ending` behind it. -/
def declarator (ending : Text) (term : Value) (i : Int) : Text :=
  term.display ++ " " ++ name (.int i) ++ ending

/-- Writes nothing for the empty sequence. -/
def onNil : Handler :=
  fun _ => .ok (.fragment "")

/-- Writes the declarator of the head, which shows it, and passes on the next place. -/
def onCons (ending : Text) (head _tail : Value) : Handler :=
  fun args =>
    let i := placeOf args
    Fault.whenShown [head]
      (.ok (.step (.fragment (declarator ending head i)) (.tuple [.int (i + 1)])))

/-- The handlers that write a declarator for each term. -/
def declarators (ending : Text) : Handlers :=
  ⟨"Declarators", some onNil, some (onCons ending)⟩

/-- A parameter list with a parameter for each term of a sequence of types. -/
def params (types : Value) : Except Fault Text :=
  if types.isSequence then
    match types with
    | .nil => .ok "(void)"
    | _ => do
      let list ← (traverse types (declarators "") [.int 0] ", " "indexedParams").result
      return "(" ++ list ++ ")"
  else .error (.refusal .typeMismatch "indexedParams" "a Sequence of types" types)

/-- A field for each term of a sequence of types. -/
def fields (types : Value) : Except Fault Text :=
  if types.isSequence then
    (traverse types (declarators ";") [.int 0] " " "indexedFields").result
  else .error (.refusal .typeMismatch "indexedFields" "a Sequence of types" types)

/-- The number that a count is; a truth value is none. There is no list of so many names that their
number has too many digits to be written. -/
def count (operation : String) (n : Value) : Except Fault Nat :=
  match n with
  | .int (.ofNat k) => if n.isWritable then .ok k else .error .tooLong
  | _ => .error (.refusal .typeMismatch operation "a non-negative integer count" n)

/-- The first `n` names with commas between them. -/
def names (n : Nat) : Text :=
  Text.join ", " ((List.range n).map fun (k : Nat) => name (.int k))

/-- An initializer with the first `n` names; with none of them it holds a zero. -/
def initializerList (n : Value) : Except Fault Text := do
  let k ← count "indexedInitializerList" n
  return Wrapper.inBraces (if k = 0 then "0" else names k)

/-- The first `n` names as arguments. -/
def args (n : Value) : Except Fault Text :=
  (count "indexedArgs" n).map names

/-- The declarators of terms whose first has the place `i`. -/
def declaratorsFrom (ending : Text) (i : Int) : List Value → List Text
  | [] => []
  | t :: ts => declarator ending t i :: declaratorsFrom ending (i + 1) ts

/-- The traversal of a well formed sequence writes the declarator of each term, and an empty piece
at the end; it shows all terms. -/
theorem pieces_declarators (operation : String) (ending : Text) (i : Int) (ts : List Value) :
    (pieces operation onNil (onCons ending) [.int i] (Value.ofList ts)).result =
      Fault.whenShown ts
        (.ok ((declaratorsFrom ending i ts).map Value.fragment ++ [.fragment ""])) := by
  induction ts generalizing i with
  | nil => rfl
  | cons t ts ih =>
    have h := Sequence.isSequence_ofList ts
    have ih := ih (i + 1)
    simp only [Value.ofList, List.foldr_cons] at ih h ⊢
    cases ht : t.isWritable with
    | false => simp [pieces, h, onCons, Fault.whenShown, ht]
    | true =>
      cases hts : ts.all Value.isWritable <;>
        simp [pieces, h, onCons, placeOf, Fault.whenShown, ht, hts, Value.items?, ih, Except.map,
          declaratorsFrom]

end CHeaders.Indexed
