import CHeaders.Text.Notation
import CHeaders.Value

/-!
# The text of a value

A value is shown in messages, and inside generated text wherever a generator takes any value.
Text stands for itself on its own and is quoted inside other values. A quoted text is a string, so
every form but that of a text on its own is one. A well formed chain is shown as the list of its
terms; one with another end is shown cell by cell, with that end.

## Main definitions

* `CHeaders.Value.literal`: the form of a value inside other values and in messages.
* `CHeaders.Value.display`: the form of a value inside generated text.

## Main results

* `CHeaders.Value.literal_chain_nil`: the form of a well formed chain.
-/

namespace CHeaders.Value

/-- The form of a chain with the given heads: the end is shown when it is not `nil`. -/
def assemble : List String × Option String → String
  | ([], Option.none) => "nil()"
  | ([], some e) => e
  | (hs, Option.none) => "seq_list(" ++ Text.commas hs ++ ")"
  | (hs, some e) =>
    hs.foldr (fun h rest => "Cons(" ++ h ++ ", " ++ rest) e ++
      String.ofList (List.replicate hs.length ')')

/-- The form of a text that was generated. -/
def fragmentLiteral (t : Text) : String :=
  "Fragment(" ++ Text.quoted t ++ ")"

mutual

/-- The forms of the heads of a chain, and the form of its end unless that is `nil`. A value that
is no cell is the end of a chain without heads. -/
def parts : Value → List String × Option String
  | none => ([], some "None")
  | bool b => ([], some (if b then "True" else "False"))
  | int n => ([], some (Decimal.ofInt n))
  | real x => ([], some (x.text Shortest.plain))
  | text t => ([], some (Text.quoted t))
  | fragment t => ([], some (fragmentLiteral t))
  | bytes bs => ([], some (Text.quotedBytes bs))
  | list xs => ([], some ("[" ++ Text.commas (literals xs) ++ "]"))
  | tuple [x] => ([], some ("(" ++ assemble x.parts ++ ",)"))
  | tuple xs => ([], some ("(" ++ Text.commas (literals xs) ++ ")"))
  | dict es => ([], some ("\x7b" ++ Text.commas (entryLiterals es) ++ "\x7d"))
  | set [] => ([], some "set()")
  | set (x :: xs) => ([], some ("\x7b" ++ Text.commas (assemble x.parts :: literals xs) ++ "\x7d"))
  | moment m => ([], some m.literal)
  | nil => ([], Option.none)
  | cons h t => let (hs, e) := t.parts; (assemble h.parts :: hs, e)
  | foreign _ => ([], some "OtherSeq()")
  | call op args =>
    ([], some ("Call(op=" ++ assemble op.parts ++ ", args=" ++ assemble args.parts ++ ")"))
  | declaration t c =>
    ([], some ("Declaration(term=" ++ assemble t.parts ++ ", comment=" ++ assemble c.parts ++ ")"))
  | plan name ds guard includes =>
    ([], some ("Plan(name=" ++ assemble name.parts ++ ", declarations=" ++ assemble ds.parts ++
      ", include_guard=" ++ assemble guard.parts ++ ", includes=" ++ assemble includes.parts ++
      ")"))
  | step f args =>
    ([], some ("Step(fragment=" ++ assemble f.parts ++ ", args=" ++ assemble args.parts ++ ")"))
  | position l c f =>
    ([], some ("SourcePosition(line=" ++ assemble l.parts ++ ", column=" ++ assemble c.parts ++
      ", file=" ++ assemble f.parts ++ ")"))
  | symbolKey p i pos =>
    ([], some ("SymbolKey(prefix=" ++ assemble p.parts ++ ", short_id=" ++ assemble i.parts ++
      ", position=" ++ assemble pos.parts ++ ")"))
  | callable _ name _ _ => ([], some ("<" ++ name ++ ">"))
  | shared _ v => v.parts
  | cycle _ shape => ([], some shape.dots)

/-- The forms of several values. -/
def literals : List Value → List String
  | [] => []
  | x :: xs => assemble x.parts :: literals xs

/-- The forms of the entries of a mapping. -/
def entryLiterals : List (Value × Value) → List String
  | [] => []
  | (k, v) :: es => (assemble k.parts ++ ": " ++ assemble v.parts) :: entryLiterals es

end

/-- The form of a value inside other values and in messages. -/
def literal (v : Value) : String :=
  assemble v.parts

/-- The form of a value inside generated text: text stands for itself, and a moment is written
out. -/
def display (v : Value) : Text :=
  match v.bare with
  | text t | fragment t => t
  | moment m => m.text
  | w => w.literal

/-- A text stands for itself. -/
theorem display_of_text? {v : Value} {t : Text} (h : v.text? = some t) : v.display = t := by
  cases v <;> cases h <;> rfl

/-- The forms of several values are their forms one by one. -/
theorem literals_eq_map (xs : List Value) : literals xs = xs.map literal := by
  induction xs with
  | nil => rfl
  | cons x xs ih => simp [literals, literal, ih]

/-- The parts of a well formed chain are the forms of its terms. -/
theorem parts_ofList (xs : List Value) :
    (ofList xs).parts = (xs.map literal, Option.none) := by
  induction xs with
  | nil => rfl
  | cons x xs ih => simp only [ofList, List.foldr_cons, parts] at ih ⊢; rw [ih]; rfl

/-- A well formed chain is shown as the list of its terms. -/
theorem literal_chain_nil (x : Value) (xs : List Value) :
    (ofList (x :: xs)).literal = "seq_list(" ++ Text.commas ((x :: xs).map literal) ++ ")" := by
  rw [literal, parts_ofList]; rfl

end CHeaders.Value
