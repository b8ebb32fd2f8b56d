import CHeaders.Plan
import CHeaders.Text.Class

/-!
# Headers

A header is the text of a plan: a banner with the plan's name, the guard, the files to include,
the declarations with their comments, and the end of the guard. Comments cannot close themselves:
what would end them is taken apart, and line ends become spaces.

## Main definitions

* `CHeaders.Header`: the checked parts of a header.
* `CHeaders.Header.text`: the text of a header.
* `CHeaders.Plan.header`: the text for a plan.
* `CHeaders.Plan.save`: the same, with a record of the file it goes to.
-/

namespace CHeaders

/-- The checked parts of a header: the declarations are texts with an optional comment above. -/
structure Header where
  name : Text
  guard : Option Text
  includes : List Text
  declarations : List (Option Text × Text)
  deriving DecidableEq, Repr

namespace Header

/-- The letters of a comment without an end of the comment and without line feeds. -/
def escapeLetters : List Letter → List Letter
  | [] => []
  | .char '*' :: .char '/' :: rest => .char '*' :: .char ' ' :: .char '/' :: escapeLetters rest
  | .char '\n' :: rest => .char ' ' :: escapeLetters rest
  | l :: rest => l :: escapeLetters rest

/-- The text of a comment without an end of the comment and without line feeds. -/
def escape (t : Text) : Text :=
  ⟨escapeLetters t.letters⟩

/-- A line with a comment. -/
def commentLine (t : Text) : Text :=
  "/* " ++ escape t ++ " */"

/-- A line that includes a file, which stands between angle brackets unless it brings quotes or
brackets of its own. -/
def includeLine (file : Text) : Text :=
  match file.letters with
  | .char '"' :: _ | .char '<' :: _ => "#include " ++ file
  | _ => "#include <" ++ file ++ ">"

/-- The lines of a declaration: its comment, its text and an empty line. -/
def declarationLines : Option Text × Text → List Text
  | (none, text) => [text, ""]
  | (some comment, text) => [commentLine comment, text, ""]

/-- The lines without the empty ones at the end. -/
def dropEmptyEnd (lines : List Text) : List Text :=
  (lines.reverse.dropWhile Text.isEmpty).reverse

/-- The lines between the guards: the included files and the declarations. -/
def bodyLines (h : Header) : List Text :=
  (if h.includes.isEmpty then [] else h.includes.map includeLine ++ [("" : Text)]) ++
    h.declarations.flatMap declarationLines

/-- The lines of a header. -/
def lines (h : Header) : List Text :=
  let banner := commentLine ("generated by cdeclgen: " ++ h.name)
  match h.guard with
  | none => dropEmptyEnd (banner :: "" :: h.bodyLines)
  | some guard =>
    banner :: ("#ifndef " ++ guard) :: ("#define " ++ guard) :: "" ::
      (h.bodyLines ++ ["#endif /* " ++ guard ++ " */"])

/-- The text of a header. -/
def text (h : Header) : Text :=
  Text.join "\n" h.lines ++ "\n"

end Header

namespace Plan

/-- The name of the macro that guards the header, if there is one. -/
def checkGuard (guard : Value) : Except Fault (Option Text) :=
  match guard, guard.text? with
  | .none, _ => .ok none
  | _, some t =>
    if Text.isIdentifier t then .ok (some t)
    else .error (.refusal .plan "generate_header" "an include guard macro name" guard)
  | _, none => .error (.refusal .plan "generate_header" "an include guard macro name" guard)

/-- The name of a file to include. -/
def checkInclude (file : Value) : Except Fault Text :=
  match file.text? with
  | some t =>
    if Text.isInhabited t then .ok t
    else .error (.refusal .plan "generate_header" "a header name" file)
  | none => .error (.refusal .plan "generate_header" "a header name" file)

/-- The text of a value that stands in a comment. It has to be a text. -/
def commentText (v : Value) : Except Fault Text :=
  match v.bare with
  | .text t | .fragment t => .ok t
  | .bytes _ => .error .notBytes
  | .moment _ => .error (.notWholeNumber "str")
  | w => .error (.noAttribute w.kind "replace")

/-- The comment of a declaration, if it counts as one. -/
def commentOf (declaration : Value) : Except Fault (Option Text) := do
  let (_, comment) ← declarationParts declaration
  if comment.isTrue then return some (← commentText comment) else return none

/-- The checked parts of the header for a plan. The guard and the included files are judged before
the declarations are rendered, the name and the comments after that. -/
def toHeader (p : Plan) : Outcome Header := do
  let guard ← Outcome.ofExcept (checkGuard p.guard)
  let files ← Outcome.ofExcept (itemsOf p.includes)
  let includes ← Outcome.ofExcept (files.mapM checkInclude)
  let texts ← renderDeclarations p
  let name ← Outcome.ofExcept (commentText p.name)
  let ds ← Outcome.ofExcept (itemsOf p.declarations)
  let comments ← Outcome.ofExcept (ds.mapM commentOf)
  return ⟨name, guard, includes, comments.zip texts⟩

/-- The text of the header for a plan. -/
def header (p : Plan) : Outcome Text := do
  return (← p.toHeader).text

/-- The text that goes to a file. It is made in full before the file is touched. A text that has no
bytes leaves an empty file behind. -/
def save (p : Plan) (file : String) : Outcome Text := do
  let h ← p.toHeader
  if let some gap := Text.Utf8.gap? h.text then throw (.notEncodable gap)
  Outcome.note (.record ⟨"backends.header_generator", 20,
    "wrote " ++ file ++ " (" ++ Decimal.ofNat h.declarations.length ++ " declaration(s))"⟩)
  return h.text

end Plan

end CHeaders
