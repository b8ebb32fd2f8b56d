import CHeaders.Plan.Example
import CHeaders.Plan.Header
import CHeaders.Plan.Storage
import CHeaders.Statement

/-!
# A demonstration

Shows the example with three coordinates as it is stored and as a header, saves the header, and
shows a chain of statements.

## Main definitions

* `CHeaders.Demo`: what the demonstration prints, and the file that it writes.
* `CHeaders.Demo.run`: the demonstration.
-/

namespace CHeaders

/-- What the demonstration prints, and the name and the text of the file that it writes. -/
structure Demo where
  printed : Text
  file : String
  header : Text

namespace Demo

/-- A line across the page. -/
def rule (c : Char) : Text :=
  Text.ofChars (List.replicate 80 c)

/-- A part of the page: its title and what stands below it. -/
def titled (title : Text) (body : List Text) : List Text :=
  title :: rule '-' :: body

/-- The chain of statements that is shown. -/
def statement : Outcome Text := do
  let vars ← Outcome.ofExcept
    (Statement.introduceVars [.text "double x = 5.0", .text "y = 7.0"] false)
  let pointer ← Outcome.ofExcept
    (Statement.introduceNonNull (.text "double") (.text "x_ptr") (.text "&x") false)
  let expr ← Outcome.ofExcept
    (Statement.chainExpr (.text "printf(\"%f\\n\", *x_ptr)") false)
  Statement.chain (.list [.fragment vars, .fragment pointer, .fragment expr])
    (.text "puts(\"done\");") (.text "    ")

/-- The lines of a text, each behind a margin. -/
def behindMargin (t : Text) : List Text :=
  (Text.split (.char '\n') t.letters).map fun line => "    " ++ Text.mk line

/-- The demonstration. -/
def run : Outcome Demo := do
  let plan ← Outcome.ofExcept (Plan.geometry (.int 3))
  let stored ← Outcome.ofExcept plan.toYaml
  let shown ← plan.header
  let file := plan.name.display.shown ++ ".h"
  let header ← plan.save file
  let chain ← statement
  let lines :=
    [rule '=', "HEADER GENERATOR DEMO", rule '=', ""] ++
      titled "PLAN (YAML):" [stored] ++
      titled "HEADER:" [shown, "Saved to: " ++ file, ""] ++
      titled "STATEMENT CHAIN:" ("for (int i = 0; i < 10; i++)" :: behindMargin chain) ++
      [rule '=', ""]
  return ⟨Text.join "\n" lines, file, header⟩

end Demo

end CHeaders
