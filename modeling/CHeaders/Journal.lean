import CHeaders.Journal.Level
import CHeaders.Outcome

/-!
# The journal

The library writes down what it does as records, and whoever runs it says where they go: to the
console, and to a file if one is named. A record is written when it is grave enough for the journal
and for the place it goes to. Before anything has been said, only grave records are shown, and
without ornament.

Every part of the library writes to a journal of its own, whose name lies below that of the
library.

## Main definitions

* `CHeaders.Journal.root`: the name of the library's journal.
* `CHeaders.Journal.fullName`: the full name for the name of a part.
* `CHeaders.Journal.nameOf`: the same for any value.
* `CHeaders.Journal`: what is written where, and what the files hold.
* `CHeaders.Journal.configure`: says what is to be written where.
* `CHeaders.Journal.write`, `CHeaders.Journal.writeAll`: write records.

## Main results

* `CHeaders.Journal.fullName_fullName`: a full name stays as it is.
-/

namespace CHeaders

namespace Journal

/-! ## Names -/

/-- The name of the journal of the whole library. -/
def root : String := "cdeclgen"

/-- What the names below the root begin with. -/
def below : Text := root ++ "."

/-- Whether a name is the root's or lies below it. -/
def isFull (name : Text) : Bool :=
  name == root || below.letters.isPrefixOf name.letters

/-- The full name for the name of a part, which may be full already. -/
def fullName (name : Text) : Text :=
  if isFull name then name else below ++ name

/-- The parts of the library that write records. -/
def parts : List String :=
  ["backends.header_generator", "chaining", "guards", "plan", "registry"]

/-- Whether a full name is the root's or that of a part of the library. -/
def isKnown (name : Text) : Bool :=
  name == root || parts.any fun part => fullName part == name

/-- The full name for a value, which has to be a text. A full name that nobody else has is kept as
it was given. -/
def nameOf (v : Value) : Except Fault Value :=
  match v with
  | .text t => .ok (.text (fullName t))
  | .fragment t => .ok (if isFull t && !isKnown t then v else .text (fullName t))
  | .bytes _ => .error .notByteBeginning
  | _ => .error (.noAttribute v.kind "startswith")

/-- Full names lie below the root. -/
theorem isFull_fullName (name : Text) : isFull (fullName name) := by
  unfold fullName
  split
  · assumption
  · simp [isFull]

/-- A full name stays as it is. -/
theorem fullName_fullName (name : Text) : fullName (fullName name) = fullName name := by
  rw [fullName, if_pos (isFull_fullName name)]

/-! ## Places for lines -/

/-- Where lines go. -/
inductive Sink where
  | console
  | file (name : String)
  deriving DecidableEq, Repr

/-- A place for lines, and how grave a record has to be to go there. -/
structure Handler where
  sink : Sink
  level : Int
  deriving DecidableEq, Repr

/-- The texts of files by name. -/
abbrev Files := List (String × Text)

namespace Files

/-- What a file holds. -/
def text (files : Files) (name : String) : Text :=
  (files.lookup name).getD ""

/-- Writes a text at the end of a file, which may be new. -/
def append (files : Files) (name : String) (text : Text) : Files :=
  match files with
  | [] => [(name, text)]
  | (n, t) :: rest => if n = name then (n, t ++ text) :: rest else (n, t) :: append rest name text

end Files

end Journal

/-- What is written where, and what the files hold so far. -/
structure Journal where
  level : Int
  handlers : List Journal.Handler
  files : Journal.Files
  deriving DecidableEq, Repr

namespace Journal

/-- The journal about which nothing has been said. -/
def unset : Journal :=
  ⟨Level.notSet, [], []⟩

/-- How grave a record has to be to be written at all. -/
def threshold (j : Journal) : Int :=
  if j.level = Level.notSet then Level.warning else j.level

/-- The name of a level in the surroundings, under which the level is looked for that has not been
asked for. -/
def variableName : String := "CDECLGEN_LOG_LEVEL"

/-- The level that counts: the one asked for, else the one of the surroundings, else a fixed
one. -/
def chosenLevel (level : Value) (surroundings : Option String) : Except Fault Int :=
  if level.isNone then Level.ofText (surroundings.getD "WARNING") else Level.ofValue level

/-- The handlers for a level and the name of a file, which counts when it is not empty. -/
def handlersFor (level : Int) (file : Option String) : List Handler :=
  let name := file.getD ""
  ⟨.console, level⟩ :: if name.isEmpty then [] else [⟨.file name, level⟩]

/-- Opens the files of the handlers; what they hold stays. -/
def opened (files : Files) (handlers : List Handler) : Files :=
  handlers.foldl (fun files h =>
    match h.sink with
    | .console => files
    | .file name => files.append name "") files

/-- Says what is to be written where. A level that is refused leaves everything as it is. -/
def configure (j : Journal) (level : Value) (surroundings file : Option String) :
    Except Fault Journal :=
  (chosenLevel level surroundings).map fun n =>
    ⟨n, handlersFor n file, opened j.files (handlersFor n file)⟩

/-- A line of the journal. -/
def line (time : String) (name : Text) (level : Int) (text : Text) : Text :=
  time ++ " - " ++ name ++ " - " ++ Level.name level ++ " - " ++ text ++ "\n"

/-- Writes one line through handlers: what appears on the console, and the files. -/
def emit (level : Int) (line : Text) (files : Files) : List Handler → Text × Files
  | [] => ("", files)
  | h :: rest =>
    if level < h.level then emit level line files rest
    else
      match h.sink with
      | .console => (line ++ (emit level line files rest).1, (emit level line files rest).2)
      | .file name => emit level line (files.append name line) rest

/-- Writes a record of the part with the name: what appears on the console, and the journal. Where
nothing has been said about handlers, the bare text of a grave record appears. -/
def write (j : Journal) (time : String) (name : Text) (level : Int) (text : Text) :
    Text × Journal :=
  if level < j.threshold then ("", j)
  else if j.handlers.isEmpty then
    (if level < Level.warning then "" else text ++ "\n", j)
  else
    let (shown, files) := emit level (line time (fullName name) level text) j.files j.handlers
    (shown, { j with files })

/-- Writes records, in order. -/
def writeAll (j : Journal) (time : String) : List Record → Text × Journal
  | [] => ("", j)
  | r :: rest =>
    let (shown, j) := j.write time r.source r.level r.text
    let (more, j) := writeAll j time rest
    (shown ++ more, j)

end Journal

end CHeaders
