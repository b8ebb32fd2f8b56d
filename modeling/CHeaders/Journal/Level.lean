import CHeaders.Fault

/-!
# Levels

How grave a record is, as a number. Some numbers have a name, and some have two. Whoever asks for a
level may write its name in small letters, and a name that is not known stands for a fixed level.

## Main definitions

* `CHeaders.Level.name`: the name that stands in a line of the journal.
* `CHeaders.Level.ofName?`: the number for a name.
* `CHeaders.Level.capitals`: a name in capital letters.
* `CHeaders.Level.ofText`, `CHeaders.Level.ofValue`: the level that somebody asks for.
* `CHeaders.Level.ofNumber`: the level of a record.

## Main results

* `CHeaders.Level.ofName?_name`: a level with a name is found under it.
-/

namespace CHeaders.Level

/-- The levels that have a name, under their first name. -/
def named : List (String × Int) :=
  [("CRITICAL", 50), ("ERROR", 40), ("WARNING", 30), ("INFO", 20), ("DEBUG", 10), ("NOTSET", 0)]

/-- The second names of levels. -/
def aliases : List (String × Int) :=
  [("FATAL", 50), ("WARN", 30)]

/-- The level for a name. -/
def ofName? (name : String) : Option Int :=
  (named ++ aliases).lookup name

/-- The name of a level as it stands in a line of the journal. -/
def name (level : Int) : String :=
  match named.find? fun e => e.2 == level with
  | some (name, _) => name
  | none => "Level " ++ Decimal.ofInt level

/-- The level that is reported when a name is not known. -/
def warning : Int := 30

/-- The level that leaves the choice to the surroundings. -/
def notSet : Int := 0

/-- The capital form of a letter, which may be two letters. It is given for the letters whose
capital form is made of the ASCII capitals; no name of a level has any other. -/
def capital (c : Char) : List Char :=
  match c with
  | '\u0131' => ['I']
  | '\u017F' => ['S']
  | '\u00DF' => ['S', 'S']
  | '\uFB00' => ['F', 'F']
  | '\uFB01' => ['F', 'I']
  | '\uFB02' => ['F', 'L']
  | '\uFB03' => ['F', 'F', 'I']
  | '\uFB04' => ['F', 'F', 'L']
  | '\uFB05' | '\uFB06' => ['S', 'T']
  | c => [c.toUpper]

/-- A name in capital letters. -/
def capitals (s : String) : String :=
  String.ofList (s.toList.flatMap capital)

/-- The text that stands for a line under the name `BASIC_FORMAT`. -/
def lineForm : String :=
  "%(levelname)s:%(name)s:%(message)s"

/-- The table of the forms of lines that is kept under the name `_STYLES`. -/
def lineForms : String :=
  "\x7b'%': (<class 'logging.PercentStyle'>, '" ++ lineForm ++
    "'), '\x7b': (<class 'logging.StrFormatStyle'>, '\x7blevelname\x7d:\x7bname\x7d:\x7bmessage\x7d'), " ++
    "'$': (<class 'logging.StringTemplateStyle'>, '$\x7blevelname\x7d:$\x7bname\x7d:$\x7bmessage\x7d')\x7d"

/-- The level that a text asks for. Two names are kept for something that is no level, and are
refused. -/
def ofText (s : String) : Except Fault Int :=
  match ofName? (capitals s) with
  | some level => .ok level
  | none =>
    if capitals s = "BASIC_FORMAT" then .error (.unknownLevel lineForm)
    else if capitals s = "_STYLES" then .error (.notLevel lineForms)
    else .ok warning

/-- The level that a value asks for. -/
def ofValue (v : Value) : Except Fault Int :=
  match v with
  | .text t | .fragment t => ofText t.shown
  | .bytes _ => .error (.notName v.kind)
  | v => .error (.noAttribute v.kind "upper")

/-- The level of a record, which has to be a whole number. -/
def ofNumber : Value → Except Fault Int
  | .int n => .ok n
  | .bool b => .ok (if b then 1 else 0)
  | _ => .error .notLevelNumber

/-- A level with a name is found under it. -/
theorem ofName?_name {e : String × Int} (h : e ∈ named) : ofName? (name e.2) = some e.2 := by
  simp only [named, List.mem_cons, List.not_mem_nil, or_false] at h
  rcases h with rfl | rfl | rfl | rfl | rfl | rfl <;> decide

end CHeaders.Level
