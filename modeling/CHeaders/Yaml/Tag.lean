import CHeaders.Text.Notation
import CHeaders.Yaml.Timestamp

/-!
# Tags

A tag tells what a node of a document stands for. A plain text without a tag gets one from its
spelling: texts that look like truth values, numbers, timestamps or nothing at all are taken for
such.

## Main definitions

* `CHeaders.Yaml.Tag`: the tags of the language, and all others by their name.
* `CHeaders.Yaml.Tag.ofName`, `CHeaders.Yaml.Tag.short`: full names and short forms.
* `CHeaders.Yaml.Tag.ofPlain`: the tag of a plain text.

## Main results

* `CHeaders.Yaml.Tag.ofName_name`: a tag is found under its name.
-/

namespace CHeaders.Yaml

/-- What a node stands for. -/
inductive Tag where
  | null
  | bool
  | int
  | float
  | binary
  | timestamp
  | omap
  | pairs
  | set
  | str
  | seq
  | map
  /-- The key that brings in the entries of another mapping. -/
  | merge
  /-- The key for the value that stands for a whole mapping. -/
  | value
  /-- A character of the language on its own. -/
  | yaml
  | other (name : String)
  deriving DecidableEq, Repr

namespace Tag

/-- What the full names of the tags of the language begin with. -/
def home : String := "tag:yaml.org,2002:"

/-- The tags of the language with the last part of their names. -/
def known : List (Tag × String) :=
  [(null, "null"), (bool, "bool"), (int, "int"), (float, "float"), (binary, "binary"),
    (timestamp, "timestamp"), (omap, "omap"), (pairs, "pairs"), (set, "set"), (str, "str"),
    (seq, "seq"), (map, "map"), (merge, "merge"), (value, "value"), (yaml, "yaml")]

/-- The tag with the given full name. -/
def ofName (name : String) : Tag :=
  match known.find? fun e => home ++ e.2 == name with
  | some (tag, _) => tag
  | none => other name

/-- The full name of a tag. -/
def name (t : Tag) : String :=
  match t with
  | other name => name
  | _ => home ++ (known.lookup t).getD ""

/-- The short form of a tag of the language, as it stands in front of a node. -/
def short (t : Tag) : String :=
  "!!" ++ (known.lookup t).getD ""

/-! ### The spelling of plain texts -/

/-- The texts that stand for a truth value. -/
def boolWords : List String :=
  ["yes", "Yes", "YES", "no", "No", "NO", "true", "True", "TRUE", "false", "False", "FALSE",
    "on", "On", "ON", "off", "Off", "OFF"]

/-- The texts that stand for nothing. -/
def nullWords : List String :=
  ["~", "null", "Null", "NULL", ""]

/-- A digit or an underscore. -/
def isSpacedDigit (c : Char) : Bool :=
  c.isDigit || c = '_'

/-- The characters behind a sign, if there is one. -/
def unsigned : List Char → List Char
  | '-' :: rest | '+' :: rest => rest
  | cs => cs

/-- Whether digits make a number below sixty. -/
def isSixtieth : List Char → Bool
  | [d] => d.isDigit
  | [c, d] => '0' ≤ c && c ≤ '5' && d.isDigit
  | _ => false

/-- Whether the characters are digits, of which the first is at least `least`, with underscores
among them. -/
def isSpacedNumber (least : Char) : List Char → Bool
  | c :: rest => least ≤ c && c ≤ '9' && rest.all isSpacedDigit
  | [] => false

/-- Whether the characters are numbers in base sixty with colons between them. -/
def isSexagesimal (least : Char) (cs : List Char) : Bool :=
  match Text.split ':' cs with
  | first :: second :: rest => isSpacedNumber least first && (second :: rest).all isSixtieth
  | _ => false

/-- Whether the characters spell a whole number. -/
def isInt (cs : List Char) : Bool :=
  let ds := unsigned cs
  isSpacedNumber '1' ds || isSexagesimal '1' ds ||
    match ds with
    | ['0'] => true
    | '0' :: 'b' :: rest => !rest.isEmpty && rest.all fun c => c = '0' || c = '1' || c = '_'
    | '0' :: 'x' :: rest =>
      !rest.isEmpty && rest.all fun c => (Text.Hex.value? c).isSome || c = '_'
    | '0' :: rest => rest.all fun c => ('0' ≤ c && c ≤ '7') || c = '_'
    | _ => false

/-- Whether the characters are an exponent with a sign, or nothing. -/
def isExponent : List Char → Bool
  | [] => true
  | e :: sign :: ds =>
    (e = 'e' || e = 'E') && (sign = '-' || sign = '+') && !ds.isEmpty && ds.all Char.isDigit
  | _ => false

/-- Whether the characters behind the sign spell a real with digits in front of the point. -/
def isPointed (cs : List Char) : Bool :=
  let whole := cs.takeWhile isSpacedDigit
  match cs.dropWhile isSpacedDigit with
  | '.' :: rest => isSpacedNumber '0' whole && isExponent (rest.dropWhile isSpacedDigit)
  | _ => false

/-- Whether the characters behind the sign spell a real in base sixty. -/
def isSexagesimalReal (cs : List Char) : Bool :=
  let fraction := cs.dropWhile fun c => c ≠ '.'
  match fraction with
  | '.' :: rest =>
    isSexagesimal '0' (cs.takeWhile fun c => c ≠ '.') && rest.all isSpacedDigit
  | _ => false

/-- Whether the characters spell a real. -/
def isFloat (cs : List Char) : Bool :=
  let ds := unsigned cs
  isPointed ds || isSexagesimalReal ds ||
    [".inf", ".Inf", ".INF"].contains (String.ofList ds) ||
    [".nan", ".NaN", ".NAN"].contains (String.ofList cs) ||
    match cs with
    | '.' :: c :: rest => c.isDigit && isExponent (rest.dropWhile isSpacedDigit)
    | _ => false

/-- The tag of characters that are written plainly. A line feed at their end does not count. -/
def ofPlainChars (chars : List Char) : Tag :=
  let cs := Text.dropFinalNewline chars
  let bare := String.ofList cs
  if boolWords.contains bare then bool
  else if isFloat cs then float
  else if isInt cs then int
  else if bare = "<<" then merge
  else if nullWords.contains bare && (chars.isEmpty || bare ≠ "") then null
  else if Timestamp.isImplicit cs then timestamp
  else if bare = "=" then value
  else if bare = "!" || bare = "&" || bare = "*" then yaml
  else str

/-- The tag of a plain text. Halves of pairs spell nothing. -/
def ofPlain (text : Text) : Tag :=
  text.chars?.elim str ofPlainChars

/-- A tag is found under its name. -/
theorem ofName_name {t : Tag} (h : ∀ n, t ≠ other n) : ofName t.name = t := by
  cases t with
  | other n => exact absurd rfl (h n)
  | _ => decide

end Tag

end CHeaders.Yaml
