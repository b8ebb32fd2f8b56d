import CHeaders.Text.Encoding

/-!
# JSON texts

A text stands between double quotes. It is written in ASCII: the quote and the backslash are
escaped, some control characters have an escape of their own, and every other character outside
visible ASCII is written as its UTF-16 units, and half of a pair as the one unit that it is. Reading
takes any escape that JSON knows, and letters outside ASCII as they are.

## Main definitions

* `CHeaders.Json.quoted`: the written form of a text.
* `CHeaders.Json.Defect`, `CHeaders.Json.Fault`: what can be wrong with a document, and where.
* `CHeaders.Json.readText`: the text behind an opening quote.
-/

namespace CHeaders.Json

/-! ## Writing -/

/-- A UTF-16 unit as an escape. -/
def unitEscape (n : Nat) : List Char :=
  '\\' :: 'u' :: Text.Hex.padded .small 4 n

/-- The UTF-16 units of a code point as escapes. -/
def unitsEscape (n : Nat) : List Char :=
  if n < 0x10000 then unitEscape n
  else unitEscape (0xD800 + (n - 0x10000) / 0x400) ++ unitEscape (0xDC00 + (n - 0x10000) % 0x400)

/-- How a character stands in a written text. -/
def escapeChar (c : Char) : List Char :=
  if c = '"' || c = '\\' then ['\\', c]
  else if c = '\n' then ['\\', 'n']
  else if c = '\r' then ['\\', 'r']
  else if c = '\t' then ['\\', 't']
  else if c = '\x08' then ['\\', 'b']
  else if c = '\x0c' then ['\\', 'f']
  else if ' ' ≤ c && c ≤ '~' then [c]
  else unitsEscape c.toNat

/-- How a letter stands in a written text. -/
def escapeLetter : Letter → List Char
  | .char c => escapeChar c
  | .half n => unitsEscape (Letter.half n).code

/-- The written form of a text. -/
def quoted (t : Text) : String :=
  String.ofList ('"' :: t.letters.flatMap escapeLetter ++ ['"'])

/-! ## Reading -/

/-- What can be wrong with a document. -/
inductive Defect where
  | value
  | name
  | colon
  | comma
  | extra
  | unterminated
  | control
  | escape
  | unitEscape
  | byteOrderMark
  deriving DecidableEq, Repr

/-- The wording of a defect. -/
def Defect.wording : Defect → String
  | value => "Expecting value"
  | name => "Expecting property name enclosed in double quotes"
  | colon => "Expecting ':' delimiter"
  | comma => "Expecting ',' delimiter"
  | extra => "Extra data"
  | unterminated => "Unterminated string starting at"
  | control => "Invalid control character at"
  | escape => "Invalid \\escape"
  | unitEscape => "Invalid \\uXXXX escape"
  | byteOrderMark => "Unexpected UTF-8 BOM (decode using utf-8-sig)"

/-- Why a document cannot be read. -/
inductive Fault where
  /-- It has a defect; so many letters are left at its place. -/
  | malformed (defect : Defect) (remaining : Nat)
  /-- A whole number has more digits than are read. -/
  | tooManyDigits (count : Nat)
  deriving DecidableEq, Repr

/-- The character for the letter of an escape. -/
def escaped? (c : Char) : Option Char :=
  if c = '"' || c = '\\' || c = '/' then some c
  else if c = 'b' then some '\x08'
  else if c = 'f' then some '\x0c'
  else if c = 'n' then some '\n'
  else if c = 'r' then some '\r'
  else if c = 't' then some '\t'
  else none

/-- The UTF-16 unit that four digits stand for. -/
def unit? (ds : List Letter) : Option Nat :=
  (Text.mk ds).chars?.bind Text.Hex.number?

/-- The four digits of a unit that is escaped at the beginning of the letters and followed by
something. -/
def unitDigits? : List Letter → Option (List Letter)
  | .char '\\' :: .char 'u' :: a :: b :: c :: d :: _ :: _ => some [a, b, c, d]
  | _ => none

/-- The letters up to the closing quote, and what follows it. `start` is what is left at the
opening quote. An escape of a unit has to be followed by something. -/
def readText (start : List Letter) : List Letter → Except Fault (List Letter × List Letter)
  | [] => .error (.malformed .unterminated start.length)
  | .char '"' :: rest => .ok ([], rest)
  | [.char '\\'] => .error (.malformed .unterminated start.length)
  | .char '\\' :: .char 'u' :: a :: b :: c :: d :: next :: rest =>
    match unit? [a, b, c, d] with
    | none => .error (.malformed .unitEscape (rest.length + 6))
    | some unit =>
      match (if Text.isHighHalf unit then unitDigits? (next :: rest) else none) with
      | none => (readText start (next :: rest)).map fun r => (Letter.ofCode unit :: r.1, r.2)
      | some ds =>
        match unit? ds with
        | none => .error (.malformed .unitEscape rest.length)
        | some low =>
          if Text.isLowHalf low then
            (readText start (rest.drop 5)).map fun r => (Text.pair unit low :: r.1, r.2)
          else (readText start (next :: rest)).map fun r => (Letter.ofCode unit :: r.1, r.2)
  | .char '\\' :: .char 'u' :: rest => .error (.malformed .unitEscape (rest.length + 1))
  | .char '\\' :: l :: rest =>
    match l.char?.bind escaped? with
    | some d => (readText start rest).map fun r => (.char d :: r.1, r.2)
    | none => .error (.malformed .escape (rest.length + 2))
  | l :: rest =>
    if l.code ≤ 0x1F then .error (.malformed .control (rest.length + 1))
    else (readText start rest).map fun r => (l :: r.1, r.2)
termination_by ls => ls.length

end CHeaders.Json
