import CHeaders.Json.Text
import CHeaders.Number.Reading
import CHeaders.Value.Equality

/-!
# Reading JSON

A document is a single value with white space around it. Beside what the standard allows, the
names `NaN`, `Infinity` and `-Infinity` are read as reals. Of entries with the same key the last
one counts. The first defect is reported with its line, its column and its place in the document.

A document that is given as bytes says by its first bytes how it is encoded: by a byte order mark,
or else by the zeros among them, because a document begins with characters of ASCII.

## Main definitions

* `CHeaders.Json.number?`: a number at the beginning of the letters.
* `CHeaders.Json.value`: a value at the beginning of the letters.
* `CHeaders.Json.parse`, `CHeaders.Json.parseDecoded`: the value that a document holds.
* `CHeaders.Json.Defect.message`: the wording of a defect.
* `CHeaders.Json.encodingOf`: the encoding of a document, and the length of its byte order mark.
* `CHeaders.Json.decode`: the text of a document that is given as bytes.
-/

namespace CHeaders.Json

/-- Whether a letter is white space between the parts of a document. -/
def isGap : Letter → Bool :=
  Letter.isIn fun c => c = ' ' || c = '\t' || c = '\n' || c = '\r'

/-- The letters behind white space. -/
def skipBlank (ls : List Letter) : List Letter :=
  ls.dropWhile isGap

/-- What follows a word at the beginning of the letters. -/
def dropWord? (word : Text) (ls : List Letter) : Option (List Letter) :=
  if word.letters.isPrefixOf ls then some (ls.drop word.length) else none

/-- The words that stand for a value. -/
def words : List (Text × Value) :=
  [("null", .none), ("true", .bool true), ("false", .bool false), ("NaN", .real (.nan none)),
    ("Infinity", .real (.infinite false)), ("-Infinity", .real (.infinite true))]

/-- A word at the beginning of the letters. -/
def word? (ls : List Letter) : Option (Value × List Letter) :=
  words.findSome? fun e => (dropWord? e.1 ls).map fun rest => (e.2, rest)

/-- The digits at the beginning of the letters, and what follows them. -/
def digitsOf : List Letter → List Char × List Letter
  | .char c :: rest =>
    if c.isDigit then
      let (ds, rest) := digitsOf rest
      (c :: ds, rest)
    else ([], .char c :: rest)
  | ls => ([], ls)

/-- The digits of the fraction at the beginning of the letters; there is none if no digit follows
the point. -/
def fractionOf (ls : List Letter) : List Char × List Letter :=
  match ls with
  | .char '.' :: rest =>
    let (ds, rest) := digitsOf rest
    if ds.isEmpty then ([], ls) else (ds, rest)
  | _ => ([], ls)

/-- The sign of an exponent, and what follows it. -/
def exponentSign : List Letter → Bool × List Letter
  | .char '-' :: rest => (true, rest)
  | .char '+' :: rest => (false, rest)
  | ls => (false, ls)

/-- The exponent at the beginning of the letters, if one is written in full. -/
def exponentOf (ls : List Letter) : Option Int × List Letter :=
  match ls with
  | .char e :: rest =>
    let (negative, tail) := exponentSign rest
    let (ds, tail) := digitsOf tail
    if (e = 'e' || e = 'E') && !ds.isEmpty then
      let n : Int := Decimal.digitsValue 10 ds
      (some (if negative then -n else n), tail)
    else (none, ls)
  | _ => (none, ls)

/-- The digits in front of the point: a single zero, or digits that do not begin with one. -/
def wholeOf (ls : List Letter) : List Char × List Letter :=
  match ls with
  | .char '0' :: rest => (['0'], rest)
  | _ => digitsOf ls

/-- Whether a minus sign stands at the beginning of a number, and what follows it. -/
def signOf : List Letter → Bool × List Letter
  | .char '-' :: rest => (true, rest)
  | ls => (false, ls)

/-- A number at the beginning of the letters. It is whole if it has neither a fraction nor an
exponent; then its length is bounded. -/
def number? (ls : List Letter) : Option (Except Fault (Value × List Letter)) :=
  let (negative, unsigned) := signOf ls
  let (whole, rest) := wholeOf unsigned
  if whole.isEmpty then none
  else
    let (fraction, rest) := fractionOf rest
    let (exponent, rest) := exponentOf rest
    if fraction.isEmpty && exponent.isNone then
      if Decimal.mostDigits < whole.length then some (.error (.tooManyDigits whole.length))
      else
        let n : Int := Decimal.digitsValue 10 whole
        some (.ok (.int (if negative then -n else n), rest))
    else some (.ok (.real (Binary64.ofDigits negative whole fraction (exponent.getD 0)), rest))

/-- The key and the colon at the beginning of an entry, and what follows them. -/
def entryKey (ls : List Letter) : Except Fault (Text × List Letter) :=
  match ls with
  | .char '"' :: rest => do
    let (name, rest) ← readText ls rest
    match skipBlank rest with
    | .char ':' :: rest => return (⟨name⟩, skipBlank rest)
    | rest => throw (.malformed .colon rest.length)
  | _ => .error (.malformed .name ls.length)

mutual

/-- The value at the beginning of the letters, and what follows it. The first argument bounds the
number of steps. -/
def value : (bound : Nat) → List Letter → Except Fault (Value × List Letter)
  | 0, ls => .error (.malformed .value ls.length)
  | bound + 1, ls =>
    match ls with
    | .char '"' :: rest => do
      let (text, rest) ← readText ls rest
      return (.text ⟨text⟩, rest)
    | .char '[' :: rest =>
      match skipBlank rest with
      | .char ']' :: rest => .ok (.list [], rest)
      | rest => do
        let (items, rest) ← itemsOf bound rest
        return (.list items, rest)
    | .char '\x7b' :: rest =>
      match skipBlank rest with
      | .char '\x7d' :: rest => .ok (.dict [], rest)
      | rest => do
        let (entries, rest) ← entriesOf bound rest
        return (Value.ofEntries entries, rest)
    | _ =>
      match ((word? ls).map .ok).or (number? ls) with
      | some found => found
      | none => .error (.malformed .value ls.length)

/-- The items up to the closing bracket. -/
def itemsOf : (bound : Nat) → List Letter → Except Fault (List Value × List Letter)
  | 0, ls => .error (.malformed .value ls.length)
  | bound + 1, ls => do
    let (item, rest) ← value bound ls
    match skipBlank rest with
    | .char ']' :: rest => return ([item], rest)
    | .char ',' :: rest => do
      let (items, rest) ← itemsOf bound (skipBlank rest)
      return (item :: items, rest)
    | rest => throw (.malformed .comma rest.length)

/-- The entries up to the closing brace. -/
def entriesOf : (bound : Nat) → List Letter → Except Fault (List (Value × Value) × List Letter)
  | 0, ls => .error (.malformed .name ls.length)
  | bound + 1, ls => do
    let (name, rest) ← entryKey ls
    let (item, rest) ← value bound rest
    match skipBlank rest with
    | .char '\x7d' :: rest => return ([(.text name, item)], rest)
    | .char ',' :: rest => do
      let (entries, rest) ← entriesOf bound (skipBlank rest)
      return ((.text name, item) :: entries, rest)
    | rest => throw (.malformed .comma rest.length)

end

/-- The value that a document holds which was given as bytes. -/
def parseDecoded (t : Text) : Except Fault Value := do
  let (v, rest) ← value (2 * t.length + 2) (skipBlank t.letters)
  match skipBlank rest with
  | [] => return v
  | rest => throw (.malformed .extra rest.length)

/-- The value that a document holds. A document that is given as text has no byte order mark. -/
def parse (t : Text) : Except Fault Value :=
  if t.letters.head? = some (.char '\uFEFF') then .error (.malformed .byteOrderMark t.length)
  else parseDecoded t

/-- The wording of a defect where so many letters of the document `t` are left. Lines and columns
are counted from one, letters from zero. -/
def Defect.message (d : Defect) (remaining : Nat) (t : Text) : String :=
  let place := t.length - remaining
  let before := t.letters.take place
  let line := before.count (.char '\n') + 1
  let column := (before.reverse.takeWhile fun l => l ≠ .char '\n').length + 1
  d.wording ++ ": line " ++ Decimal.ofNat line ++ " column " ++ Decimal.ofNat column ++
    " (char " ++ Decimal.ofNat place ++ ")"

/-! ## Documents in bytes -/

open Text (Encoding)

/-- The encoding of a document without a byte order mark. -/
def unmarkedEncoding : List UInt8 → Encoding
  | [a, b] => if a == 0 then .utf16 .big else if b == 0 then .utf16 .little else .utf8
  | a :: b :: c :: d :: _ =>
    if a == 0 then if b == 0 then .utf32 .big else .utf16 .big
    else if b == 0 then if c == 0 && d == 0 then .utf32 .little else .utf16 .little
    else .utf8
  | _ => .utf8

/-- The encoding of a document, and the length of its byte order mark. -/
def encodingOf (bytes : List UInt8) : Encoding × Nat :=
  match bytes with
  | 0x00 :: 0x00 :: 0xFE :: 0xFF :: _ => (.utf32 .big, 4)
  | 0xFF :: 0xFE :: 0x00 :: 0x00 :: _ => (.utf32 .little, 4)
  | 0xFE :: 0xFF :: _ => (.utf16 .big, 2)
  | 0xFF :: 0xFE :: _ => (.utf16 .little, 2)
  | 0xEF :: 0xBB :: 0xBF :: _ => (.utf8, 3)
  | _ => (unmarkedEncoding bytes, 0)

/-- The text of a document that is given as bytes. Halves of pairs may be alone in it. In UTF-8 the
byte order mark does not count for the position of a fault. -/
def decode (bytes : List UInt8) : Except Encoding.Fault Text :=
  match encodingOf bytes with
  | (.utf8, start) => Text.Utf8.decode true (bytes.drop start)
  | (.utf16 order, start) => Text.Utf16.decode order true start bytes
  | (.utf32 order, start) => Text.Utf32.decode order start bytes

end CHeaders.Json
