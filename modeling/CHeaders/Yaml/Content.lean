import CHeaders.Number.Reading
import CHeaders.Text.Notation
import CHeaders.Text.LowerCase
import CHeaders.Value.Arithmetic
import CHeaders.Yaml.Tag
import CHeaders.Yaml.Token

/-!
# The content of scalars

The values that the texts of scalars stand for. A text without a tag always spells a value of the
tag it gets; a text that is given a tag may not.

## Main definitions

* `CHeaders.Yaml.Content.int`, `CHeaders.Yaml.Content.float`, `CHeaders.Yaml.Content.bool`,
  `CHeaders.Yaml.Content.binary`, `CHeaders.Yaml.Content.timestamp`: values of one tag.
* `CHeaders.Yaml.Content.scalar?`: the value for a tag and a text.
-/

namespace CHeaders.Yaml.Content

/-- The truth values by their names. -/
def truthValues : List (Text × Bool) :=
  [("yes", true), ("no", false), ("true", true), ("false", false), ("on", true), ("off", false)]

/-- The truth value that a text names. -/
def bool (t : Text) : Except Fault Value :=
  let name := Text.lowerCase t
  match truthValues.lookup name with
  | some b => .ok (.bool b)
  | none => .error (.missingKey (.text name))

/-- The letters without underscores. -/
def withoutUnderscores (t : Text) : List Letter :=
  t.letters.filter fun l => l ≠ .char '_'

/-- The sign in front of the letters, which must not be missing, and what follows it. -/
def signed (ls : List Letter) : Except Fault (Int × List Letter) :=
  match ls with
  | [] => .error .noCharacter
  | .char '-' :: rest => .ok (-1, rest)
  | .char '+' :: rest => .ok (1, rest)
  | _ => .ok (1, ls)

/-- The whole number that digits stand for in a base. No half of a pair is a digit, so a mark may
stand for it. -/
def integer (base : Nat) (ls : List Letter) : Except Fault Int :=
  match Decimal.integer base (ls.map Letter.shown) with
  | .ok n => .ok n
  | .error .malformed => .error (.notNumeral base ⟨ls⟩)
  | .error (.tooLong digits) => .error (.tooManyDigits (some digits))

/-- The real that letters stand for. -/
def realOf (ls : List Letter) : Except Fault Binary64 :=
  match Binary64.ofText? (String.ofList (ls.map Letter.shown)) with
  | some x => .ok x
  | none => .error (.notReal ⟨ls⟩)

/-- The whole number behind the sign. -/
def magnitude (ls : List Letter) : Except Fault Int :=
  match ls with
  | [] => .error .noCharacter
  | [.char '0'] => .ok 0
  | .char '0' :: .char 'b' :: rest => integer 2 rest
  | .char '0' :: .char 'x' :: rest => integer 16 rest
  | .char '0' :: _ => integer 8 ls
  | _ =>
    if ls.contains (.char ':') then do
      let parts ← (Text.split (.char ':') ls).mapM (integer 10)
      return parts.foldl (fun acc n => acc * 60 + n) 0
    else integer 10 ls

/-- The whole number that a text stands for, in base two, eight, ten, sixteen or sixty. -/
def int (t : Text) : Except Fault Value := do
  let (sign, rest) ← signed (withoutUnderscores t)
  return .int (sign * (← magnitude rest))

/-- The sum of parts in base sixty, the last part first. The powers of sixty are made reals. -/
def sexagesimal : (base : Int) → (sum : Binary64) → List Binary64 → Except Fault Binary64
  | _, sum, [] => .ok sum
  | base, sum, part :: rest => do
    let unit ← Value.nearestReal base
    sexagesimal (base * 60) (sum.plus (part.times unit)) rest

/-- A real with a sign in front of it. -/
def withSign (sign : Int) (x : Binary64) : Value :=
  .real (if sign < 0 then x.negate else x)

/-- The real that a text stands for, in base ten or sixty. -/
def float (t : Text) : Except Fault Value := do
  let (sign, rest) ← signed (Text.lowerCase ⟨withoutUnderscores t⟩).letters
  if Text.mk rest = ".inf" then return .real (.infinite (sign < 0))
  else if Text.mk rest = ".nan" then return .real .commonNaN
  else if rest.contains (.char ':') then
    let parts ← (Text.split (.char ':') rest).mapM realOf
    return withSign sign (← sexagesimal 1 Binary64.zero parts.reverse)
  else return withSign sign (← realOf rest)

/-- The bytes that a text stands for. -/
def binary (t : Text) : Except Defect Value :=
  if t.letters.all fun l => l.code < 0x80 then
    match t.chars?.bind Text.Base64.decode? with
    | some bytes => .ok (.bytes bytes)
    | none => Token.malformed "letters that are no bytes"
  else Token.malformed "a letter that is no byte"

/-- The day or the instant that a text stands for. -/
def timestamp (t : Text) : Except Fault Value :=
  match t.chars?.bind fun cs => Timestamp.ofChars? (Text.dropFinalNewline cs) with
  | none => .error .noGroups
  | some t =>
    match t.moment with
    | .ok m => .ok (.moment m)
    | .error f => .error (.notMoment f)

/-- A value that may not exist. -/
def checked (r : Except Fault Value) : Except Defect Value :=
  r.mapError Defect.value

/-- The value for the tag of a scalar and its text. Not every tag has scalars. -/
def scalar? (tag : Tag) (text : Text) : Option (Except Defect Value) :=
  match tag with
  | .null => some (.ok .none)
  | .bool => some (checked (bool text))
  | .int => some (checked (int text))
  | .float => some (checked (float text))
  | .binary => some (binary text)
  | .timestamp => some (checked (timestamp text))
  | .str => some (.ok (.text text))
  | _ => none

end CHeaders.Yaml.Content
