import CHeaders.Number.Binary64
import CHeaders.Number.Decimal
import CHeaders.Text.Class

/-!
# Reading numbers

The written forms of whole numbers and reals: an optional sign, then digits, and for reals an
optional fraction, an optional exponent and the names of the values that are not finite. White
space around a number does not count. The digits may be those of any script.

## Main definitions

* `CHeaders.Decimal.integer`: the whole number that a text stands for in a base.
* `CHeaders.Binary64.ofDigits`: the real for the digits of a decimal number.
* `CHeaders.Binary64.ofText?`: the real that a text stands for.
-/

namespace CHeaders

namespace Decimal

/-- A character of a number in ASCII: a digit of any script as the digit of the same worth, white
space of any kind outside ASCII as a space. -/
def plainChar (c : Char) : Char :=
  if c.toNat < 0x80 then c
  else if Text.isBlank c then ' '
  else ((Text.decimalDigit? c).map fun d => Nat.digitChar d).getD c

/-- White space that may stand around a number: the space, the tabs and the ends of lines and
pages. -/
def isMargin (c : Char) : Bool :=
  c = ' ' || (0x09 ≤ c.toNat && c.toNat ≤ 0x0D)

/-- The characters of a number in ASCII, without the white space around it. -/
def plain (cs : List Char) : List Char :=
  (((cs.map plainChar).dropWhile isMargin).reverse.dropWhile isMargin).reverse

/-- The mark that may stand in front of digits in a base, as in `0x1f`. -/
def baseMark : Nat → Option (Char × Char)
  | 2 => some ('b', 'B')
  | 8 => some ('o', 'O')
  | 16 => some ('x', 'X')
  | _ => none

/-- The characters behind the mark of a base, or all of them if there is none. -/
def dropMark (base : Nat) (cs : List Char) : List Char :=
  match baseMark base, cs with
  | some (small, capital), '0' :: m :: rest => if m = small || m = capital then rest else cs
  | _, _ => cs

/-- Whether a character is a digit in a base. -/
def isDigitIn (base : Nat) (c : Char) : Bool :=
  match digitValue? c with
  | some d => d < base
  | none => false

/-- Why characters do not stand for a whole number. -/
inductive Defect where
  /-- They are not of the form of a number. -/
  | malformed
  /-- They begin with more digits than are read. -/
  | tooLong (digits : Nat)
  deriving DecidableEq, Repr

/-- Whether the length of numbers is bounded in a base. The digits of a base that is a power of two
can be taken one by one. -/
def isBounded (base : Nat) : Bool :=
  base != twoTo base.log2

/-- The natural number that the characters stand for in a base. The length of the digits at the
beginning is looked at before anything that may stand behind them. -/
def natural (base : Nat) (cs : List Char) : Except Defect Nat :=
  let cs := dropMark base cs
  let count := (cs.takeWhile (isDigitIn base)).length
  if isBounded base && mostDigits < count then .error (.tooLong count)
  else if cs.isEmpty || !cs.all (isDigitIn base) then .error .malformed
  else .ok (digitsValue base cs)

/-- A sign, and the characters behind it. -/
def sign : List Char → Bool × List Char
  | '-' :: rest => (true, rest)
  | '+' :: rest => (false, rest)
  | cs => (false, cs)

/-- The whole number that the characters stand for in a base. -/
def integer (base : Nat) (cs : List Char) : Except Defect Int :=
  let (negative, rest) := sign (plain cs)
  (natural base rest).map fun n => if negative then -(n : Int) else n

end Decimal

namespace Binary64

/-- The real nearest to a decimal number with the given digits in front of the point and behind
it, times a power of ten. -/
def ofDigits (negative : Bool) (whole fraction : List Char) (exponent : Int) : Binary64 :=
  ofDecimal negative (Decimal.digitsValue 10 (whole ++ fraction)) (exponent - fraction.length)

/-- The exponent of a real, which is zero if none is written. -/
def exponent? : List Char → Option Int
  | [] => some 0
  | e :: rest =>
    let (negative, ds) := Decimal.sign rest
    if (e = 'e' || e = 'E') && !ds.isEmpty && ds.all Char.isDigit then
      let n : Int := Decimal.digitsValue 10 ds
      some (if negative then -n else n)
    else none

/-- The finite real for the characters behind the sign. -/
def magnitude? (negative : Bool) (cs : List Char) : Option Binary64 :=
  let whole := cs.takeWhile Char.isDigit
  let rest := cs.dropWhile Char.isDigit
  let (fraction, rest) := match rest with
    | '.' :: rest => (rest.takeWhile Char.isDigit, rest.dropWhile Char.isDigit)
    | _ => ([], rest)
  if whole.isEmpty && fraction.isEmpty then none
  else (exponent? rest).map (ofDigits negative whole fraction)

/-- The real that a text stands for. -/
def ofText? (s : String) : Option Binary64 :=
  let (negative, cs) := Decimal.sign (Decimal.plain s.toList)
  let letters := cs.map Char.toLower
  if letters = "inf".toList || letters = "infinity".toList then some (.infinite negative)
  else if letters = "nan".toList then some (.nan none)
  else magnitude? negative cs

end Binary64

end CHeaders
