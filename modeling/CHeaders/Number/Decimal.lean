/-!
# Decimal digits

Whole numbers in base ten and other bases: their digits, and the number that digits stand for.

## Main definitions

* `CHeaders.Decimal.ofNat`, `CHeaders.Decimal.ofInt`: the decimal text of a number.
* `CHeaders.Decimal.digitsValue`: the number that digits stand for in a base up to thirty-six.
* `CHeaders.Decimal.mostDigits`, `CHeaders.Decimal.isWritable`: how long a number may be that is
  read or written in base ten.
-/

namespace CHeaders.Decimal

/-- The decimal digits of `n`, the most significant first and without leading zeros. -/
def digits (n : Nat) : List Char :=
  Nat.toDigits 10 n

/-- The decimal text of a natural number. -/
def ofNat (n : Nat) : String :=
  String.ofList (digits n)

/-- The decimal text of an integer: a minus sign for a negative one, then its digits. -/
def ofInt : Int → String
  | .ofNat n => ofNat n
  | .negSucc n => String.ofList ('-' :: digits (n + 1))

/-- The value of a digit or of an ASCII letter as a digit beyond nine. -/
def digitValue? (c : Char) : Option Nat :=
  let n := c.toNat
  if '0'.toNat ≤ n && n ≤ '9'.toNat then some (n - '0'.toNat)
  else if 'a'.toNat ≤ n && n ≤ 'z'.toNat then some (n - 'a'.toNat + 10)
  else if 'A'.toNat ≤ n && n ≤ 'Z'.toNat then some (n - 'A'.toNat + 10)
  else none

/-- The number that the digits `cs` stand for in base `base`; a character that is no digit counts
as zero. -/
def digitsValue (base : Nat) (cs : List Char) : Nat :=
  cs.foldl (fun acc c => acc * base + (digitValue? c).getD 0) 0

/-- The most digits with which a number is read or written in base ten. Converting longer ones takes
time that grows with the square of their length. -/
def mostDigits : Nat := 4300

/-- The least number that has more digits than are written. -/
def leastUnwritable : Nat := Nat.pow 10 mostDigits

/-- Whether a number has no more digits than are written. -/
def isWritable (n : Int) : Bool :=
  n.natAbs < leastUnwritable

/-- The least number that is too long to be written cannot be written. -/
theorem isWritable_leastUnwritable : isWritable leastUnwritable = false := by
  rw [isWritable, Int.natAbs_natCast, decide_eq_false_iff_not]
  exact Nat.lt_irrefl _

end CHeaders.Decimal
