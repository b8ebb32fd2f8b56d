/-!
# Reals of double precision

A real is a sign, a significand below `2 ^ 53` and a power of two; beside these stand two
infinities and the values that are not a number. Every operation computes the exact result and
rounds it once, to the nearest real and to the even significand when two are equally near.

## Main definitions

* `CHeaders.Binary64`: the reals of double precision.
* `CHeaders.twoTo`, `CHeaders.tenTo`: powers.
* `CHeaders.Binary64.ofRatio`: the real nearest to a fraction.
* `CHeaders.Binary64.dyadic?`: the dyadic number that a finite real is.
* `CHeaders.Binary64.ofInt?`: the real nearest to a whole number.
* `CHeaders.Binary64.times`, `CHeaders.Binary64.plus`: products and sums.
-/

namespace CHeaders

/-- A power of two. -/
def twoTo (k : Nat) : Nat :=
  Nat.pow 2 k

/-- A power of ten. -/
def tenTo (k : Nat) : Nat :=
  Nat.pow 10 k

/-- A real of double precision. A finite one stands for `± significand * 2 ^ exponent`. A value
that is not a number may carry a serial, by which it can be told from others of its kind. -/
inductive Binary64 where
  | nan (serial : Option Nat)
  | infinite (negative : Bool)
  | finite (negative : Bool) (significand : Nat) (exponent : Int)
  deriving DecidableEq, Repr

namespace Binary64

/-- The least exponent of a finite real. -/
def minExponent : Int := -1074

/-- The greatest exponent of a finite real. -/
def maxExponent : Int := 971

/-- The positive zero. -/
def zero : Binary64 :=
  .finite false 0 minExponent

/-- The value that is not a number and that all documents share. No other one has its serial. -/
def commonNaN : Binary64 :=
  .nan (some 0)

/-- The fraction `num / den` divided by `2 ^ e`, as a fraction. -/
def shifted (num den : Nat) (e : Int) : Nat × Nat :=
  match e with
  | .ofNat k => (num, den * twoTo k)
  | .negSucc k => (num * twoTo (k + 1), den)

/-- The whole number nearest to `num / den`, the even one of two that are equally near. -/
def roundHalfEven (num den : Nat) : Nat :=
  let q := num / den
  let twice := 2 * (num % den)
  if twice < den then q
  else if den < twice then q + 1
  else if q % 2 = 0 then q else q + 1

/-- The exponent at which the significand of `num / den` has 53 bits, but no less than the least
exponent. -/
def exponentOf (num den : Nat) : Int :=
  let guess : Int := (num.log2 : Int) - (den.log2 : Int) - 52
  let (n, d) := shifted num den guess
  max minExponent (if n / d < twoTo 52 then guess - 1 else guess)

/-- The real nearest to `± num / den`; infinite when every finite one is too small. -/
def ofRatio (negative : Bool) (num den : Nat) : Binary64 :=
  if num = 0 then .finite negative 0 minExponent
  else
    let e := exponentOf num den
    let (n, d) := shifted num den e
    let m := roundHalfEven n d
    let (m, e) := if m = twoTo 53 then (twoTo 52, e + 1) else (m, e)
    if maxExponent < e then .infinite negative else .finite negative m e

/-- The real nearest to `± digits * 10 ^ exponent`. Exponents far out of range are decided without
computing the power. -/
def ofDecimal (negative : Bool) (digits : Nat) (exponent : Int) : Binary64 :=
  if digits = 0 then .finite negative 0 minExponent
  else
    let magnitude : Int := exponent + (Nat.toDigits 10 digits).length
    if 400 < magnitude then .infinite negative
    else if magnitude < -400 then .finite negative 0 minExponent
    else
      match exponent with
      | .ofNat k => ofRatio negative (digits * tenTo k) 1
      | .negSucc k => ofRatio negative digits (tenTo (k + 1))

/-- The real nearest to a whole number, unless that is too large for any real. -/
def ofInt? (n : Int) : Option Binary64 :=
  match ofRatio (n < 0) n.natAbs 1 with
  | .infinite _ => none
  | x => some x

/-- The real with the other sign. -/
def negate : Binary64 → Binary64
  | .nan s => .nan s
  | .infinite negative => .infinite (!negative)
  | .finite negative m e => .finite (!negative) m e

/-- The dyadic number that a finite real is. -/
def dyadic? : Binary64 → Option Dyadic
  | .finite negative m e =>
    some (Dyadic.ofIntWithPrec (if negative then -(m : Int) else m) (-e))
  | _ => none

/-- Whether the real is a zero of either sign. -/
def isZero : Binary64 → Bool
  | .finite _ m _ => m == 0
  | _ => false

/-- The fraction that a finite real is in absolute value. -/
def ratio (m : Nat) : (e : Int) → Nat × Nat
  | .ofNat k => (m * twoTo k, 1)
  | .negSucc k => (m, twoTo (k + 1))

/-- The product of two reals, rounded. -/
def times (x y : Binary64) : Binary64 :=
  match x, y with
  | .nan s, _ => .nan s
  | _, .nan s => .nan s
  | .infinite a, .infinite b => .infinite (a != b)
  | .infinite a, .finite b k _ => if k = 0 then .nan none else .infinite (a != b)
  | .finite a m _, .infinite b => if m = 0 then .nan none else .infinite (a != b)
  | .finite a m e, .finite b k f =>
    let (n₁, d₁) := ratio m e
    let (n₂, d₂) := ratio k f
    ofRatio (a != b) (n₁ * n₂) (d₁ * d₂)

/-- The sum of two reals, rounded. -/
def plus (x y : Binary64) : Binary64 :=
  match x, y with
  | .nan s, _ => .nan s
  | _, .nan s => .nan s
  | .infinite a, .infinite b => if a = b then .infinite a else .nan none
  | .infinite a, _ => .infinite a
  | _, .infinite b => .infinite b
  | .finite a m e, .finite b k f =>
    let (n₁, d₁) := ratio m e
    let (n₂, d₂) := ratio k f
    let sum : Int := (if a then -(n₁ : Int) else n₁) * d₂ + (if b then -(n₂ : Int) else n₂) * d₁
    if sum = 0 then .finite (a && b) 0 minExponent
    else ofRatio (sum < 0) sum.natAbs (d₁ * d₂)

end Binary64

end CHeaders
