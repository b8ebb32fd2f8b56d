import CHeaders.Number.Binary64
import CHeaders.Number.Decimal

/-!
# The shortest text of a real

A real is written with the fewest decimal digits that read back as that real; of two such
numbers of digits the nearer one is taken. How the digits are laid out is given by a `Layout`.

## Main definitions

* `CHeaders.Shortest.decimal`: the digits and the power of ten of a finite real.
* `CHeaders.Shortest.Layout`: where positional notation ends and how an exponent is written.
* `CHeaders.Binary64.text`: the text of a real.
-/

namespace CHeaders.Shortest

/-- The reals that round to `m * 2 ^ e`, as bounds over a common denominator: `(lo, mid, hi, den)`
stands for the interval from `lo / den` to `hi / den` around `mid / den`. Below a power of two the
neighbour is only half as far. -/
def interval (m : Nat) (e : Int) : Nat × Nat × Nat × Nat :=
  let narrow := m = twoTo 52 && Binary64.minExponent < e
  let lo := if narrow then 4 * m - 1 else 4 * m - 2
  let (scale, den) := Binary64.ratio 1 e
  (lo * scale, 4 * m * scale, (4 * m + 2) * scale, 4 * den)

/-- The greatest power of ten that is at most `num / den`, which is positive. -/
def floorLog10 (num den : Nat) : Int :=
  if den ≤ num then ((Nat.toDigits 10 (num / den)).length : Int) - 1
  else
    match (List.range 400).find? fun k => den ≤ num * tenTo k with
    | some k => -(k : Int)
    | none => -400

/-- Whether `d * 10 ^ k` lies in the interval; its ends count when `closed`. -/
def inside (closed : Bool) (bounds : Nat × Nat × Nat × Nat) (d : Nat) (k : Int) : Bool :=
  let (lo, _, hi, den) := bounds
  let (x, unit) := match k with
    | .ofNat k => (d * tenTo k, 1)
    | .negSucc k => (d, tenTo (k + 1))
  if closed then lo * unit ≤ x * den && x * den ≤ hi * unit
  else lo * unit < x * den && x * den < hi * unit

/-- The two points of the grid `10 ^ k` around `mid / den`, and whether the upper one is nearer:
it is taken on a tie when the lower one is odd. -/
def neighbours (bounds : Nat × Nat × Nat × Nat) (k : Int) : Nat × Bool :=
  let (_, mid, _, den) := bounds
  let (num, den) := match k with
    | .ofNat k => (mid, den * tenTo k)
    | .negSucc k => (mid * tenTo (k + 1), den)
  let d := num / den
  let twice := 2 * (num % den)
  (d, den < twice || (twice = den && d % 2 = 1))

/-- The digits and the power of ten for a grid, if a point of the grid lies in the interval. -/
def onGrid? (closed : Bool) (bounds : Nat × Nat × Nat × Nat) (k : Int) : Option (Nat × Int) :=
  let (d, upper) := neighbours bounds k
  let low := inside closed bounds d k
  let high := inside closed bounds (d + 1) k
  if low && high then some (if upper then d + 1 else d, k)
  else if low then some (d, k)
  else if high then some (d + 1, k)
  else none

/-- Digits without trailing zeros, and the power of ten that makes up for them. -/
def stripZeros : (fuel : Nat) → Nat → Int → Nat × Int
  | 0, d, k => (d, k)
  | fuel + 1, d, k => if d ≠ 0 && d % 10 = 0 then stripZeros fuel (d / 10) (k + 1) else (d, k)

/-- The fewest digits `d` and the power `k` such that `d * 10 ^ k` reads back as `m * 2 ^ e`. -/
def decimal (m : Nat) (e : Int) : Nat × Int :=
  if m = 0 then (0, 0)
  else
    let bounds := interval m e
    let top := floorLog10 bounds.2.1 bounds.2.2.2
    let grids := (List.range 18).map fun (n : Nat) => top - (n : Int)
    match grids.findSome? (onGrid? (m % 2 = 0) bounds) with
    | some (d, k) => stripZeros 20 d k
    | none => (0, 0)

/-- The layout of a real's digits: the exponents written positionally, the least number of digits
of an exponent, whether a single digit in front of an exponent gets a point and a zero, and the
names of what has no digits. -/
structure Layout where
  firstPositional : Int
  lastPositional : Int
  exponentPlaces : Nat
  pointed : Bool
  infinity : String
  notANumber : String

/-- Zeros for `n` places. -/
def zeros (n : Nat) : List Char :=
  List.replicate n '0'

/-- Digits `ds` whose first stands for `10 ^ e`, written positionally with at least one digit on
each side of the point. -/
def positional (ds : List Char) (e : Int) : List Char :=
  match e with
  | .ofNat e =>
    let whole := ds.take (e + 1)
    let fraction := ds.drop (e + 1)
    whole ++ zeros (e + 1 - whole.length) ++ '.' :: (if fraction.isEmpty then ['0'] else fraction)
  | .negSucc e => '0' :: '.' :: (zeros e ++ ds)

/-- Digits `ds` whose first stands for `10 ^ e`, written with an exponent. -/
def scientific (layout : Layout) (ds : List Char) (e : Int) : List Char :=
  let exponent := Decimal.digits e.natAbs
  let fraction :=
    if 1 < ds.length then '.' :: ds.drop 1 else if layout.pointed then ['.', '0'] else []
  ds.take 1 ++ fraction ++ 'e' ::
    (if e < 0 then '-' else '+') :: (zeros (layout.exponentPlaces - exponent.length) ++ exponent)

/-- Values are shown positionally from `1e-4` to below `1e16`, and exponents have two places. -/
def plain : Layout := ⟨-4, 15, 2, false, "inf", "nan"⟩

end CHeaders.Shortest

namespace CHeaders

/-- The text of a real in the given layout. -/
def Binary64.text (layout : Shortest.Layout) : Binary64 → String
  | .nan _ => layout.notANumber
  | .infinite negative => (if negative then "-" else "") ++ layout.infinity
  | .finite negative m e =>
    let (d, k) := Shortest.decimal m e
    let ds := Decimal.digits d
    let first := k + ds.length - 1
    let body :=
      if layout.firstPositional ≤ first && first ≤ layout.lastPositional then
        Shortest.positional ds first
      else Shortest.scientific layout ds first
    String.ofList (if negative then '-' :: body else body)

end CHeaders
