import SlackCourier.Number.Double

/-!
# The shortest decimal that reads back

Of the decimals that round to a given double, those with the fewest digits are the shortest, and of
these the nearest to the double is taken, a tie going to the even digit string.  The search tries
one digit, two digits, and so on; for each length only the two neighbours of the double on the
decimal grid of that length need a test.  All arithmetic is exact.
-/

namespace SlackCourier.Double

/-- A positive magnitude among the reals that round to it, in quarter steps of the grid of doubles:
the magnitude is `center · unit`, and the reals from `low · unit` to `high · unit` round to it,
the two ends included when `ends` says so. -/
structure Interval where
  low : Nat
  center : Nat
  high : Nat
  ends : Bool
  unitNum : Nat
  unitDen : Nat

/-- The interval of a finite double that is not zero.  Below a power of two the grid is twice as
fine, so the lower end is nearer. -/
def interval (d : Double) : Interval :=
  let m := d.significand
  let e := d.exponent - 2
  { low := 4 * m - (if m = binade ∧ -1074 < d.exponent then 1 else 2)
    center := 4 * m
    high := 4 * m + 2
    ends := m % 2 == 0
    unitNum := Nat.pow 2 e.toNat
    unitDen := Nat.pow 2 (-e).toNat }

/-- The interval measured in units of `10 ^ exponent`, all three marks over one denominator. -/
def Interval.scaled (i : Interval) (exponent : Int) : Interval :=
  { i with
    unitNum := i.unitNum * Nat.pow 10 (-exponent).toNat
    unitDen := i.unitDen * Nat.pow 10 exponent.toNat }

/-- Whether the integer `k`, in the interval's own measure, rounds to the magnitude. -/
def Interval.contains (i : Interval) (k : Nat) : Bool :=
  let x := k * i.unitDen
  let lo := i.low * i.unitNum
  let hi := i.high * i.unitNum
  if i.ends then lo ≤ x && x ≤ hi else lo < x && x < hi

/-- The nearest integer in the interval, if one of the magnitude's two neighbours is in it. -/
def Interval.nearest? (i : Interval) : Option Nat :=
  let x := i.center * i.unitNum
  let k := x / i.unitDen
  match i.contains k, i.contains (k + 1) with
  | true, false => some k
  | false, true => some (k + 1)
  | false, false => none
  | true, true =>
    let below := x - k * i.unitDen
    let above := (k + 1) * i.unitDen - x
    if below < above then some k
    else if above < below then some (k + 1)
    else some (k + k % 2)

/-- The number of decimal digits of a natural number; zero has one. -/
def digitCount (n : Nat) : Nat := (Nat.toDigits 10 n).length

/-- The place `p` of the leading digit of `num / den`: the ratio is below `10 ^ p` and not below
`10 ^ (p - 1)`. -/
def leadingPlace (num den : Nat) : Int :=
  if den ≤ num then digitCount (num / den)
  else 1 - (digitCount ((den + num - 1) / num - 1) : Nat)

/-- The first hit on the grids of `10 ^ exponent`, `10 ^ (exponent - 1)`, and so on. -/
def searchGrids (i : Interval) : Nat → Int → Nat × Int
  | 0, exponent => (i.center * i.unitNum / i.unitDen, exponent)
  | fuel + 1, exponent =>
    match (i.scaled exponent).nearest? with
    | some k => (k, exponent)
    | none => searchGrids i fuel (exponent - 1)

/-- The shortest decimal `digits · 10 ^ exponent` of a finite double that is not zero.  Seventeen
digits always suffice. -/
def shortest (d : Double) : Nat × Int :=
  let i := d.interval
  searchGrids i 17 (leadingPlace (i.center * i.unitNum) i.unitDen - 1)

end SlackCourier.Double
