import SlackCourier.Number.Shortest

/-!
# The text of a number

A number is written with the fewest digits that read back, positionally from a millionth up to below
`10 ^ 21` and with an exponent outside that range.  Neither zero has a sign.
-/

namespace SlackCourier.Double

/-- Digits with a point after `place` of them, for a place from the least to the greatest that is
written positionally; the leading digit of an exponent form stands before the point. -/
def layout (digits : List Char) (place : Int) : List Char :=
  let count : Int := digits.length
  if count ≤ place ∧ place ≤ 21 then
    digits ++ List.replicate (place - count).toNat '0'
  else if 0 < place ∧ place ≤ 21 then
    digits.take place.toNat ++ '.' :: digits.drop place.toNat
  else if -6 < place ∧ place ≤ 0 then
    '0' :: '.' :: List.replicate (-place).toNat '0' ++ digits
  else
    let exponent := place - 1
    let sign := if exponent < 0 then '-' else '+'
    let mantissa :=
      match digits with
      | [] => []
      | [digit] => [digit]
      | digit :: rest => digit :: '.' :: rest
    mantissa ++ 'e' :: sign :: Nat.toDigits 10 exponent.natAbs

def magnitudeText (d : Double) : List Char :=
  if d.code = 0 then ['0'] else
    let (k, exponent) := d.shortest
    let all := Nat.toDigits 10 k
    let digits := (all.reverse.dropWhile (· == '0')).reverse
    layout digits (all.length + exponent)

def text (d : Double) : String :=
  let magnitude := if d.isInfinite then "Infinity".toList else d.magnitudeText
  String.ofList (if d.negative && d.code != 0 then '-' :: magnitude else magnitude)

end SlackCourier.Double
