/-!
# Binary64 numbers

The numbers of a JSON document: the finite doubles and the two infinities, with the two zeros kept
apart.  A magnitude is kept as its code, the position in the increasing list of all magnitudes, so
the order of codes is the order of magnitudes and every number has one representation.  A ratio is
rounded to the nearest magnitude, a tie going to the even code.
-/

namespace SlackCourier

/-- The number of magnitudes with one exponent. -/
def binade : Nat := 1 <<< 52

/-- The code of the infinite magnitude, one above the greatest finite one. -/
def infinityCode : Nat := 2047 * binade

/-- A double that is not a NaN. -/
structure Double where
  /-- Whether the sign is minus; both zeros exist. -/
  negative : Bool
  code : Nat
  code_le : code ≤ infinityCode
  deriving DecidableEq, Repr

namespace Double

/-- The number with a sign and a code, codes above that of infinity standing for infinity. -/
def ofCode (negative : Bool) (code : Nat) : Double :=
  ⟨negative, min code infinityCode, Nat.min_le_right ..⟩

def zero : Double := ofCode false 0

instance : Inhabited Double := ⟨zero⟩

def infinity (negative : Bool) : Double := ofCode negative infinityCode

def isInfinite (d : Double) : Bool := d.code == infinityCode

/-- The integer `m` of the magnitude `m · 2 ^ exponent` of a finite number. -/
def significand (d : Double) : Nat :=
  if d.code < binade then d.code else binade + d.code % binade

/-- The binary exponent of the magnitude `significand · 2 ^ e` of a finite number. -/
def exponent (d : Double) : Int :=
  if d.code < binade then -1074 else (d.code / binade : Nat) - 1075

/-- A quotient rounded to the nearest integer, a tie going to the even one. -/
def roundQuotient (num den : Nat) : Nat :=
  let q := num / den
  let r := num % den
  if 2 * r < den then q
  else if den < 2 * r then q + 1
  else q + q % 2

/-- The code of the magnitude nearest to `num / den`.  The magnitude is counted in steps of
`2 ^ (shift - 1074)`, where `shift` is the least for which fewer than `2 ^ 53` steps are needed. -/
def roundRatio (num den : Nat) : Nat :=
  if num = 0 then 0 else
    let shift := num.log2 + 1074 - (den.log2 + 53)
    let num := num <<< 1074
    let shift := if num / (den <<< shift) < 2 * binade then shift else shift + 1
    shift * binade + roundQuotient num (den <<< shift)

def ofRatio (negative : Bool) (num den : Nat) : Double := ofCode negative (roundRatio num den)

def ofNat (n : Nat) : Double := ofRatio false n 1

/-- The double nearest to an integer; zero is positive. -/
def ofInt (n : Int) : Double := ofRatio (n < 0) n.natAbs 1

/-- The double nearest to `digits · 10 ^ exponent`.  Exponents far outside the range of doubles are
decided without computing the power. -/
def ofDecimal (negative : Bool) (digits : Nat) (exponent : Int) : Double :=
  if digits = 0 then ofCode negative 0
  else if 400 < exponent then infinity negative
  else if exponent < -(400 + digits.log2 : Int) then ofCode negative 0
  else if 0 ≤ exponent then ofRatio negative (digits * Nat.pow 10 exponent.toNat) 1
  else ofRatio negative digits (Nat.pow 10 (-exponent).toNat)

/-- Equality of numbers, for which the two zeros are the same. -/
def sameValue (a b : Double) : Bool :=
  a.code == b.code && (a.negative == b.negative || a.code == 0)

@[simp] theorem ofCode_code (negative : Bool) (code : Nat) :
    (ofCode negative code).code = min code infinityCode := rfl

@[simp] theorem ofCode_negative (negative : Bool) (code : Nat) :
    (ofCode negative code).negative = negative := rfl

theorem sameValue_zero_iff (d : Double) :
    d.sameValue zero = true ↔ d = zero ∨ d = ofCode true 0 := by
  obtain ⟨negative, code, hcode⟩ := d
  cases negative <;> simp [sameValue, zero, ofCode]

theorem sameValue_iff_of_ne_zero {d e : Double} (h : e.code ≠ 0) :
    d.sameValue e = true ↔ d = e := by
  obtain ⟨sign, code, hcode⟩ := d
  obtain ⟨sign', code', hcode'⟩ := e
  simp only [sameValue, Bool.and_eq_true, Bool.or_eq_true, beq_iff_eq, mk.injEq]
  constructor
  · rintro ⟨rfl, rfl | hzero⟩
    · exact ⟨rfl, rfl⟩
    · exact (h hzero).elim
  · rintro ⟨rfl, rfl⟩
    exact ⟨rfl, Or.inl rfl⟩

end Double

end SlackCourier
