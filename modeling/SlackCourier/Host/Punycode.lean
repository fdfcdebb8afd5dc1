import SlackCourier.Text.Occurrence

/-!
# Labels in ASCII characters

The reading of labels that are written in ASCII characters for others.  What stands before the last
hyphen are the ASCII characters of the label.  Behind it each of the others is a number in digits of
varying weight: how many steps it is from the last one inserted, where a step goes to the next place
in the label, and from its end to the next code point at its beginning.
-/

namespace SlackCourier.Host.Punycode

/-- The value of a digit: letters come before decimal digits. -/
def digit? (c : Char) : Option Nat :=
  if 'a' ≤ c ∧ c ≤ 'z' then some (c.toNat - 'a'.toNat)
  else if '0' ≤ c ∧ c ≤ '9' then some (c.toNat - '0'.toNat + 26)
  else none

def base : Nat := 36

/-- The greatest number of steps and the greatest weight of a digit. -/
def maxNumber : Nat := 0x7FFFFFFF

/-- The least value with which a digit does not end its number, by the digits before it and the
bias. -/
def threshold (before bias : Nat) : Nat := min 26 (max 1 ((before + 1) * base - bias))

def biasOf (size : Nat) : Nat :=
  if 455 < size then base + biasOf (size / 35) else base * size / (size + 38)
termination_by size

/-- The bias after a number of steps that led to a label of a length; the first number is taken for
much smaller than it is. -/
def biasAfter (steps length : Nat) (isFirst : Bool) : Nat :=
  let size := if isFirst then steps / 700 else steps / 2
  biasOf (size + size / length)

structure Reading where
  chars : List Char
  code : Nat
  place : Nat
  bias : Nat
  digits : Nat
  weight : Nat
  /-- The place, with the steps added that have been read. -/
  reached : Nat
  deriving DecidableEq, Repr

namespace Reading

/-- The reading of a label of which only the ASCII characters are known. -/
def start (chars : List Char) : Reading := ⟨chars, 0x80, 0, 72, 0, 1, 0⟩

def insert? (r : Reading) : Option Reading :=
  let length := r.chars.length + 1
  let code := r.code + r.reached / length
  let place := r.reached % length
  if code.isValidChar then
    some { chars := r.chars.insertIdx place (Char.ofNat code)
           code := code
           place := place + 1
           bias := biasAfter (r.reached - r.place) length (r.place == 0)
           digits := 0
           weight := 1
           reached := place + 1 }
  else none

def stepBy? (r : Reading) (value : Nat) : Option Reading :=
  let reached := r.reached + value * r.weight
  let limit := threshold r.digits r.bias
  let weight := r.weight * (base - limit)
  if maxNumber < reached then none
  else if value < limit then insert? { r with reached := reached }
  else if maxNumber < weight then none
  else some { r with reached := reached, digits := r.digits + 1, weight := weight }

def step? (r : Reading) (c : Char) : Option Reading := (digit? c).bind r.stepBy?

end Reading

/-- The characters that a label in ASCII characters is written for. -/
def decode? (label : List Char) : Option (List Char) := do
  let (plain, digits) := Text.aroundLast '-' label
  let r ← digits.foldlM Reading.step? (.start plain)
  if r.digits = 0 then some r.chars else none

end SlackCourier.Host.Punycode
