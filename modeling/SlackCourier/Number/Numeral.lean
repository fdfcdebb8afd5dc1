import SlackCourier.Number.Double
import SlackCourier.Text.Blank
import SlackCourier.Text.Hex

/-!
# Reading numbers

Runs of digits and decimal numerals, shared by the readers of JSON and of settings, and the numerals
of a setting: blanks around are ignored, nothing at all is zero, `0x`, `0o` and `0b` introduce other
bases, and `Infinity` may be written out.
-/

namespace SlackCourier

def isDecimalDigit (c : Char) : Bool := '0' ≤ c && c ≤ '9'

/-- The leading digits of a list, and what follows them. -/
def digitRun (cs : List Char) : List Char × List Char :=
  (cs.takeWhile isDecimalDigit, cs.dropWhile isDecimalDigit)

def digitsValue (cs : List Char) : Nat :=
  cs.foldl (fun n c => n * 10 + (c.toNat - '0'.toNat)) 0

/-- A decimal numeral: the digits before and after the point, and the exponent. -/
structure Numeral where
  whole : List Char
  fraction : List Char
  /-- The written exponent, zero if there is none. -/
  exponent : Int

def Numeral.toDouble (n : Numeral) (negative : Bool) : Double :=
  Double.ofDecimal negative (digitsValue (n.whole ++ n.fraction)) (n.exponent - n.fraction.length)

/-- A sign and what follows it; no sign is a plus. -/
def signed (cs : List Char) : Bool × List Char :=
  match cs with
  | '-' :: rest => (true, rest)
  | '+' :: rest => (false, rest)
  | rest => (false, rest)

/-- The exponent part at the front of a list, zero if there is none; `none` if it has no digits. -/
def exponentPart (cs : List Char) : Option (Int × List Char) :=
  match cs with
  | c :: rest =>
    if c = 'e' ∨ c = 'E' then
      let (negative, digits) := signed rest
      let (run, after) := digitRun digits
      if run = [] then none
      else
        let n : Int := digitsValue run
        some (if negative then -n else n, after)
    else some (0, cs)
  | [] => some (0, [])

/-- The value of digits in a base, `none` for an empty list or a digit not of that base. -/
def digitsInBase? (base : Nat) : List Char → Option Nat
  | [] => none
  | cs => cs.foldlM (fun n c => do
      let v ← Text.hexValue? c
      if v < base then some (n * base + v) else none) 0

/-- A decimal numeral of a setting: at least one digit, before or after an optional point, and an
optional exponent. -/
def decimalSetting? (negative : Bool) (cs : List Char) : Option Double :=
  let (whole, rest) := digitRun cs
  let (fraction, rest) :=
    match rest with
    | '.' :: after => digitRun after
    | other => ([], other)
  if whole = [] ∧ fraction = [] then none
  else match exponentPart rest with
    | some (exponent, []) => some ((Numeral.mk whole fraction exponent).toDouble negative)
    | _ => none

def baseOf? (c : Char) : Option Nat :=
  if c = 'x' ∨ c = 'X' then some 16
  else if c = 'o' ∨ c = 'O' then some 8
  else if c = 'b' ∨ c = 'B' then some 2
  else none

def signedSetting? (cs : List Char) : Option Double :=
  let (negative, rest) := signed cs
  if rest = "Infinity".toList then some (Double.infinity negative)
  else decimalSetting? negative rest

def settingNumber? (text : Text) : Option Double :=
  match Text.trimList Text.isBlank text.chars with
  | [] => some Double.zero
  | '0' :: c :: rest =>
    match baseOf? c with
    | some base => (digitsInBase? base rest).map Double.ofNat
    | none => signedSetting? ('0' :: c :: rest)
  | cs => signedSetting? cs

end SlackCourier
