import SlackCourier.Json.Value
import SlackCourier.Text.Hex

/-!
# Reading JSON text

The strict grammar: four blanks, no comments, no trailing commas, no leading zeros.  A name that
occurs twice in an object keeps its first place and its last value.  An escape by number writes one
unit, so two of them can write a pair, and one can write half a pair.
-/

namespace SlackCourier.Json

def isGap (u : UInt16) : Bool :=
  u == Text.unit ' ' || u == Text.unit '\t' || u == Text.unit '\n' || u == Text.unit '\r'

def skipGap (us : List UInt16) : List UInt16 := us.dropWhile isGap

def skipWord? (word : String) (us : List UInt16) : Option (List UInt16) :=
  (Text.ofString word).units.isPrefixOf? us

/-- What a letter stands for after a backslash, `u` apart. -/
def escapeCode? (c : Char) : Option UInt16 :=
  if c = '"' ∨ c = '\\' ∨ c = '/' then some (Text.unit c)
  else if c = 'b' then some 0x08
  else if c = 'f' then some 0x0C
  else if c = 'n' then some 0x0A
  else if c = 'r' then some 0x0D
  else if c = 't' then some 0x09
  else none

/-- Where the reader of a string stands: between characters, after a backslash, or within the four
digits of an escape with so many still to come after the next. -/
inductive StringState where
  | plain
  | escape
  | digits (left : Nat) (value : UInt16)

/-- The units of a string up to its closing quote, and what follows it. -/
def readUnits : StringState → List UInt16 → Option (List UInt16 × List UInt16)
  | _, [] => none
  | .plain, u :: rest =>
    if u = Text.unit '"' then some ([], rest)
    else if u = Text.unit '\\' then readUnits .escape rest
    else if u < 0x20 then none
    else (readUnits .plain rest).map fun (us, after) => (u :: us, after)
  | .escape, u :: rest =>
    if u = Text.unit 'u' then readUnits (.digits 3 0) rest
    else match escapeCode? (Text.lonely u) with
      | some code => (readUnits .plain rest).map fun (us, after) => (code :: us, after)
      | none => none
  | .digits left value, u :: rest =>
    match Text.hexValue? (Text.lonely u) with
    | none => none
    | some digit =>
      let value := value * 16 + UInt16.ofNat digit
      match left with
      | 0 => (readUnits .plain rest).map fun (us, after) => (value :: us, after)
      | left + 1 => readUnits (.digits left value) rest

/-- A string after its opening quote, and what follows it. -/
def readString (us : List UInt16) : Option (Text × List UInt16) :=
  (readUnits .plain us).map fun (us, after) => (⟨us⟩, after)

/-- The fraction at the front of a list, empty if there is none; `none` if it has no digits. -/
def readFraction (cs : List Char) : Option (List Char × List Char) :=
  match cs with
  | '.' :: rest =>
    let (run, after) := digitRun rest
    if run = [] then none else some (run, after)
  | rest => some ([], rest)

def numberOf? (cs : List Char) : Option Double := do
  let (negative, cs) := match cs with
    | '-' :: rest => (true, rest)
    | rest => (false, rest)
  let (whole, cs) := digitRun cs
  if whole = [] ∨ (whole.head? = some '0' ∧ whole ≠ ['0']) then none
  let (fraction, cs) ← readFraction cs
  let (exponent, cs) ← exponentPart cs
  if cs = [] then some ((Numeral.mk whole fraction exponent).toDouble negative) else none

/-- Whether a unit may stand in a number.  No such unit can follow a number directly. -/
def isNumeric (u : UInt16) : Bool :=
  let c := Text.lonely u
  isDecimalDigit c || c == '-' || c == '+' || c == '.' || c == 'e' || c == 'E'

/-- A number at the front of a list, and what follows it. -/
def readNumber (us : List UInt16) : Option (Double × List UInt16) :=
  (numberOf? ((us.takeWhile isNumeric).map Text.lonely)).map fun d => (d, us.dropWhile isNumeric)

/-- A value that is a single word, and what follows it. -/
def readWord (us : List UInt16) : Option (Json × List UInt16) :=
  ((skipWord? "null" us).map fun after => (.null, after)).orElse fun _ =>
    ((skipWord? "true" us).map fun after => (.bool true, after)).orElse fun _ =>
      (skipWord? "false" us).map fun after => (.bool false, after)

mutual

/-- A value at the front of a list, and what follows it.  The fuel bounds the number of values,
items and members that are begun. -/
def readValue : Nat → List UInt16 → Option (Json × List UInt16)
  | 0, _ => none
  | _ + 1, [] => none
  | fuel + 1, u :: rest =>
    match Text.lonely u with
    | '"' => (readString rest).map fun (s, after) => (.string s, after)
    | '[' =>
      match skipWord? "]" (skipGap rest) with
      | some after => some (.list [], after)
      | none => (readItems fuel (skipGap rest)).map fun (items, after) => (.list items, after)
    | '\x7b' =>
      match skipWord? "\x7d" (skipGap rest) with
      | some after => some (.object [], after)
      | none =>
        (readMembers fuel (skipGap rest)).map fun (pairs, after) =>
          (.object (Members.ofPairs pairs), after)
    | _ =>
      (readWord (u :: rest)).orElse fun _ =>
        (readNumber (u :: rest)).map fun (d, after) => (.number d, after)

/-- The items of a list up to its end, at least one, and what follows. -/
def readItems : Nat → List UInt16 → Option (List Json × List UInt16)
  | 0, _ => none
  | fuel + 1, us => do
    let (value, rest) ← readValue fuel us
    match skipGap rest with
    | [] => none
    | u :: more =>
      match Text.lonely u with
      | ']' => some ([value], more)
      | ',' =>
        let (items, after) ← readItems fuel (skipGap more)
        some (value :: items, after)
      | _ => none

/-- The members of an object up to its end, at least one, in the order of the text, and what
follows. -/
def readMembers : Nat → List UInt16 → Option (List (Text × Json) × List UInt16)
  | 0, _ => none
  | fuel + 1, us => do
    let (name, rest) ← readString (← skipWord? "\"" us)
    let (value, rest) ← readValue fuel (skipGap (← skipWord? ":" (skipGap rest)))
    match skipGap rest with
    | [] => none
    | u :: more =>
      match Text.lonely u with
      | '\x7d' => some ([(name, value)], more)
      | ',' =>
        let (members, after) ← readMembers fuel (skipGap more)
        some ((name, value) :: members, after)
      | _ => none

end

/-- The value that a text writes, `none` if it is not JSON.  No text of `n` units begins more than
`2 * n` values, items and members. -/
def parse (text : Text) : Option Json :=
  match readValue (2 * text.length + 2) (skipGap text.units) with
  | some (value, rest) => if skipGap rest = [] then some value else none
  | none => none

end SlackCourier.Json
