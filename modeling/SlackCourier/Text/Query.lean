import SlackCourier.Text.Hex
import SlackCourier.Text.Occurrence
import SlackCourier.Text.Utf8

/-!
# Query strings

Lists of names and values written in the form encoding, and its reading.  A space becomes `+`;
letters, digits and `*`, `-`, `.`, `_` stand for themselves; of every other character each UTF-8
byte becomes `%` and two upper-case digits.  So neither `&` nor `=` can come out of a value.
-/

namespace SlackCourier.Text

/-- Whether a character stands for itself in the form encoding. -/
def isFormSafe (c : Char) : Bool :=
  ('A' ≤ c && c ≤ 'Z') || ('a' ≤ c && c ≤ 'z') || ('0' ≤ c && c ≤ '9') ||
    c == '*' || c == '-' || c == '.' || c == '_'

def percentByte (b : UInt8) : List Char := '%' :: byteHexUpper b

def formChar (c : Char) : List Char :=
  if c = ' ' then ['+']
  else if isFormSafe c then [c]
  else (String.utf8EncodeChar c).flatMap percentByte

def formList (cs : List Char) : List Char := cs.flatMap formChar

def formPair (pair : Text × Text) : List Char :=
  formList pair.1.chars ++ '=' :: formList pair.2.chars

/-- Names and values in the order given, joined by `&`. -/
def formEncode (pairs : List (Text × Text)) : Text :=
  ofChars (joinList ['&'] (pairs.map formPair))

/-- A name with its value, present when there is a value. -/
def parameter (name : Text) (value : Option Text) : List (Text × Text) :=
  (value.map fun v => (name, v)).toList

/-- The bytes that characters with escapes stand for; a `%` without two digits stands for itself. -/
def percentBytes : List Char → Bytes
  | [] => []
  | '%' :: high :: low :: rest =>
    match hexValue? high, hexValue? low with
    | some h, some l => UInt8.ofNat (h * 16 + l) :: percentBytes rest
    | _, _ => 0x25 :: percentBytes (high :: low :: rest)
  | c :: rest => String.utf8EncodeChar c ++ percentBytes rest

def percentText (cs : List Char) : Text := decodeUtf8 (percentBytes cs)

def formText (cs : List Char) : Text := percentText (cs.map fun c => if c = '+' then ' ' else c)

/-- The name and the value of an encoded pair; a pair without `=` has an empty value. -/
def formUnpair (cs : List Char) : Text × Text :=
  let name := cs.takeWhile (· != '=')
  (formText name, formText ((cs.dropWhile (· != '=')).drop 1))

/-- The names and values of a query string; empty pieces are passed over. -/
def formDecode (query : Text) : List (Text × Text) :=
  ((splitList '&' query.chars).filter (· != [])).map formUnpair

end SlackCourier.Text
