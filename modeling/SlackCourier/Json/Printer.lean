import SlackCourier.Json.Value
import SlackCourier.Number.Written
import SlackCourier.Text.Hex

/-!
# JSON text

The compact text of a value, without any blanks, and its indented text, two blanks a level.  In a
string only the quote, the backslash, the control characters and lonely halves of pairs are escaped.
An infinity has no JSON text and is written `null`.
-/

namespace SlackCourier.Json

def plainUnits (s : String) : List UInt16 := Text.unitsOf s.toList

/-- The escape of a unit by its number, in four digits. -/
def escapeNumber (u : UInt16) : List UInt16 :=
  Text.unitsOf ('\\' :: 'u' :: Text.byteHex (u >>> 8).toUInt8 ++ Text.byteHex u.toUInt8)

def shortEscape? (c : Char) : Option Char :=
  if c = '"' ∨ c = '\\' then some c
  else if c = '\x08' then some 'b'
  else if c = '\t' then some 't'
  else if c = '\n' then some 'n'
  else if c = '\x0c' then some 'f'
  else if c = '\r' then some 'r'
  else none

def escapeUnit (u : UInt16) : List UInt16 :=
  match shortEscape? (Text.lonely u) with
  | some letter => [Text.unit '\\', Text.unit letter]
  | none => if u < 0x20 || Text.isHighHalf u || Text.isLowHalf u then escapeNumber u else [u]

def escapeUnits : List UInt16 → List UInt16
  | [] => []
  | [u] => escapeUnit u
  | u :: v :: rest =>
    if Text.isHighHalf u && Text.isLowHalf v then u :: v :: escapeUnits rest
    else escapeUnit u ++ escapeUnits (v :: rest)

def quoteUnits (text : Text) : List UInt16 :=
  Text.unit '"' :: escapeUnits text.units ++ [Text.unit '"']

def numberUnits (d : Double) : List UInt16 := plainUnits (if d.isInfinite then "null" else d.text)

mutual

def compactUnits : Json → List UInt16
  | .null => plainUnits "null"
  | .bool true => plainUnits "true"
  | .bool false => plainUnits "false"
  | .number d => numberUnits d
  | .string s => quoteUnits s
  | .list [] => plainUnits "[]"
  | .list (v :: rest) => Text.unit '[' :: compactUnits v ++ compactItems rest
  | .object [] => plainUnits "\x7b\x7d"
  | .object ((k, v) :: rest) =>
    Text.unit '\x7b' :: quoteUnits k ++ Text.unit ':' :: compactUnits v ++ compactMembers rest

/-- The further items of a list, and its end. -/
def compactItems : List Json → List UInt16
  | [] => [Text.unit ']']
  | v :: rest => Text.unit ',' :: compactUnits v ++ compactItems rest

/-- The further members of an object, and its end. -/
def compactMembers : List (Text × Json) → List UInt16
  | [] => [Text.unit '\x7d']
  | (k, v) :: rest =>
    Text.unit ',' :: quoteUnits k ++ Text.unit ':' :: compactUnits v ++ compactMembers rest

end

def newLine (level : Nat) : List UInt16 :=
  Text.unit '\n' :: List.replicate (2 * level) (Text.unit ' ')

mutual

/-- The units of the indented text of a value at a level of nesting. -/
def indentedUnits (level : Nat) : Json → List UInt16
  | .null => plainUnits "null"
  | .bool true => plainUnits "true"
  | .bool false => plainUnits "false"
  | .number d => numberUnits d
  | .string s => quoteUnits s
  | .list [] => plainUnits "[]"
  | .list (v :: rest) =>
    Text.unit '[' :: newLine (level + 1) ++ indentedUnits (level + 1) v ++
      indentedItems level rest
  | .object [] => plainUnits "\x7b\x7d"
  | .object ((k, v) :: rest) =>
    Text.unit '\x7b' :: newLine (level + 1) ++ quoteUnits k ++ plainUnits ": " ++
      indentedUnits (level + 1) v ++ indentedMembers level rest

/-- The further items of a list at a level, and its end. -/
def indentedItems (level : Nat) : List Json → List UInt16
  | [] => newLine level ++ [Text.unit ']']
  | v :: rest =>
    Text.unit ',' :: newLine (level + 1) ++ indentedUnits (level + 1) v ++ indentedItems level rest

/-- The further members of an object at a level, and its end. -/
def indentedMembers (level : Nat) : List (Text × Json) → List UInt16
  | [] => newLine level ++ [Text.unit '\x7d']
  | (k, v) :: rest =>
    Text.unit ',' :: newLine (level + 1) ++ quoteUnits k ++ plainUnits ": " ++
      indentedUnits (level + 1) v ++ indentedMembers level rest

end

def compact (value : Json) : Text := ⟨compactUnits value⟩

/-- The text of a value, indented by two blanks a level. -/
def indented (value : Json) : Text := ⟨indentedUnits 0 value⟩

end SlackCourier.Json
