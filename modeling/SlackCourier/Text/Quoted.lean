import SlackCourier.Text.Hex
import SlackCourier.Text.Occurrence

/-!
# Quoted texts

How a text is shown inside a message: in quotes, with escapes for what has no look of its own.  A
long text is shown line by line, and no more than a beginning of the whole is given.  The quotes are
single ones, unless those would need escapes and others would not.
-/

namespace SlackCourier.Text

def singleQuote : Char := '\''

def doubleQuote : Char := '"'

def backQuote : Char := '\x60'

def opensPlace : List UInt16 → Bool
  | [] => false
  | u :: rest => (u == unit '$' && rest.head? == some (unit '\x7b')) || opensPlace rest

def quoteOf (units : List UInt16) : Char :=
  if !units.contains (unit singleQuote) then singleQuote
  else if !units.contains (unit doubleQuote) then doubleQuote
  else if !units.contains (unit backQuote) && !opensPlace units then backQuote
  else singleQuote

/-- The letter that stands after a backslash for a control character. -/
def controlLetter? (u : UInt16) : Option Char :=
  if u = unit '\x08' then some 'b'
  else if u = unit '\t' then some 't'
  else if u = unit '\n' then some 'n'
  else if u = unit '\x0c' then some 'f'
  else if u = unit '\r' then some 'r'
  else none

def isControl (u : UInt16) : Bool := u < 0x20 || (0x7F ≤ u && u < 0xA0)

/-- How a unit that is not one of a pair is shown between quotes. -/
def shownUnit (quote : Char) (u : UInt16) : List UInt16 :=
  match controlLetter? u with
  | some letter => unitsOf ['\\', letter]
  | none =>
    if u = unit quote ∨ u = unit '\\' then [unit '\\', u]
    else if isControl u then unitsOf ('\\' :: 'x' :: byteHexUpper u.toUInt8)
    else if isHighHalf u || isLowHalf u then
      unitsOf ('\\' :: 'u' :: byteHex (u >>> 8).toUInt8 ++ byteHex u.toUInt8)
    else [u]

def shownUnits (quote : Char) : List UInt16 → List UInt16
  | [] => []
  | [u] => shownUnit quote u
  | u :: v :: rest =>
    if isHighHalf u && isLowHalf v then u :: v :: shownUnits quote rest
    else shownUnit quote u ++ shownUnits quote (v :: rest)

def inQuotes (units : List UInt16) : List UInt16 :=
  let quote := quoteOf units
  unit quote :: shownUnits quote units ++ [unit quote]

/-- The lines of a list of units, each with the line end that closes it. -/
def lines : List UInt16 → List (List UInt16)
  | [] => []
  | u :: rest =>
    if u = unit '\n' then [u] :: lines rest
    else match lines rest with
      | [] => [[u]]
      | line :: more => (u :: line) :: more

/-- The greatest number of units that are looked at. -/
def maxSeen : Nat := 10000

/-- The greatest number of units that are shown as one piece. -/
def maxPiece : Nat := 76

/-- The greatest number of units in an excerpt. -/
def maxExcerpt : Nat := 128

def pieceJoint : Text := " +\n  "

def shown (text : Text) : Text :=
  let seen := text.units.take maxSeen
  if seen.length ≤ maxPiece then ⟨inQuotes seen⟩
  else ⟨joinList pieceJoint.units ((lines seen).map inQuotes)⟩

def excerpt (text : Text) : Text :=
  if text.shown.length ≤ maxExcerpt then text.shown else text.shown.take maxExcerpt ++ "..."

end SlackCourier.Text
