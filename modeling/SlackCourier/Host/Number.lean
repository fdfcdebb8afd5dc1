import SlackCourier.Text.Hex
import SlackCourier.Text.Occurrence

/-!
# Hosts that are numbers

A host may be four numbers, the last one standing for all that are left out, or eight groups of
hexadecimal digits, a double colon standing for the groups that are left out.
-/

namespace SlackCourier.Host

/-- The number that a part of a name writes: hexadecimal after `0x`, octal after a zero. -/
def number? : List Char → Option Nat
  | [] => none
  | '0' :: 'x' :: rest | '0' :: 'X' :: rest => Text.valueIn 16 rest
  | '0' :: rest => Text.valueIn 8 rest
  | cs => Text.valueIn 10 cs

/-- The parts of a name between its points; an empty part at the end does not count. -/
def numberParts (name : List Char) : List (List Char) :=
  let all := Text.splitList '.' name
  if all.length > 1 ∧ all.getLast? = some [] then all.dropLast else all

def endsInNumber (name : List Char) : Bool :=
  match (numberParts name).getLast? with
  | some part => part != [] && (part.all Char.isDigit || (number? part).isSome)
  | none => false

/-- Whether numbers make an address of four bytes: all but the last are a byte each, and the last
fills the bytes that are left. -/
def isQuad (numbers : List Nat) : Bool :=
  decide (numbers.length ≤ 4) && numbers.dropLast.all (fun n => decide (n < 256)) &&
    numbers.getLast?.any fun n => decide (n < Nat.pow 256 (5 - numbers.length))

def isNumeric (name : List Char) : Bool :=
  match (numberParts name).mapM number? with
  | some numbers => isQuad numbers
  | none => false

def isGroup (piece : List Char) : Bool :=
  piece != [] && decide (piece.length ≤ 4) && piece.all fun c => (Text.hexValue? c).isSome

/-- Whether a piece is a byte in decimal digits, without a zero at its front. -/
def isByte (piece : List Char) : Bool :=
  piece.all Char.isDigit && (piece == ['0'] || piece.head?.any (· != '0')) &&
    (Text.valueIn 10 piece).any fun n => decide (n < 256)

/-- How many groups the last piece stands for: four bytes stand for two. -/
def lastGroups? (piece : List Char) : Option Nat :=
  let bytes := Text.splitList '.' piece
  if isGroup piece then some 1
  else if bytes.length = 4 ∧ bytes.all isByte then some 2
  else none

def groups? (pieces : List (List Char)) : Option Nat :=
  match pieces.getLast? with
  | none => some 0
  | some last =>
    if pieces.dropLast.all isGroup then (lastGroups? last).map (· + (pieces.length - 1)) else none

/-- The pieces between colons; an empty list has none. -/
def groupPieces (cs : List Char) : List (List Char) :=
  if cs = [] then [] else Text.splitList ':' cs

def aroundGap? : List Char → Option (List Char × List Char)
  | ':' :: ':' :: rest => some ([], rest)
  | c :: rest => (aroundGap? rest).map fun (front, back) => (c :: front, back)
  | [] => none

/-- Whether the text between brackets is an address of eight groups; a double colon stands for the
groups that are left out, of which there is at least one. -/
def isGrouped (cs : List Char) : Bool :=
  match aroundGap? cs with
  | none => groups? (groupPieces cs) == some 8
  | some (front, back) =>
    (groupPieces front).all isGroup &&
      (groups? (groupPieces back)).any fun n => decide ((groupPieces front).length + n ≤ 7)

end SlackCourier.Host
