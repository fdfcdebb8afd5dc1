import SlackCourier.Host.CompositionTable
import SlackCourier.Host.Span

/-!
# Composition of characters

One text may be written in several ways: a letter with a mark on it is one character or two, and
marks that do not touch each other come in any order.  The composed form takes characters apart,
puts the marks behind each letter into the order of their classes, and puts together what can be.
The syllables of Korean are composed by a rule; all other characters that can be taken apart stand
in a table.
-/

namespace SlackCourier.Host.Composition

def markSpans : List (Nat × List Span) :=
  markTable.map fun (number, table) => (number, Span.ofTable table)

/-- The class of a character: zero if it is no mark. -/
def classOf (c : Char) : Nat :=
  ((markSpans.find? fun (_, spans) => Span.anyContains spans c).map (·.1)).getD 0

structure Composite where
  parts : List Char
  whole : Char
  deriving DecidableEq, Repr

/-- The character that a word of the table writes behind its parts. -/
def Composite.ofWord (word : List Char) : Composite :=
  { parts := (Text.splitList '+' (word.takeWhile (· != '='))).map fun part =>
      Char.ofNat (Span.codeOf part)
    whole := Char.ofNat (Span.codeOf ((word.dropWhile (· != '=')).drop 1)) }

def composites : List Composite := (Span.words partTable).map Composite.ofWord

def firstSyllable : Nat := 0xAC00

/-- The number of consonants that begin a syllable. -/
def openings : Nat := 19

def vowels : Nat := 21

/-- The number of ways in which a syllable ends, one of them without a consonant. -/
def closings : Nat := 28

/-- The number of syllables that begin with the same consonant. -/
def family : Nat := vowels * closings

/-- The code point of the first consonant at the beginning of a syllable. -/
def firstOpening : Nat := 0x1100

def firstVowel : Nat := 0x1161

/-- The code point before the first consonant at the end of a syllable. -/
def noClosing : Nat := 0x11A7

def syllable? (c : Char) : Option Nat :=
  if firstSyllable ≤ c.toNat ∧ c.toNat - firstSyllable < openings * family then
    some (c.toNat - firstSyllable)
  else none

/-- The parts of the syllable at a place: a consonant, a vowel, and a consonant unless it is
open. -/
def syllableParts (n : Nat) : List Char :=
  let front :=
    [Char.ofNat (firstOpening + n / family), Char.ofNat (firstVowel + n % family / closings)]
  if n % closings = 0 then front else front ++ [Char.ofNat (noClosing + n % closings)]

def openSyllable? (opening vowel : Char) : Option Nat :=
  let o := opening.toNat - firstOpening
  let v := vowel.toNat - firstVowel
  if firstOpening ≤ opening.toNat ∧ o < openings ∧ firstVowel ≤ vowel.toNat ∧ v < vowels then
    some (o * family + v * closings)
  else none

def syllableOf? : List Char → Option Nat
  | [opening, vowel] => openSyllable? opening vowel
  | [opening, vowel, closing] =>
    let c := closing.toNat - noClosing
    if 0 < c ∧ c < closings then (openSyllable? opening vowel).map (· + c) else none
  | _ => none

/-- The parts of a character; one that cannot be taken apart is its only part. -/
def partsOf (c : Char) : List Char :=
  match syllable? c with
  | some n => syllableParts n
  | none => ((composites.find? (·.whole == c)).map (·.parts)).getD [c]

def wholeOf? (parts : List Char) : Option Char :=
  match syllableOf? parts with
  | some n => some (Char.ofNat (firstSyllable + n))
  | none => (composites.find? (·.parts == parts)).map (·.whole)

/-- A list in order with one more character in front, which goes behind the marks of lower
classes if it is a mark itself. -/
def insertMark (c : Char) : List Char → List Char
  | [] => [c]
  | d :: rest =>
    if 0 < classOf d ∧ classOf d < classOf c then d :: insertMark c rest else c :: d :: rest

/-- Characters with the marks behind each letter in the order of their classes. -/
def ordered (cs : List Char) : List Char := cs.foldr insertMark []

/-- Whether a mark is put to the letter before it past the marks between the two: they have lower
classes. -/
def isReached (between : List Char) (c : Char) : Bool := between.all fun d => classOf d < classOf c

/-- Puts characters together with the letter before them, `between` being the marks behind the
letter that stay, the last one first. -/
def composeWith (letter : Char) (between : List Char) : List Char → List Char
  | [] => letter :: between.reverse
  | c :: rest =>
    match if isReached between c then wholeOf? (partsOf letter ++ [c]) else none with
    | some d => composeWith d between rest
    | none =>
      if classOf c = 0 then letter :: between.reverse ++ composeWith c [] rest
      else composeWith letter (c :: between) rest

/-- Characters with every mark put together with the letter before it where that can be. -/
def compose : List Char → List Char
  | [] => []
  | c :: rest => if classOf c = 0 then composeWith c [] rest else c :: compose rest

def composed (cs : List Char) : List Char := compose (ordered (cs.flatMap partsOf))

end SlackCourier.Host.Composition
