import SlackCourier.Text.Hex
import SlackCourier.Text.Occurrence

/-!
# Spans of characters

Classes of characters are kept as tables: rows of words, with blanks between the words of a row.  A
word is a code point in hexadecimal digits, or two of them with a hyphen between, for all characters
from the first to the last.
-/

namespace SlackCourier.Host

/-- All characters from a first to a last one, by code point. -/
structure Span where
  first : Nat
  last : Nat
  deriving DecidableEq, Repr

namespace Span

def contains (span : Span) (c : Char) : Bool :=
  decide (span.first ≤ c.toNat) && decide (c.toNat ≤ span.last)

/-- The code point that hexadecimal digits write. -/
def codeOf (digits : List Char) : Nat := (Text.valueIn 16 digits).getD 0

def ofWord (word : List Char) : Span :=
  match Text.splitList '-' word with
  | [first, last] => ⟨codeOf first, codeOf last⟩
  | _ => ⟨codeOf word, codeOf word⟩

def words (table : List String) : List (List Char) :=
  table.flatMap fun row => (Text.splitList ' ' row.toList).filter (· != [])

def ofTable (table : List String) : List Span := (words table).map ofWord

def anyContains (spans : List Span) (c : Char) : Bool := spans.any (·.contains c)

end Span

end SlackCourier.Host
