import SlackCourier.Host.Composition
import SlackCourier.Host.Recent

/-!
# Joiners

Two invisible characters tell letters beside them to join or not to join.  They may stand where they
are seen: behind a sign that takes the vowel from a letter, and the one that parts letters also
between letters that would join.  Only letters in the tables count as joining.
-/

namespace SlackCourier.Host.Joining

def parter : Char := '\u200C'

def joiner : Char := '\u200D'

def bothTable : List String := [
  "620 626 628 62A-62E 633-63F 641-647 649-64A 66E-66F 679-687 69A-6BF 6C1-6C2 6CC 6CE 6D0-6D1",
  "6FA-6FC 6FF 712-714 71A-71D 71F-727 729 72B 72D-72E 74E-758 75C-766 850-853 855 8A0 8A2-8A9",
  "1807 1820-1877 1887-18A8 18AA A840-A871"]

/-- The table of letters that join with the one before them only. -/
def backwardTable : List String := [
  "622-625 627 629 62F-632 648 671-673 688-699 6C0 6C3-6CB 6CD 6CF 6D2-6D3 6D5 6EE-6EF 710 715-719",
  "71E 728 72A 72C 72F 74D 759-75B 854 8AA-8AC"]

/-- The table of letters that join with the one behind them only. -/
def forwardTable : List String := [
  "A872"]

def backwardSpans : List Span := Span.ofTable (bothTable ++ backwardTable)

def forwardSpans : List Span := Span.ofTable (bothTable ++ forwardTable)

/-- The class of the signs that take the vowel from a letter. -/
def vowelless : Nat := 9

def isVowelless (c : Char) : Bool := Composition.classOf c == vowelless && !isRecent c

/-- Whether the first joiner among characters may stand where it does, `before` being the characters
before these, the last one first; nothing if there is no joiner. -/
def verdict? (before : List Char) : List Char → Option Bool
  | [] => none
  | c :: rest =>
    if c = parter then
      some (before.head?.any isVowelless ||
        (before.any (Span.anyContains forwardSpans) && rest.any (Span.anyContains backwardSpans)))
    else if c = joiner then some (before.head?.any isVowelless)
    else verdict? (c :: before) rest

end SlackCourier.Host.Joining
