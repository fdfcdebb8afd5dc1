import SlackCourier.Host.FoldingTable
import SlackCourier.Host.Span

/-!
# Folding of characters

Names of hosts are compared by what their characters stand for: a capital for its small letter, a
wide or an encircled form for the plain one, a ligature for its letters.  Some characters stand for
nothing, and some may not be used at all.
-/

namespace SlackCourier.Host

structure FoldingRule where
  span : Span
  step : Nat
  /-- What the first character stands for; what the others stand for is as far from it as they are
  from the first. -/
  image : List Nat
  deriving DecidableEq, Repr

namespace FoldingRule

def ofWord (word : List Char) : FoldingRule :=
  let source := word.takeWhile (· != '=')
  let image := (word.dropWhile (· != '=')).drop 1
  { span := Span.ofWord (source.takeWhile (· != '/'))
    step := if source.contains '/' then 2 else 1
    image := (Text.splitList '+' image).map Span.codeOf }

def image? (rule : FoldingRule) (c : Char) : Option (List Char) :=
  let distance := c.toNat - rule.span.first
  if rule.span.contains c && distance % rule.step == 0 then
    some (rule.image.map fun n => Char.ofNat (n + distance))
  else none

end FoldingRule

def foldingRules : List FoldingRule := (Span.words foldingTable).map FoldingRule.ofWord

def refusedSpans : List Span := Span.ofTable refusedTable

def ignoredSpans : List Span := Span.ofTable ignoredTable

/-- What a character stands for, unless it may not be used. -/
def fold? (c : Char) : Option (List Char) :=
  if Span.anyContains refusedSpans c then none
  else if Span.anyContains ignoredSpans c then some []
  else some ((foldingRules.findSome? fun rule => rule.image? c).getD [c])

/-- What characters stand for one after another, unless one may not be used. -/
def foldAll? (cs : List Char) : Option (List Char) := (cs.mapM fold?).map List.flatten

def isSettled (c : Char) : Bool := fold? c == some [c]

end SlackCourier.Host
