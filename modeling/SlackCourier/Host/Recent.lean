import SlackCourier.Host.Span

/-!
# Recent characters

Characters that came into use after the properties of all others had been settled.  They may stand
in names of hosts, and what they fold to is known, but nothing else is: none of them counts as a
mark at the beginning of a label, as a sign that takes a vowel away, or as written in any direction.
-/

namespace SlackCourier.Host

def recentTable : List String := [
  "61D 870-89F 8B5 8C8-8D2 C3C C5D CDD CF3 ECE 170D 1715-171F 1AC1-1ACE 1B4C 1B7D-1B7E 1DFA 20C0",
  "2C5F 2E53-2E5D 9FFD-9FFF A7C1 A7D1-A7D9 FBC2 FD40-FDCF FDFE-FDFF 10597-105BC 10780 10EFD-10EFF",
  "10F70-10F89 11070-11075 110C2 1123F-11241 116B9 11740-11746 11AB0-11ABF 11B00-11B09 11F00-11F59",
  "12F90-12FF2 1342F-13455 16A70-16AC9 1AFF0-1AFFE 1B11F-1B132 1B155 1CF00-1CFC3 1D1E9-1D1EA",
  "1D2C0-1D2D3 1DF00-1DF2A 1E08F 1E290-1E2AE 1E4D0-1E7FE 1F6DC-1F6DF 1F774-1F77F 1F7D9 1F7F0 1F979",
  "1F9CC 1FA75-1FA77 1FA7B-1FA7C 1FA87-1FA88 1FAA9-1FAAF 1FAB7-1FABF 1FAC3-1FACF 1FAD7-1FAF8",
  "2A6DE-2A6DF 2B735-2B739 31350-323AF"]

def recentSpans : List Span := Span.ofTable recentTable

def isRecent (c : Char) : Bool := Span.anyContains recentSpans c

end SlackCourier.Host
