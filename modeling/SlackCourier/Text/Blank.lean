import SlackCourier.Text.Units

/-!
# Blank characters

The white space and line ends that are trimmed around a number and that may not stand in a Web API
token: the ASCII blanks, the no-break space, the Unicode space separators, the two separators of
lines and paragraphs, and the byte order mark.
-/

namespace SlackCourier.Text

def blankCodes : List Nat :=
  [0x09, 0x0A, 0x0B, 0x0C, 0x0D, 0x20, 0xA0, 0x1680,
   0x2000, 0x2001, 0x2002, 0x2003, 0x2004, 0x2005, 0x2006, 0x2007, 0x2008, 0x2009, 0x200A,
   0x2028, 0x2029, 0x202F, 0x205F, 0x3000, 0xFEFF]

def isBlank (c : Char) : Bool := blankCodes.contains c.toNat

/-- Whether a character is one of the four blanks that may surround a header value. -/
def isHeaderBlank (c : Char) : Bool := c == '\t' || c == '\n' || c == '\r' || c == ' '

def trimList {α : Type} (p : α → Bool) (list : List α) : List α :=
  ((list.dropWhile p).reverse.dropWhile p).reverse

/-- A text without the characters of the basic plane satisfying `p` at its two ends. -/
def trimBy (p : Char → Bool) (text : Text) : Text := ⟨trimList (fun u => p (lonely u)) text.units⟩

end SlackCourier.Text
