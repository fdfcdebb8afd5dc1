import SlackCourier.Text.Units

/-!
# Text as bytes

The UTF-8 bytes of a text, and the reading of arbitrary bytes as text.  Reading never fails: each
longest part that begins a character but is not continued as one becomes a single replacement
character, and reading goes on at the byte that broke it.
-/

namespace SlackCourier.Text

abbrev Bytes := List UInt8

def encodeList (cs : List Char) : Bytes := cs.flatMap String.utf8EncodeChar

def encodeUtf8 (text : Text) : Bytes := encodeList text.chars

/-- What a reader has seen of a character: the value so far, how many bytes are still owed, and the
range the next one must lie in. -/
structure Partial where
  value : Nat
  owed : Nat
  low : Nat
  high : Nat

/-- What a first byte begins: nothing at all, a whole character, or a part of one. -/
def firstByte (b : Nat) : Option (Char ⊕ Partial) :=
  if b < 0x80 then some (.inl (Char.ofNat b))
  else if 0xC2 ≤ b ∧ b ≤ 0xDF then some (.inr ⟨b % 32, 0, 0x80, 0xBF⟩)
  else if b = 0xE0 then some (.inr ⟨b % 16, 1, 0xA0, 0xBF⟩)
  else if b = 0xED then some (.inr ⟨b % 16, 1, 0x80, 0x9F⟩)
  else if 0xE1 ≤ b ∧ b ≤ 0xEF then some (.inr ⟨b % 16, 1, 0x80, 0xBF⟩)
  else if b = 0xF0 then some (.inr ⟨b % 8, 2, 0x90, 0xBF⟩)
  else if b = 0xF4 then some (.inr ⟨b % 8, 2, 0x80, 0x8F⟩)
  else if 0xF1 ≤ b ∧ b ≤ 0xF3 then some (.inr ⟨b % 8, 2, 0x80, 0xBF⟩)
  else none

/-- Reads one byte between characters: the characters it completes and the part it begins. -/
def startChar (b : Nat) : List Char × Option Partial :=
  match firstByte b with
  | none => ([replacement], none)
  | some (.inl c) => ([c], none)
  | some (.inr part) => ([], some part)

/-- Reads one byte: the characters it completes and the part that is open after it. -/
def readByte (open? : Option Partial) (b : Nat) : List Char × Option Partial :=
  match open? with
  | none => startChar b
  | some part =>
    if part.low ≤ b ∧ b ≤ part.high then
      let value := part.value * 64 + b % 64
      match part.owed with
      | 0 => ([Char.ofNat value], none)
      | owed + 1 => ([], some ⟨value, owed, 0x80, 0xBF⟩)
    else
      let (cs, next) := startChar b
      (replacement :: cs, next)

/-- Reads bytes as characters, `open?` being the part of a character before them. -/
def decodeFrom (open? : Option Partial) : Bytes → List Char
  | [] => if open?.isSome then [replacement] else []
  | b :: rest =>
    let (cs, next) := readByte open? b.toNat
    cs ++ decodeFrom next rest

def decodeUtf8 (bytes : Bytes) : Text := ofChars (decodeFrom none bytes)

def byteOrderMark : Char := '\uFEFF'

/-- A text without the byte order marks at its front, of which at most two are dropped: one with the
encoding, and one as an invisible character. -/
def dropByteOrderMarks (text : Text) : Text :=
  text.drop ((text.units.take 2).takeWhile (· == unit byteOrderMark)).length

end SlackCourier.Text
