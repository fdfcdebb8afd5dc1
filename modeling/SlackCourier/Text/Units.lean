/-!
# Texts

A text is a sequence of 16-bit units.  A character of the basic plane is one unit, every other
character is a pair of halves.  Nothing asks that halves come in pairs: data from outside may hold
half a pair, and cutting a text between two units may leave one.  Where characters are needed, half
a pair is taken for the replacement character.
-/

namespace SlackCourier

/-- A text. -/
structure Text where
  units : List UInt16
  deriving DecidableEq, Repr

namespace Text

/-- The character shown where text cannot be: half of a pair, or a malformed byte sequence. -/
def replacement : Char := '\uFFFD'

/-- The unit of a character of the basic plane. -/
def unit (c : Char) : UInt16 := UInt16.ofNat c.toNat

def isHighHalf (u : UInt16) : Bool := 0xD800 ≤ u.toNat && u.toNat < 0xDC00

def isLowHalf (u : UInt16) : Bool := 0xDC00 ≤ u.toNat && u.toNat < 0xE000

/-- The first half of the pair for the `n`-th character beyond the basic plane. -/
def highHalf (n : Nat) : UInt16 := UInt16.ofNat (0xD800 + n / 0x400)

/-- The second half of the pair for the `n`-th character beyond the basic plane. -/
def lowHalf (n : Nat) : UInt16 := UInt16.ofNat (0xDC00 + n % 0x400)

def unitsOfChar (c : Char) : List UInt16 :=
  if c.toNat < 0x10000 then [unit c]
  else [highHalf (c.toNat - 0x10000), lowHalf (c.toNat - 0x10000)]

def unitsOf (cs : List Char) : List UInt16 := cs.flatMap unitsOfChar

def ofChars (cs : List Char) : Text := ⟨unitsOf cs⟩

def ofString (s : String) : Text := ofChars s.toList

instance : Coe String Text := ⟨ofString⟩

instance : Inhabited Text := ⟨⟨[]⟩⟩

instance : Append Text := ⟨fun a b => ⟨a.units ++ b.units⟩⟩

def lonely (u : UInt16) : Char :=
  if isHighHalf u || isLowHalf u then replacement else Char.ofNat u.toNat

def paired (high low : UInt16) : Char :=
  Char.ofNat (0x10000 + (high.toNat - 0xD800) * 0x400 + (low.toNat - 0xDC00))

def charsOf : List UInt16 → List Char
  | [] => []
  | [u] => [lonely u]
  | u :: v :: rest =>
    if isHighHalf u && isLowHalf v then paired u v :: charsOf rest
    else lonely u :: charsOf (v :: rest)

def chars (text : Text) : List Char := charsOf text.units

/-- A text with every lonely half replaced, as it comes back from a sequence of bytes. -/
def mended (text : Text) : Text := ofChars text.chars

def toString (text : Text) : String := String.ofList text.chars

def length (text : Text) : Nat := text.units.length

def take (n : Nat) (text : Text) : Text := ⟨text.units.take n⟩

def drop (n : Nat) (text : Text) : Text := ⟨text.units.drop n⟩

def given : Option Text → Option Text
  | some text => if text = ofString "" then none else some text
  | none => none

def startsWith (text start : Text) : Bool := start.units.isPrefixOf text.units

theorem units_append (a b : Text) : (a ++ b).units = a.units ++ b.units := rfl

theorem length_append (a b : Text) : (a ++ b).length = a.length + b.length := by
  simp [length, units_append]

theorem unit_not_half {c : Char} (h : c.toNat < 0x10000) :
    (unit c).toNat = c.toNat ∧ isHighHalf (unit c) = false ∧ isLowHalf (unit c) = false := by
  have hn : (unit c).toNat = c.toNat := by
    simp only [unit, UInt16.toNat_ofNat']
    omega
  have hv := c.valid
  have hc : c.val.toNat = c.toNat := rfl
  simp only [UInt32.isValidChar, Nat.isValidChar] at hv
  refine ⟨hn, ?_, ?_⟩
  · simp only [isHighHalf, hn, Bool.and_eq_false_iff, decide_eq_false_iff_not]
    omega
  · simp only [isLowHalf, hn, Bool.and_eq_false_iff, decide_eq_false_iff_not]
    omega

theorem toNat_highHalf {n : Nat} (h : n < 0x100000) :
    (highHalf n).toNat = 0xD800 + n / 0x400 := by
  simp only [highHalf, UInt16.toNat_ofNat']
  omega

theorem toNat_lowHalf (n : Nat) : (lowHalf n).toNat = 0xDC00 + n % 0x400 := by
  simp only [lowHalf, UInt16.toNat_ofNat']
  omega

theorem paired_halves {n : Nat} (h : n < 0x100000) :
    isHighHalf (highHalf n) = true ∧ isLowHalf (lowHalf n) = true ∧
      paired (highHalf n) (lowHalf n) = Char.ofNat (0x10000 + n) := by
  refine ⟨?_, ?_, ?_⟩
  · simp only [isHighHalf, toNat_highHalf h, Bool.and_eq_true, decide_eq_true_eq]
    omega
  · simp only [isLowHalf, toNat_lowHalf, Bool.and_eq_true, decide_eq_true_eq]
    omega
  · unfold paired
    rw [toNat_highHalf h, toNat_lowHalf]
    exact congrArg Char.ofNat (by omega)

theorem charsOf_unitsOfChar (c : Char) (us : List UInt16) :
    charsOf (unitsOfChar c ++ us) = c :: charsOf us := by
  unfold unitsOfChar
  split
  · rename_i h
    obtain ⟨hn, hhigh, hlow⟩ := unit_not_half h
    have hl : lonely (unit c) = c := by simp [lonely, hhigh, hlow, hn]
    cases us with
    | nil => simp [charsOf, hl]
    | cons v rest => simp [charsOf, hhigh, hl]
  · rename_i h
    have hv := c.valid
    have hc : c.val.toNat = c.toNat := rfl
    simp only [UInt32.isValidChar, Nat.isValidChar] at hv
    obtain ⟨hhigh, hlow, hpair⟩ :=
      paired_halves (show c.toNat - 0x10000 < 0x100000 by omega)
    rw [show 0x10000 + (c.toNat - 0x10000) = c.toNat by omega, Char.ofNat_toNat] at hpair
    simp [charsOf, hhigh, hlow, hpair]

@[simp] theorem charsOf_unitsOf (cs : List Char) : charsOf (unitsOf cs) = cs := by
  induction cs with
  | nil => rfl
  | cons c rest ih =>
    show charsOf (unitsOfChar c ++ unitsOf rest) = c :: rest
    rw [charsOf_unitsOfChar, ih]

@[simp] theorem chars_ofChars (cs : List Char) : (ofChars cs).chars = cs := charsOf_unitsOf cs

@[simp] theorem mended_mended (text : Text) : text.mended.mended = text.mended :=
  congrArg ofChars (chars_ofChars text.chars)

@[simp] theorem toString_ofString (s : String) : (ofString s).toString = s := by
  simp [toString, ofString]

@[simp] theorem ofString_inj {s t : String} : ofString s = ofString t ↔ s = t :=
  ⟨fun h => by rw [← toString_ofString s, h, toString_ofString], fun h => h ▸ rfl⟩

@[simp] theorem length_empty : (ofString "").length = 0 := rfl

theorem length_eq_zero_iff (text : Text) : text.length = 0 ↔ text = ofString "" := by
  obtain ⟨units⟩ := text
  constructor
  · intro h
    have : units = [] := List.length_eq_zero_iff.1 h
    subst this
    rfl
  · rintro h
    rw [h]
    rfl

end Text

end SlackCourier
