import SlackCourier.Text.Utf8
import Mathlib.Tactic.SplitIfs

/-!
# Bytes of a text and the text of bytes

Characters that were written as bytes are read back as they were.  So a text that went through a
file comes back as it was, but for halves of pairs that stood alone.
-/

namespace SlackCourier.Text

theorem decodeFrom_cons (open? : Option Partial) (b : UInt8) (rest : Bytes) :
    decodeFrom open? (b :: rest) =
      (readByte open? b.toNat).1 ++ decodeFrom (readByte open? b.toNat).2 rest := rfl

theorem decodeFrom_goOn {value owed low high : Nat} {b : UInt8} (hlow : low ≤ b.toNat)
    (hhigh : b.toNat ≤ high) (rest : Bytes) :
    decodeFrom (some ⟨value, owed + 1, low, high⟩) (b :: rest) =
      decodeFrom (some ⟨value * 64 + b.toNat % 64, owed, 0x80, 0xBF⟩) rest := by
  rw [decodeFrom_cons]
  simp [readByte, hlow, hhigh]

theorem decodeFrom_complete {value low high : Nat} {b : UInt8} (hlow : low ≤ b.toNat)
    (hhigh : b.toNat ≤ high) (rest : Bytes) :
    decodeFrom (some ⟨value, 0, low, high⟩) (b :: rest) =
      Char.ofNat (value * 64 + b.toNat % 64) :: decodeFrom none rest := by
  rw [decodeFrom_cons]
  simp [readByte, hlow, hhigh]

theorem decodeFrom_of_firstByte {b : UInt8} {part : Partial}
    (h : firstByte b.toNat = some (.inr part)) (rest : Bytes) :
    decodeFrom none (b :: rest) = decodeFrom (some part) rest := by
  rw [decodeFrom_cons]
  simp [readByte, startChar, h]

theorem firstByte_two {b : Nat} (hlow : 0xC2 ≤ b) (hhigh : b ≤ 0xDF) :
    firstByte b = some (.inr ⟨b % 32, 0, 0x80, 0xBF⟩) := by
  unfold firstByte
  rw [if_neg (by omega), if_pos ⟨hlow, hhigh⟩]

/-- The first byte of three leaves room for the second byte of each character that is neither
written in two nor half of a pair. -/
theorem firstByte_three (b next : Nat) (hlow : 0xE0 ≤ b) (hhigh : b ≤ 0xEF) (hnext : 0x80 ≤ next)
    (hlast : next ≤ 0xBF) (hlong : b = 0xE0 → 0xA0 ≤ next) (hwhole : b = 0xED → next ≤ 0x9F) :
    ∃ low high, firstByte b = some (.inr ⟨b % 16, 1, low, high⟩) ∧ low ≤ next ∧ next ≤ high := by
  unfold firstByte
  rw [if_neg (by omega), if_neg (by omega)]
  split_ifs with hfirst hmiddle hrest
  · exact ⟨_, _, rfl, hlong hfirst, hlast⟩
  · exact ⟨_, _, rfl, hnext, hwhole hmiddle⟩
  · exact ⟨_, _, rfl, hnext, hlast⟩
  all_goals omega

/-- The first byte of four leaves room for the second byte of each character that is not written in
three and is one at all. -/
theorem firstByte_four (b next : Nat) (hlow : 0xF0 ≤ b) (hhigh : b ≤ 0xF4) (hnext : 0x80 ≤ next)
    (hlast : next ≤ 0xBF) (hlong : b = 0xF0 → 0x90 ≤ next) (hwhole : b = 0xF4 → next ≤ 0x8F) :
    ∃ low high, firstByte b = some (.inr ⟨b % 8, 2, low, high⟩) ∧ low ≤ next ∧ next ≤ high := by
  unfold firstByte
  rw [if_neg (by omega), if_neg (by omega), if_neg (by omega), if_neg (by omega),
    if_neg (by omega)]
  split_ifs with hfirst hmiddle hrest
  · exact ⟨_, _, rfl, hlong hfirst, hlast⟩
  · exact ⟨_, _, rfl, hnext, hwhole hmiddle⟩
  · exact ⟨_, _, rfl, hnext, hlast⟩
  all_goals omega

theorem toNat_laterByte (n : Nat) : (UInt8.ofNat (n % 64 + 128)).toNat = n % 64 + 128 := by
  rw [UInt8.toNat_ofNat']
  omega

theorem decodeFrom_utf8EncodeChar (c : Char) (rest : Bytes) :
    decodeFrom none (String.utf8EncodeChar c ++ rest) = c :: decodeFrom none rest := by
  have hvalid := c.valid
  have hc : c.val.toNat = c.toNat := rfl
  simp only [UInt32.isValidChar, Nat.isValidChar, hc] at hvalid
  have hback : ∀ n, n = c.toNat →
      Char.ofNat n :: decodeFrom none rest = c :: decodeFrom none rest := by
    rintro n rfl
    rw [Char.ofNat_toNat]
  unfold String.utf8EncodeChar
  simp only [hc]
  split_ifs with hone htwo hthree <;> simp only [List.cons_append, List.nil_append]
  · have hfirst : (UInt8.ofNat c.toNat).toNat = c.toNat := by
      rw [UInt8.toNat_ofNat']
      omega
    have hascii : c.toNat < 0x80 := by omega
    rw [decodeFrom_cons]
    simp [readByte, startChar, firstByte, hfirst, hascii]
  · have hfirst : (UInt8.ofNat (c.toNat / 64 % 32 + 192)).toNat = c.toNat / 64 + 192 := by
      rw [UInt8.toNat_ofNat']
      omega
    have hlast := toNat_laterByte c.toNat
    rw [decodeFrom_of_firstByte (firstByte_two (by omega) (by omega)),
      decodeFrom_complete (by omega) (by omega), hfirst, hlast]
    exact hback _ (by omega)
  · have hfirst : (UInt8.ofNat (c.toNat / 4096 % 16 + 224)).toNat = c.toNat / 4096 + 224 := by
      rw [UInt8.toNat_ofNat']
      omega
    have hsecond := toNat_laterByte (c.toNat / 64)
    have hlast := toNat_laterByte c.toNat
    obtain ⟨low, high, hpart, hlow, hhigh⟩ := firstByte_three (c.toNat / 4096 + 224)
      (c.toNat / 64 % 64 + 128) (by omega) (by omega) (by omega) (by omega) (by omega)
      (by omega)
    rw [← hfirst] at hpart
    rw [decodeFrom_of_firstByte hpart, decodeFrom_goOn (by omega) (by omega),
      decodeFrom_complete (by omega) (by omega), hfirst, hsecond, hlast]
    exact hback _ (by omega)
  · have hfirst : (UInt8.ofNat (c.toNat / 262144 % 8 + 240)).toNat = c.toNat / 262144 + 240 := by
      rw [UInt8.toNat_ofNat']
      omega
    have hsecond := toNat_laterByte (c.toNat / 4096)
    have hthird := toNat_laterByte (c.toNat / 64)
    have hlast := toNat_laterByte c.toNat
    obtain ⟨low, high, hpart, hlow, hhigh⟩ := firstByte_four (c.toNat / 262144 + 240)
      (c.toNat / 4096 % 64 + 128) (by omega) (by omega) (by omega) (by omega) (by omega)
      (by omega)
    rw [← hfirst] at hpart
    rw [decodeFrom_of_firstByte hpart, decodeFrom_goOn (by omega) (by omega),
      decodeFrom_goOn (by omega) (by omega), decodeFrom_complete (by omega) (by omega), hfirst,
      hsecond, hthird, hlast]
    exact hback _ (by omega)

theorem decodeFrom_encodeList (cs : List Char) : decodeFrom none (encodeList cs) = cs := by
  induction cs with
  | nil => rfl
  | cons c rest ih =>
    show decodeFrom none (String.utf8EncodeChar c ++ encodeList rest) = c :: rest
    rw [decodeFrom_utf8EncodeChar, ih]

theorem decodeUtf8_encodeUtf8 (text : Text) : decodeUtf8 (encodeUtf8 text) = text.mended := by
  unfold decodeUtf8 encodeUtf8 mended
  rw [decodeFrom_encodeList]

end SlackCourier.Text
