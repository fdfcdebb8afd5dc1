import SlackCourier.Text.Utf8

/-!
# Bytes written as text

The standard base-64 alphabet with padding: three bytes are four characters, and a last group of one
or two bytes is filled up with `=`.
-/

namespace SlackCourier.Text

/-- The sixty-four digits, in order of value. -/
def base64Digits : List Char :=
  "ABCDEFGHIJKLMNOPQRSTUVWXYZabcdefghijklmnopqrstuvwxyz0123456789+/".toList

def base64Digit (n : Nat) : Char := base64Digits.getD (n % 64) '='

def base64Value? (c : Char) : Option Nat := base64Digits.findIdx? (· == c)

def encodeBase64List : Bytes → List Char
  | [] => []
  | [a] =>
    let n := a.toNat * 16
    [base64Digit (n / 64), base64Digit n, '=', '=']
  | [a, b] =>
    let n := (a.toNat * 256 + b.toNat) * 4
    [base64Digit (n / 4096), base64Digit (n / 64), base64Digit n, '=']
  | a :: b :: c :: rest =>
    let n := (a.toNat * 256 + b.toNat) * 256 + c.toNat
    base64Digit (n / 262144) :: base64Digit (n / 4096) :: base64Digit (n / 64) :: base64Digit n ::
      encodeBase64List rest

def encodeBase64 (bytes : Bytes) : Text := ofChars (encodeBase64List bytes)

/-- The bytes of complete groups of digits; digits left over are a last, shorter group. -/
def decodeDigits : List Nat → Bytes
  | a :: b :: c :: d :: rest =>
    let n := ((a * 64 + b) * 64 + c) * 64 + d
    UInt8.ofNat (n / 65536) :: UInt8.ofNat (n / 256) :: UInt8.ofNat n :: decodeDigits rest
  | [a, b, c] =>
    let n := (a * 64 + b) * 64 + c
    [UInt8.ofNat (n / 1024), UInt8.ofNat (n / 4)]
  | [a, b] => [UInt8.ofNat ((a * 64 + b) / 16)]
  | _ => []

/-- Base-64 text as bytes; characters that are no digits are passed over. -/
def decodeBase64 (text : Text) : Bytes := decodeDigits (text.chars.filterMap base64Value?)

end SlackCourier.Text
