import CoinAddress.Bytes
import CoinAddress.Radix
import CoinAddress.Text.Basic
import CoinAddress.Text.Printable

/-!
# Hexadecimal text

Two digits a byte, the more significant first. `encode` writes lower-case digits; `decode` reads
digits of either case and names the first fault: an odd number of bytes of text comes before any
digit that is none.

`hexByte` and `hexWord` are the forms with leading zeros in which messages show bytes and words.
-/

namespace CoinAddress.Text.Hex

/-- Why a text is not hexadecimal. -/
inductive Fault where
  /-- The text has an odd number of bytes. -/
  | oddLength
  /-- The first byte that is not a digit, and its index among the bytes of the text. -/
  | invalidDigit (byte : UInt8) (index : Nat)
deriving DecidableEq

/-- The wording of a fault; the offending byte is shown as the character of the same number. -/
def Fault.message : Fault → String
  | .oddLength => "Odd number of digits"
  | .invalidDigit byte index =>
    "Invalid character " ++ quoteChar (Char.ofNat byte.toNat) ++ " at position " ++ toString index

/-- The sixteen digits in order. -/
def alphabet : List Char := "0123456789abcdef".toList

/-- The digit with a value below sixteen. -/
def digitChar (n : Nat) : Char := alphabet.getD n '0'

/-- The value of a digit given by its ASCII code. -/
def digitValue? (b : UInt8) : Option Nat :=
  let n := b.toNat
  if 48 ≤ n ∧ n ≤ 57 then some (n - 48)
  else if 97 ≤ n ∧ n ≤ 102 then some (n - 87)
  else if 65 ≤ n ∧ n ≤ 70 then some (n - 55)
  else none

/-- A digit that is written reads back. -/
theorem digitValue?_digitChar {n : Nat} (h : n < 16) :
    digitValue? (UInt8.ofNat (digitChar n).toNat) = some n := by
  have all : ∀ m ∈ List.range 16, digitValue? (UInt8.ofNat (digitChar m).toNat) = some m := by
    decide
  exact all n (List.mem_range.2 h)

/-- The digits of a byte string. -/
def encodeChars (bs : Bytes) : List Char :=
  bs.flatMap fun b => [digitChar (b.toNat / 16), digitChar (b.toNat % 16)]

/-- The hexadecimal text of a byte string, in lower case. -/
def encode (bs : Bytes) : String := String.ofList (encodeChars bs)

/-- Read pairs of digits, given as ASCII codes; `index` is the place of the first. -/
def decodePairs (index : Nat) : Bytes → Except Fault Bytes
  | high :: low :: rest =>
    match digitValue? high with
    | none => .error (.invalidDigit high index)
    | some h =>
      match digitValue? low with
      | none => .error (.invalidDigit low (index + 1))
      | some l => (decodePairs (index + 2) rest).map (UInt8.ofNat (16 * h + l) :: ·)
  | _ => .ok []

/-- The byte string of a hexadecimal text. -/
def decode (s : String) : Except Fault Bytes :=
  let bs := utf8 s.toList
  if bs.length % 2 = 1 then .error .oddLength else decodePairs 0 bs

end Hex

/-- The numeral of `n` in base sixteen, `width` digits wide, behind `0x`. -/
def hexNumeral (width n : Nat) : String :=
  "0x" ++ String.ofList ((Radix.fixedDigits 16 width n).map Hex.digitChar)

/-- A byte as `0x` and two digits. -/
def hexByte (b : UInt8) : String := hexNumeral 2 b.toNat

/-- A 32-bit word as `0x` and eight digits. -/
def hexWord (w : UInt32) : String := hexNumeral 8 w.toNat

end CoinAddress.Text
