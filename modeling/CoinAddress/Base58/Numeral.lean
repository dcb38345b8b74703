import CoinAddress.Bytes
import CoinAddress.Radix
import CoinAddress.Text.Basic
import CoinAddress.Text.Printable

/-!
# Base-58 text

A byte string is read as one big-endian number and written in base 58. Leading zero bytes would be
lost in the number, so each becomes a leading `1`, the digit zero.

`encode` writes, `decode` reads; a character that is not a digit is reported with its place, the
first one that occurs.
-/

namespace CoinAddress.Base58

/-- Why a text is not a base-58 numeral. -/
inductive Fault where
  /-- An ASCII character that is no digit, and the byte where it stands. -/
  | invalidDigit (c : Char) (index : Nat)
  /-- A character beyond ASCII, and the byte where it starts. -/
  | nonAscii (index : Nat)
deriving DecidableEq

/-- The wording of a fault. -/
def Fault.message : Fault → String
  | .invalidDigit c index =>
    "provided string contained invalid character " ++ Text.quoteChar c ++ " at byte " ++
      toString index
  | .nonAscii index =>
    "provided string contained non-ascii character starting at byte " ++ toString index

/-- The digits in order: numerals and letters without `0`, `O`, `I` and `l`. -/
def alphabet : List Char := "123456789ABCDEFGHJKLMNPQRSTUVWXYZabcdefghijkmnopqrstuvwxyz".toList

/-- The digit with a value below 58. -/
def digitChar (n : Nat) : Char := alphabet.getD n '1'

/-- The value of a digit. -/
def digitValue? (c : Char) : Option Nat := alphabet.idxOf? c

/-- A digit that is written reads back. -/
theorem digitValue?_digitChar {n : Nat} (h : n < 58) : digitValue? (digitChar n) = some n := by
  have all : ∀ m ∈ List.range 58, digitValue? (digitChar m) = some m := by decide
  exact all n (List.mem_range.2 h)

/-! ## Writing -/

/-- The digits of a byte string. -/
def encodeChars (bs : Bytes) : List Char :=
  List.replicate (bs.takeWhile (· == 0)).length '1' ++
    (Radix.digits 58 (Radix.value 256 (bs.map UInt8.toNat))).map digitChar

/-- The base-58 text of a byte string. -/
def encode (bs : Bytes) : String := String.ofList (encodeChars bs)

/-! ## Reading -/

/-- The values of the digits; `index` is the byte where the first character stands. -/
def digitValues (index : Nat) : List Char → Except Fault (List Nat)
  | [] => .ok []
  | c :: cs =>
    if 128 ≤ c.toNat then .error (.nonAscii index)
    else
      match digitValue? c with
      | none => .error (.invalidDigit c index)
      | some d => (digitValues (index + 1) cs).map (d :: ·)

/-- The byte string whose digits have these values. -/
def ofDigitValues (ds : List Nat) : Bytes :=
  List.replicate (ds.takeWhile (· == 0)).length 0 ++
    (Radix.digits 256 (Radix.value 58 ds)).map UInt8.ofNat

/-- The byte string of a base-58 text. -/
def decode (s : String) : Except Fault Bytes := (digitValues 0 s.toList).map ofDigitValues

end CoinAddress.Base58
