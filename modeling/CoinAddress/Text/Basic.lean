/-!
# Characters and texts

Letter case here is that of the 26 ASCII letters; every other character stays as it is.

* `lowerAscii` and `upperAscii` change the case of a text, `sameIgnoringCase` compares two texts.
* `utf8` is the byte form of a text, and `byteLength` its length in bytes.
* `isGraphic` holds of the visible ASCII characters, from `!` to `~`.
* `CodeRanges` is a property of characters as a list of inclusive ranges of code points.
* `isBlank` holds of the characters with the Unicode property `White_Space`, and `trim` drops them
  from both ends of a text. The zero-width space U+200B and the mark U+FEFF do not have the property.
-/

namespace CoinAddress.Text

/-! ## ASCII letters and the size of a text -/

/-- The text with its ASCII letters in lower case. -/
def lowerAscii (s : String) : String := String.ofList (s.toList.map Char.toLower)

/-- The text with its ASCII letters in upper case. -/
def upperAscii (s : String) : String := String.ofList (s.toList.map Char.toUpper)

/-- Whether two texts differ at most in the case of ASCII letters. -/
def sameIgnoringCase (s t : String) : Bool := lowerAscii s == lowerAscii t

/-- Whether a character is a visible ASCII character. -/
def isGraphic (c : Char) : Bool := decide (33 ≤ c.toNat) && decide (c.toNat ≤ 126)

/-- The UTF-8 bytes of a list of characters. -/
def utf8 (cs : List Char) : List UInt8 := cs.flatMap String.utf8EncodeChar

/-- The number of UTF-8 bytes of a list of characters. -/
def byteLength (cs : List Char) : Nat := (utf8 cs).length

/-! ## Sets of characters as ranges of code points -/

/-- Inclusive ranges of code points. -/
abbrev CodeRanges := List (Nat × Nat)

/-- Whether a character lies in one of the ranges. -/
def CodeRanges.contains (ranges : CodeRanges) (c : Char) : Bool :=
  ranges.any fun r => decide (r.1 ≤ c.toNat) && decide (c.toNat ≤ r.2)

/-! ## White space around a text -/

/-- The code points with the property `White_Space`. -/
def blankRanges : CodeRanges :=
  [(0x9, 0xD), (0x20, 0x20), (0x85, 0x85), (0xA0, 0xA0), (0x1680, 0x1680), (0x2000, 0x200A),
    (0x2028, 0x2029), (0x202F, 0x202F), (0x205F, 0x205F), (0x3000, 0x3000)]

/-- Whether a character is white space. -/
def isBlank (c : Char) : Bool := blankRanges.contains c

/-- The characters without the white space at either end. -/
def trimChars (cs : List Char) : List Char :=
  ((cs.dropWhile isBlank).reverse.dropWhile isBlank).reverse

/-- The text without the white space at either end. -/
def trim (s : String) : String := String.ofList (trimChars s.toList)

end CoinAddress.Text
