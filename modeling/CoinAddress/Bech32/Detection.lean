import CoinAddress.Bech32.Encoded

/-!
# Texts under the checksum of a variant

`Variant.accepts` tells whether a text is valid under one variant, as a reader does that knows the
code and nothing else: it takes the human-readable part as it stands, has rules of its own on
characters, letter case and lengths, and allows texts as long as the code does, not just ninety
characters. `Variant.detect?` asks for the two variants in turn.
-/

namespace CoinAddress.Bech32

/-- The largest length for which the code is used. -/
def codeLength : Nat := 1023

namespace Variant

/-- Whether a text is valid under a variant. -/
def accepts (variant : Variant) (t : String) : Bool :=
  let cs := t.toList
  match Text.splitAtLast? separator cs with
  | none => false
  | some (hrp, rest) =>
    !(cs.any Char.isLower && cs.any Char.isUpper) &&
      decide (0 < Text.byteLength hrp) && decide (Text.byteLength hrp ≤ Hrp.maxLength) &&
      hrp.all Text.isGraphic &&
      decide (Text.byteLength cs ≤ codeLength) && decide (checksumLength ≤ rest.length) &&
      match symbolsOfChars 0 (rest.map Char.toLower) with
      | .error _ => false
      | .ok ds => residue (hrp.map Char.toLower) ds == variant.constant

/-- The variant under which a text is valid. -/
def detect? (t : String) : Option Variant :=
  if bech32.accepts t then some bech32 else if bech32m.accepts t then some bech32m else none

end Variant

end CoinAddress.Bech32
