import CoinAddress.Bech32.Checksum
import CoinAddress.Bech32.Regroup
import CoinAddress.Text.Search

/-!
# Bech32 texts

A bech32 text is a human-readable part, the separator `1`, symbols and their checksum, in at most
ninety characters.

* A human-readable part has between one and eighty-three visible ASCII characters without
  upper-case letters. `Hrp.check` names the first rule that a text breaks.
* `encode` writes the text of 5-bit values in lower case.
* `decode` reads a text all in one case; it gives the human-readable part in lower case and tells
  which variant the checksum belongs to.
* `encodeBytes` and `decodeBytes` carry whole bytes in the symbols.
-/

namespace CoinAddress.Bech32

/-! ## Human-readable parts -/

namespace Hrp

/-- The largest length. -/
def maxLength : Nat := 83

/-- Whether a text is a human-readable part, and why not. -/
def check (hrp : String) : Except HrpFault Unit :=
  let cs := hrp.toList
  let length := Text.byteLength cs
  if length = 0 ∨ maxLength < length then .error (.badLength length)
  else
    match cs.find? fun c => !Text.isGraphic c with
    | some c => .error (.badCharacter c)
    | none => if cs.any Char.isUpper then .error (.upperCase hrp) else .ok ()

/-- `check` with its fault as an error. -/
def validate (hrp : String) : Except Error Unit := (check hrp).mapError .invalidHrp

end Hrp

/-! ## Texts -/

/-- The largest length of a text. -/
def maxLength : Nat := 90

/-- The character between the human-readable part and the symbols. -/
def separator : Char := '1'

/-- What a bech32 text carries. -/
structure Content where
  hrp : String
  /-- The values of the symbols without the checksum, or the bytes that they hold. -/
  data : Bytes
  variant : Variant
deriving DecidableEq

/-! ## Writing -/

/-- The text of symbols under a human-readable part. -/
def write (variant : Variant) (hrp : List Char) (ds : List Symbol) : List Char :=
  hrp ++ separator :: (ds ++ checksum variant hrp ds).map Symbol.char

/-- The symbols of values, unless one has more than five bits. -/
def symbolsOfBytes : Bytes → Except Error (List Symbol)
  | [] => .ok []
  | b :: bs =>
    match Symbol.ofByte? b with
    | none => .error (.malformed (.wideSymbol b))
    | some d => (symbolsOfBytes bs).map (d :: ·)

/-- The text of 5-bit values under a human-readable part. -/
def encode (content : Content) : Except Error String := do
  Hrp.validate content.hrp
  let length := Text.byteLength content.hrp.toList + 1 + content.data.length + checksumLength
  if maxLength < length then .error (.malformed (.encodedTooLong length))
  else
    let ds ← symbolsOfBytes content.data
    .ok (String.ofList (write content.variant content.hrp.toList ds))

/-! ## Reading -/

/-- The symbols of lower-case characters; `index` is the place of the first. -/
def symbolsOfChars (index : Nat) : List Char → Except Error (List Symbol)
  | [] => .ok []
  | c :: cs =>
    match Symbol.ofChar? c with
    | none => .error (.invalidCharacter c index)
    | some d => (symbolsOfChars (index + 1) cs).map (d :: ·)

/-- Read the two parts of a lower-case text. -/
def decodeParts (hrp rest : List Char) : Except Error Content :=
  if hrp = [] then .error (.invalidHrp .empty)
  else if rest.length < checksumLength then .error (.malformed .noChecksum)
  else do
    let ds ← symbolsOfChars (hrp.length + 1) rest
    match Variant.ofResidue? (residue hrp ds) with
    | none => .error .checksumMismatch
    | some variant =>
      .ok ⟨String.ofList hrp, (ds.take (ds.length - checksumLength)).map Symbol.byte, variant⟩

/-- What a text carries, as 5-bit values. -/
def decode (s : String) : Except Error Content :=
  let cs := s.toList
  if maxLength < Text.byteLength cs then .error (.malformed (.tooLong (Text.byteLength cs)))
  else
    match Text.findWithIndex? (fun c => !Text.isGraphic c) cs with
    | some (c, index) => .error (.invalidCharacter c index)
    | none =>
      if cs.any Char.isLower && cs.any Char.isUpper then .error .mixedCase
      else
        match Text.splitAtLast? separator (cs.map Char.toLower) with
        | none => .error (.malformed .noSeparator)
        | some (hrp, rest) => decodeParts hrp rest

/-! ## Whole bytes -/

/-- The text of bytes under a human-readable part. -/
def encodeBytes (content : Content) : Except Error String := do
  let data ← regroup 8 5 true content.data
  encode ⟨content.hrp, data, content.variant⟩

/-- What a text carries, as bytes. -/
def decodeBytes (s : String) : Except Error Content := do
  let content ← decode s
  let data ← regroup 5 8 false content.data
  .ok ⟨content.hrp, data, content.variant⟩

end CoinAddress.Bech32
