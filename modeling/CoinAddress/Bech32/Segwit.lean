import CoinAddress.Bech32.Encoded

/-!
# Segwit texts

The bech32 texts of witness programs: the first symbol is the witness version, the others carry the
program. Version zero is written with one variant and all others with the other.

* `Segwit.checkProgram` is the rule on versions and lengths.
* `Segwit.encode` writes a text and reads it back before it is given out; `Segwit.decode` reads one.
-/

namespace CoinAddress.Bech32.Segwit

/-- The highest witness version. -/
def maxVersion : UInt8 := 16

/-- What a segwit text carries. -/
structure Content where
  hrp : String
  version : UInt8
  program : Bytes
deriving DecidableEq

/-- Whether a witness program may have its version and length. -/
def checkProgram (version : UInt8) (program : Bytes) : Except Error Unit :=
  if maxVersion < version then .error (.unsupportedWitnessVersion version)
  else if program.length < 2 ∨ 40 < program.length ∨
      (version = 0 ∧ program.length ≠ 20 ∧ program.length ≠ 32) then
    .error (.unsupportedProgramLength version program.length)
  else .ok ()

/-- The number of characters of the text of a program of `n` bytes. -/
def textLength (hrp : String) (n : Nat) : Nat :=
  Text.byteLength hrp.toList + 1 + 1 + (8 * n + 4) / 5 + checksumLength

/-- What a text carries. -/
def decode (s : String) : Except Error Content := do
  let content ← Bech32.decode s
  match content.data with
  | [] => .error (.malformed .noData)
  | version :: symbols =>
    if maxVersion < version then .error (.unsupportedWitnessVersion version)
    else if content.variant ≠ Variant.ofWitnessVersion version then .error .checksumMismatch
    else do
      let program ← regroup 5 8 false symbols
      checkProgram version program
      .ok ⟨content.hrp, version, program⟩

/-- The text of a witness program. -/
def encode (content : Content) : Except Error String := do
  checkProgram content.version content.program
  Hrp.validate content.hrp
  if maxLength < textLength content.hrp content.program.length then
    .error (.malformed .segwitTooLong)
  else do
    let symbols ← regroup 8 5 true content.program
    let text ← Bech32.encode
      ⟨content.hrp, content.version :: symbols, Variant.ofWitnessVersion content.version⟩
    let back ← decode text
    if back = content then .ok text else .error (.malformed .notReadBack)

end CoinAddress.Bech32.Segwit
