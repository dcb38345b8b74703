import CoinAddress.Error
import CoinAddress.Hash.Ripemd160

/-!
# Base58Check

A version, a payload and the checksum of both, as one base-58 text. The version may have any number
of bytes; who reads a text has to know how many.

* `verifyChecksum` takes the checksum off a byte string.
* `encode` writes a text; `decode` reads it back, `decodeData` without cutting off the version.

Lengths are natural numbers here, so each sum of two exists. `Bounded.decodeVersion` takes the
length of the version as a machine word.
-/

namespace CoinAddress.Base58.Checked

/-- The number of bytes of a checksum. -/
def checksumLength : Nat := 4

/-- The data in front of a checksum, if the checksum is that of the data. -/
def verifyChecksum (bs : Bytes) : Except Error Bytes :=
  if bs.length < checksumLength then .error (.malformed (.belowChecksum bs.length))
  else
    let data := bs.take (bs.length - checksumLength)
    if (Hash.checksum data).toList = bs.drop (bs.length - checksumLength) then .ok data
    else .error .checksumMismatch

/-- The bytes of a base-58 text. -/
def decodeRaw (s : String) : Except Error Bytes := (Base58.decode s).mapError .base58

/-- The data of a text, version and payload in one. -/
def decodeData (s : String) : Except Error Bytes := do
  let bs ← decodeRaw s
  verifyChecksum bs

/-- The text of a version and a payload. -/
def encode (version payload : Bytes) : String :=
  let data := version ++ payload
  Base58.encode (data ++ (Hash.checksum data).toList)

/-- The version, of `versionLength` bytes, and the payload of a text. -/
def decode (versionLength : Nat) (s : String) : Except Error (Bytes × Bytes) := do
  let bs ← decodeRaw s
  if bs.length < versionLength + checksumLength then
    .error (.malformed (.belowVersion bs.length versionLength))
  else
    let data ← verifyChecksum bs
    .ok (data.take versionLength, data.drop versionLength)

end CoinAddress.Base58.Checked
