import CoinAddress.Key.Wif

/-!
# Reading Base58Check text with checked places

A byte string is accessed at places: the byte with an index, the bytes between two places, the bytes
on either side of one. `Bounded.decodeKey` reads the text of a private key with such accesses alone,
and `Bounded.decodeVersion` a text with a version of a known length.

Every access is checked. A place behind the end of the bytes, a difference below zero and bytes that
do not have the length of a key give nothing, and then the whole reader gives nothing.

The length of a version is a word of 64 bits that the caller chooses, so its sum with the length of
a checksum may exceed a word. `Overflow` says what a machine makes of such a sum.
-/

namespace CoinAddress.Bounded

/-! ## Checked operations -/

/-- The difference of two numbers, if it is not below zero. -/
def sub? (a b : Nat) : Option Nat := if b ≤ a then some (a - b) else none

/-- What a machine makes of a sum that exceeds a word: it stops, or it goes on without the bit in
front. -/
inductive Overflow where
  | stops
  | wraps
deriving DecidableEq

/-- The sum of two words, on a machine. -/
def add? (overflow : Overflow) (a b : UInt64) : Option UInt64 :=
  if a.toNat + b.toNat < UInt64.size then some (a + b)
  else
    match overflow with
    | .stops => none
    | .wraps => some (a + b)

/-- The bytes on either side of a place, if there is such a place. -/
def splitAt? (place : Nat) (bs : Bytes) : Option (Bytes × Bytes) :=
  if place ≤ bs.length then some (bs.splitAt place) else none

/-- The bytes between two places, if there are such places, in this order. -/
def slice? (start stop : Nat) (bs : Bytes) : Option Bytes :=
  if start ≤ stop ∧ stop ≤ bs.length then some ((bs.take stop).drop start) else none

/-! ## Checksums -/

/-- The data in front of a checksum, if the checksum is that of the data. -/
def verifyChecksum (bs : Bytes) : Option (Except Error Bytes) :=
  if bs.length < Base58.Checked.checksumLength then
    some (.error (.malformed (.belowChecksum bs.length)))
  else do
    let parts ← splitAt? (← sub? bs.length Base58.Checked.checksumLength) bs
    some (if (Hash.checksum parts.1).toList = parts.2 then .ok parts.1
      else .error .checksumMismatch)

/-! ## Versions of a known length -/

/-- The number of bytes of a checksum, as a word. -/
def checksumWord : UInt64 := UInt64.ofNat Base58.Checked.checksumLength

/-- The version, of `versionLength` bytes, and the payload of a text. -/
def decodeVersion (overflow : Overflow) (versionLength : UInt64) (s : String) :
    Option (Except Error (Bytes × Bytes)) :=
  match Base58.Checked.decodeRaw s with
  | .error e => some (.error e)
  | .ok bs => do
    let least ← add? overflow versionLength checksumWord
    if bs.length < least.toNat then
      some (.error (.malformed (.belowVersion bs.length versionLength.toNat)))
    else
      match ← verifyChecksum bs with
      | .error e => some (.error e)
      | .ok data =>
        let parts ← splitAt? versionLength.toNat data
        some (.ok parts)

/-! ## Keys -/

/-- Whether bytes with a checksum have the shape of a compressed key, or why they have no shape of
a key. -/
def compression (bs : Bytes) : Option (Except MalformedKey Bool) :=
  if bs.length = Wif.plainLength then some (.ok false)
  else if bs.length = Wif.markedLength then do
    let mark ← bs[33]?
    some (if mark = Wif.compressionMark then .ok true else .error (.badSuffix mark))
  else some (.error (.badLength bs.length))

/-- The key of a version byte and a private key. -/
def keyOfData (data : Bytes) (compressed : Bool) : Option Wif := do
  let key ← FixedBytes.ofList? 32 (← slice? 1 33 data)
  let netId ← data[0]?
  some ⟨key, compressed, netId⟩

/-- The key of a text. -/
def decodeKey (s : String) : Option (Except Error Wif) :=
  match Base58.decode s with
  | .error fault => some (.error (.malformedKey (.notBase58 fault)))
  | .ok bs => do
    match ← compression bs with
    | .error fault => some (.error (.malformedKey fault))
    | .ok compressed =>
      match ← verifyChecksum bs with
      | .error e => some (.error e)
      | .ok data =>
        let key ← keyOfData data compressed
        some (.ok key)

end CoinAddress.Bounded
