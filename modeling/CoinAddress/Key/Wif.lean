import CoinAddress.Base58.Checked
import CoinAddress.Curve.Encoding
import CoinAddress.Network.Basic

/-!
# Private keys as text

The wallet import format: the version byte of the network, the 32 bytes of the key and, if its
public key is to be compressed, the byte 1, as Base58Check text.

* `Wif.encode` writes a key, `Wif.decode` reads one. The shape of the bytes is judged before their
  checksum.
* `Wif.publicKey` is the serialized public key, if the key is a number that has one.
-/

namespace CoinAddress

/-- A private key, whether its public key is compressed, and its version byte. -/
structure Wif where
  key : FixedBytes 32
  compressed : Bool
  netId : UInt8
deriving DecidableEq

namespace Wif

/-- The byte that marks a compressed public key. -/
def compressionMark : UInt8 := 1

/-- The number of bytes of a text without the mark. -/
def plainLength : Nat := 37

/-- The number of bytes of a text with the mark. -/
def markedLength : Nat := 38

/-- A key of a network. -/
def ofKey (key : Bytes) (net : Network) (compressed : Bool) : Except Error Wif :=
  match FixedBytes.ofList? 32 key with
  | none => .error (.invalidLength 32 key.length)
  | some k => .ok ⟨k, compressed, net.privateKeyId⟩

/-- The bytes behind the version byte. -/
def payload (w : Wif) : Bytes := w.key.toList ++ if w.compressed then [compressionMark] else []

/-- The text of a key. -/
def encode (w : Wif) : String := Base58.Checked.encode [w.netId] w.payload

/-- Whether bytes with a checksum have the shape of a compressed key, or why they have no shape of
a key. -/
def compression (bs : Bytes) : Except MalformedKey Bool :=
  if bs.length = plainLength then .ok false
  else if bs.length = markedLength then
    let mark := bs.getD 33 0
    if mark = compressionMark then .ok true else .error (.badSuffix mark)
  else .error (.badLength bs.length)

/-- The key of a text. -/
def decode (s : String) : Except Error Wif :=
  match Base58.decode s with
  | .error fault => .error (.malformedKey (.notBase58 fault))
  | .ok bs =>
    match compression bs with
    | .error fault => .error (.malformedKey fault)
    | .ok compressed =>
      match Base58.Checked.verifyChecksum bs with
      | .error e => .error e
      | .ok data =>
        match FixedBytes.ofList? 32 ((data.drop 1).take 32) with
        | none => .error (.malformedKey (.badLength bs.length))
        | some key => .ok ⟨key, compressed, data.headD 0⟩

/-- Whether the version byte is that of a network. -/
def isFor (w : Wif) (net : Network) : Bool := w.netId == net.privateKeyId

/-- The serialized public key. -/
def publicKey (w : Wif) : Except Error Bytes :=
  match Curve.PublicPoint.ofSecret? w.key.toList with
  | none => .error (.curve .badSecretKey)
  | some p => .ok (if w.compressed then p.compressed else p.uncompressed)

/-- A description that does not show the key. -/
def redacted (w : Wif) : String :=
  "Wif \x7b priv_key: \"[REDACTED]\", compressed: " ++ (if w.compressed then "true" else "false") ++
    ", net_id: " ++ Text.hexByte w.netId ++ " \x7d"

end Wif

end CoinAddress
