import CoinAddress.Curve.Encoding
import CoinAddress.Error
import CoinAddress.Hash.Ripemd160

/-!
# Serialized public keys

A public key in one of three forms, told by its leading byte. Only that byte and the length are
looked at when a key is taken in (`PublicKey.ofBytes`); `PublicKey.withFormat` needs the point itself
and fails where the bytes encode none.
-/

namespace CoinAddress

/-- The forms of a public key. -/
inductive KeyFormat where
  /-- One coordinate, behind the byte 2 or 3. -/
  | compressed
  /-- Both coordinates, behind the byte 4. -/
  | uncompressed
  /-- Both coordinates, behind the byte 6 or 7. -/
  | hybrid
deriving DecidableEq

namespace KeyFormat

/-- The name of a form. -/
def label : KeyFormat → String
  | compressed => "compressed"
  | uncompressed => "uncompressed"
  | hybrid => "hybrid"

/-- The number of bytes of a key in this form. -/
def length : KeyFormat → Nat
  | compressed => 33
  | uncompressed => 65
  | hybrid => 65

/-- The form that a leading byte announces. -/
def ofLeadingByte (b : UInt8) : Except Error KeyFormat :=
  if b = 2 ∨ b = 3 then .ok compressed
  else if b = 4 then .ok uncompressed
  else if b = 6 ∨ b = 7 then .ok hybrid
  else .error (.invalidPublicKey (.unknownFormat b))

end KeyFormat

/-- A serialized public key, with the version byte of the addresses that pay to its hash. -/
structure PublicKey where
  bytes : Bytes
  format : KeyFormat
  netId : UInt8
deriving DecidableEq

namespace PublicKey

/-- A key given by its bytes; whether they encode a point is not asked. -/
def ofBytes (bytes : Bytes) (netId : UInt8) : Except Error PublicKey :=
  match bytes with
  | [] => .error (.invalidPublicKey .empty)
  | lead :: _ => do
    let format ← KeyFormat.ofLeadingByte lead
    if bytes.length = format.length then .ok ⟨bytes, format, netId⟩
    else .error (.invalidLength format.length bytes.length)

/-- The bytes of a key with the leading byte of a point's encoding. -/
def standardBytes (k : PublicKey) : Bytes :=
  match k.format with
  | .hybrid => 4 :: k.bytes.drop 1
  | _ => k.bytes

/-- The bytes of a point in a form. -/
def formatBytes (p : Curve.PublicPoint) : KeyFormat → Bytes
  | .compressed => p.compressed
  | .uncompressed => p.uncompressed
  | .hybrid => (if p.y.isOdd then 7 else 6) :: p.uncompressed.drop 1

/-- The same key in another form. -/
def withFormat (k : PublicKey) (format : KeyFormat) : Except Error PublicKey :=
  if format = k.format then .ok k
  else
    match Curve.PublicPoint.ofBytes? k.standardBytes with
    | none => .error (.curve .badPublicKey)
    | some p => .ok ⟨formatBytes p format, format, k.netId⟩

/-- The hash of the bytes. -/
def hash160 (k : PublicKey) : FixedBytes 20 := Hash.hash160 k.bytes

/-- The bytes in hexadecimal. -/
def hex (k : PublicKey) : String := Text.Hex.encode k.bytes

end PublicKey

end CoinAddress
