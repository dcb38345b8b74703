import CoinAddress.Address.Basic
import CoinAddress.Json.Reader
import CoinAddress.Json.Record
import CoinAddress.Key.Wif
import CoinAddress.Network.Registry

/-!
# Summaries

What a program reports of an address or a private key, as a record of plain data with a JSON form.

* `AddressSummary.of` and `KeySummary.of` name the first registered network that an address or a key
  belongs to.
* `toJson` writes a summary, `ofJson?` reads one.
-/

namespace CoinAddress

/-! ## Tags -/

/-- The tags of the kinds of address. -/
def AddressKind.tags : List (String × AddressKind) :=
  [("pub_key_hash", .pubKeyHash), ("script_hash", .scriptHash), ("pub_key", .pubKey),
    ("witness_pub_key_hash", .witnessPubKeyHash), ("witness_script_hash", .witnessScriptHash),
    ("taproot", .taproot)]

/-- The tag of a kind. -/
def AddressKind.tag : AddressKind → String
  | .pubKeyHash => "pub_key_hash"
  | .scriptHash => "script_hash"
  | .pubKey => "pub_key"
  | .witnessPubKeyHash => "witness_pub_key_hash"
  | .witnessScriptHash => "witness_script_hash"
  | .taproot => "taproot"

theorem AddressKind.lookup_tag (k : AddressKind) : tags.lookup k.tag = some k := by
  cases k <;> decide

/-- The tags of the forms of a public key. -/
def KeyFormat.tags : List (String × KeyFormat) :=
  [("compressed", .compressed), ("uncompressed", .uncompressed), ("hybrid", .hybrid)]

theorem KeyFormat.lookup_label (f : KeyFormat) : tags.lookup f.label = some f := by
  cases f <;> decide

/-! ## Addresses -/

/-- What is reported of an address. -/
structure AddressSummary where
  /-- The canonical text. -/
  text : String
  /-- The text to pay to. -/
  encoded : String
  kind : AddressKind
  network : Option String
  versionByte : Option UInt8
  hrp : Option String
  witnessVersion : Option UInt8
  /-- What a locking script commits to, in hexadecimal. -/
  scriptHex : String
  keyFormat : Option KeyFormat
deriving DecidableEq

/-- The first registered network that an address belongs to. -/
def Registry.networkOf? (r : Registry) : Address → Option Network
  | .pubKeyHash a => r.withPubKeyHashId? a.netId
  | .pubKey k => r.withPubKeyHashId? k.netId
  | .scriptHash a => r.withScriptHashId? a.netId
  | .witnessPubKeyHash w => r.withHrp? w.hrp
  | .witnessScriptHash w => r.withHrp? w.hrp
  | .taproot w => r.withHrp? w.hrp

namespace AddressSummary

/-- The summary of an address. -/
def of (a : Address) (r : Registry) : AddressSummary where
  text := a.text
  encoded := a.encode
  kind := a.kind
  network := (r.networkOf? a).map Network.name
  versionByte := a.netId?
  hrp := a.hrp?
  witnessVersion := a.witness?.map WitnessAddress.version
  scriptHex := Text.Hex.encode a.scriptBytes
  keyFormat :=
    match a with
    | .pubKey k => some k.format
    | _ => none

/-- The names of the members, in order. -/
def fieldNames : List String :=
  ["address", "encoded", "kind", "network", "version_byte", "hrp", "witness_version",
    "script_address", "pub_key_format"]

/-- The JSON form of a summary. -/
def toJson (s : AddressSummary) : Json.Value :=
  .record
    [("address", .ofString s.text),
      ("encoded", .ofString s.encoded),
      ("kind", .ofString s.kind.tag),
      ("network", .ofOption .ofString s.network),
      ("version_byte", .ofOption (fun b => .ofNat b.toNat) s.versionByte),
      ("hrp", .ofOption .ofString s.hrp),
      ("witness_version", .ofOption (fun b => .ofNat b.toNat) s.witnessVersion),
      ("script_address", .ofString s.scriptHex),
      ("pub_key_format", .ofOption (fun f => .ofString f.label) s.keyFormat)]

/-- The summary with a JSON form. -/
def ofJson? (v : Json.Value) : Option AddressSummary := do
  match ← v.fields? fieldNames with
  | [text, encoded, kind, network, versionByte, hrp, witnessVersion, scriptHex, keyFormat] =>
    return {
      text := ← Json.required Json.Value.string? text
      encoded := ← Json.required Json.Value.string? encoded
      kind := ← Json.required (Json.Value.tag? AddressKind.tags) kind
      network := ← Json.optional Json.Value.string? network
      versionByte := ← Json.optional Json.Value.byte? versionByte
      hrp := ← Json.optional Json.Value.string? hrp
      witnessVersion := ← Json.optional Json.Value.byte? witnessVersion
      scriptHex := ← Json.required Json.Value.string? scriptHex
      keyFormat := ← Json.optional (Json.Value.tag? KeyFormat.tags) keyFormat }
  | _ => none

/-- The summary in a JSON text. -/
def parse (text : String) : Except Error AddressSummary :=
  match (Json.parse? text).bind ofJson? with
  | none => .error .json
  | some s => .ok s

end AddressSummary

/-! ## Private keys -/

/-- What is reported of a private key; the key itself is left out. -/
structure KeySummary where
  network : Option String
  versionByte : UInt8
  compressed : Bool
  /-- The public key in hexadecimal, if there is one. -/
  publicKey : Option String
deriving DecidableEq

namespace KeySummary

/-- The summary of a private key. -/
def of (w : Wif) (r : Registry) : KeySummary where
  network := (r.withPrivateKeyId? w.netId).map Network.name
  versionByte := w.netId
  compressed := w.compressed
  publicKey :=
    match w.publicKey with
    | .ok bs => some (Text.Hex.encode bs)
    | .error _ => none

/-- The names of the members, in order. -/
def fieldNames : List String := ["network", "version_byte", "compressed", "pub_key"]

/-- The JSON form of a summary. -/
def toJson (s : KeySummary) : Json.Value :=
  .record
    [("network", .ofOption .ofString s.network),
      ("version_byte", .ofNat s.versionByte.toNat),
      ("compressed", .bool s.compressed),
      ("pub_key", .ofOption .ofString s.publicKey)]

/-- The summary with a JSON form. -/
def ofJson? (v : Json.Value) : Option KeySummary := do
  match ← v.fields? fieldNames with
  | [network, versionByte, compressed, publicKey] =>
    return {
      network := ← Json.optional Json.Value.string? network
      versionByte := ← Json.required Json.Value.byte? versionByte
      compressed := ← Json.required Json.Value.bool? compressed
      publicKey := ← Json.optional Json.Value.string? publicKey }
  | _ => none

/-- The summary in a JSON text. -/
def parse (text : String) : Except Error KeySummary :=
  match (Json.parse? text).bind ofJson? with
  | none => .error .json
  | some s => .ok s

end KeySummary

end CoinAddress
