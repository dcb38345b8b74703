import CoinAddress.Bytes
import CoinAddress.Json.Reader
import CoinAddress.Json.Record
import CoinAddress.Network.Shared

/-!
# Lists of networks in JSON

A configuration is an object with the member `networks`, a list of networks; without the member the
list is empty.

* `Network.toJson` and `Network.ofJson?` are the JSON form of a network.
* `Config.parse` reads a configuration and checks every network; `Config.ofFile` reads the
  content of a file. Nothing is registered here: `Registry.registerAll` takes the list.
-/

namespace CoinAddress

namespace Network

/-- The names of the members of a network, in order. -/
def fieldNames : List String :=
  ["name", "net", "pub_key_hash_addr_id", "script_hash_addr_id", "private_key_id", "bech32_hrp"]

/-- The JSON form of a network. -/
def toJson (n : Network) : Json.Value :=
  .record
    [("name", .ofString n.name),
      ("net", .ofNat n.magic.toNat),
      ("pub_key_hash_addr_id", .ofNat n.pubKeyHashId.toNat),
      ("script_hash_addr_id", .ofNat n.scriptHashId.toNat),
      ("private_key_id", .ofNat n.privateKeyId.toNat),
      ("bech32_hrp", .ofString n.hrp)]

/-- The network with a JSON form. -/
def ofJson? (v : Json.Value) : Option Network := do
  match ← v.fields? fieldNames with
  | [name, magic, pubKeyHashId, scriptHashId, privateKeyId, hrp] =>
    return {
      name := ← Json.required Json.Value.string? name
      magic := ← Json.required Json.Value.word? magic
      pubKeyHashId := ← Json.required Json.Value.byte? pubKeyHashId
      scriptHashId := ← Json.required Json.Value.byte? scriptHashId
      privateKeyId := ← Json.required Json.Value.byte? privateKeyId
      hrp := ← Json.required Json.Value.string? hrp }
  | _ => none

end Network

namespace Config

/-- The JSON form of a configuration. -/
def toJson (ns : List Network) : Json.Value :=
  .record [("networks", .array (ns.map Network.toJson))]

/-- The networks with a JSON form. -/
def ofArray? (v : Json.Value) : Option (List Network) := do
  (← v.array?).mapM Network.ofJson?

/-- The networks of a configuration. -/
def ofJson? : Json.Value → Option (List Network)
  | .array [] => some []
  | v => do
    match ← v.fields? ["networks"] with
    | [some ns] => ofArray? ns
    | _ => some []

/-- Check networks in order; the first that is not valid is named. -/
def check : List Network → Except ConfigFault Unit
  | [] => .ok ()
  | n :: ns =>
    match n.check with
    | .error fault => .error (.badNetwork n.name fault)
    | .ok () => check ns

/-- The networks of a configuration given as text. -/
def parse (text : String) : Except Error (List Network) :=
  match (Json.parse? text).bind ofJson? with
  | none => .error .json
  | some ns =>
    match check ns with
    | .error fault => .error (.config fault)
    | .ok () => .ok ns

/-- The text of a file, given its bytes unless there is no such file. -/
def fileText : Option Bytes → Except Error String
  | none => .error .unreadableFile
  | some bs =>
    match String.fromUTF8? (ByteArray.mk bs.toArray) with
    | none => .error .unreadableFile
    | some text => .ok text

/-- The networks of a configuration in a file. -/
def ofFile (content : Option Bytes) : Except Error (List Network) := do
  let text ← fileText content
  parse text

end Config

end CoinAddress
