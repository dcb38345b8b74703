import CoinAddress.Address.Basic
import CoinAddress.Network.Shared

/-!
# Reading addresses

An address text belongs to one of three families, tried in order: Base58Check, then bech32 under the
human-readable part of the default network or a registered one, then the hexadecimal form of a public
key. A family that claims a text decides about it. A wrong Base58Check checksum claims nothing: it is
reported only if no later family claims the text.

* `Registry.decode` reads a text with the help of a registry and a default network, which is asked
  first.
* `Registry.classify` makes an address of the version byte and hash of a Base58Check text.
-/

namespace CoinAddress

/-- The error for a version byte that stands for no address. -/
def Registry.strangeVersion (r : Registry) (default : Network) (version : UInt8) : Malformed :=
  if default.privateKeyId = version ∨ (r.withPrivateKeyId? version).isSome then
    .privateKeyVersion version
  else .unknownVersion version

/-- The address with the bytes of a Base58Check text, a version byte and a hash. -/
def Registry.classify (r : Registry) (default : Network) (data : Bytes) : Except Error Address :=
  match data with
  | [] => .error (.malformed .noVersion)
  | version :: hash =>
    match (default :: r.networks).find? fun n =>
        n.pubKeyHashId == version || n.scriptHashId == version with
    | none => .error (.malformed (r.strangeVersion default version))
    | some n =>
      if n.pubKeyHashId = n.scriptHashId then .error (.addressCollision version)
      else if hash.length ≠ 20 then .error (.malformed (.hashLength hash.length version))
      else if n.pubKeyHashId = version then Address.toPubKeyHash hash n
      else Address.toScriptHash hash n

/-- Whether a human-readable part, in letters of any case, is that of the default network or a
registered one. -/
def Registry.knowsHrp (r : Registry) (default : Network) (hrp : String) : Bool :=
  Text.sameIgnoringCase default.hrp hrp || (r.withHrp? hrp).isSome

namespace Decoder

/-- The number of digits of a compressed public key. -/
def compressedDigits : Nat := 66

/-- The number of digits of a public key with both coordinates. -/
def uncompressedDigits : Nat := 130

/-- What a family says of a text: an answer that is final, or why the text is not of the family. -/
inductive Verdict where
  | claimed (answer : Except Error Address)
  | passed (reason : String)

/-- The verdict of the Base58Check family on data without its checksum, or the error in its place. -/
def base58Check (r : Registry) (default : Network) : Except Error Bytes → Verdict
  | .ok data => .claimed (r.classify default data)
  | .error e => .passed e.message

/-- The verdict of the bech32 family. -/
def bech32 (r : Registry) (default : Network) (s : String) : Verdict :=
  match Text.splitAtLast? Bech32.separator s.toList with
  | none => .passed "no separator"
  | some (hrp, _) =>
    if r.knowsHrp default (String.ofList hrp) then
      .claimed do
        let content ← Bech32.Segwit.decode s
        Address.ofWitnessProgram content.hrp content.version content.program
    else .passed ("prefix '" ++ String.ofList hrp ++ "' is not a registered network")

/-- The verdict of the family of public keys. -/
def publicKeyHex (default : Network) (s : String) : Verdict :=
  let length := Text.byteLength s.toList
  if length = compressedDigits ∨ length = uncompressedDigits then
    match Text.Hex.decode s with
    | .ok key => .claimed (Address.toPubKey key default)
    | .error fault => .passed fault.message
  else .passed ("length " ++ toString length ++ " is neither 66 nor 130")

end Decoder

/-- The address with a text. -/
def Registry.decode (r : Registry) (default : Network) (s : String) : Except Error Address :=
  let data := Base58.Checked.decodeData s
  match Decoder.base58Check r default data with
  | .claimed answer => answer
  | .passed base58Reason =>
    match Decoder.bech32 r default s with
    | .claimed answer => answer
    | .passed bech32Reason =>
      match Decoder.publicKeyHex default s with
      | .claimed answer => answer
      | .passed hexReason =>
        match data with
        | .error .checksumMismatch => .error .checksumMismatch
        | _ =>
          .error (.unknownAddressFormat s
            [⟨.base58Check, base58Reason⟩, ⟨.bech32, bech32Reason⟩, ⟨.publicKeyHex, hexReason⟩])

/-- The address with a text, read with the registry of the program. -/
def Shared.decode (default : Network) (s : String) : Shared (Except Error Address) := fun r =>
  (r.decode default s, r)

/-- The address with a text, read with the registry of the program for the main network. -/
def Shared.parse (s : String) : Shared (Except Error Address) := Shared.decode Network.mainnet s

end CoinAddress
