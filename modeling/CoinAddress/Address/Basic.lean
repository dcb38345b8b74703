import CoinAddress.Base58.Checked
import CoinAddress.Bech32.Segwit
import CoinAddress.Key.Public
import CoinAddress.Network.Basic

/-!
# Addresses

The six kinds of address: hashes of a key or a script with a version byte, public keys themselves,
and witness programs under a human-readable part.

* The constructors `Address.toPubKeyHash`, `Address.toScript` and so on make the address of a network;
  all witness addresses come from `Address.ofWitnessProgram`, which tells the kind by version and
  length.
* `Address.encode` is the text to pay to, `Address.text` the canonical form; they differ for public
  keys.
* `Address.isFor` tells whether an address belongs to a network.
-/

namespace CoinAddress

/-! ## Parts -/

/-- The kinds of address. -/
inductive AddressKind where
  | pubKeyHash
  | scriptHash
  | pubKey
  | witnessPubKeyHash
  | witnessScriptHash
  | taproot
deriving DecidableEq

/-- The short name of a kind. -/
def AddressKind.label : AddressKind → String
  | pubKeyHash => "p2pkh"
  | scriptHash => "p2sh"
  | pubKey => "p2pk"
  | witnessPubKeyHash => "p2wpkh"
  | witnessScriptHash => "p2wsh"
  | taproot => "p2tr"

/-- A hash with the version byte of its network. -/
structure HashAddress where
  hash : FixedBytes 20
  netId : UInt8
deriving DecidableEq

namespace HashAddress

/-- A hash given as bytes. -/
def ofBytes (hash : Bytes) (netId : UInt8) : Except Error HashAddress :=
  match FixedBytes.ofList? 20 hash with
  | none => .error (.invalidLength 20 hash.length)
  | some h => .ok ⟨h, netId⟩

/-- The Base58Check text. -/
def encode (a : HashAddress) : String := Base58.Checked.encode [a.netId] a.hash.toList

end HashAddress

/-- A witness program under a human-readable part, with its text. -/
structure WitnessAddress where
  version : UInt8
  program : Bytes
  hrp : String
  text : String
deriving DecidableEq

/-- A witness program with its text, under a human-readable part in letters of any case. -/
def WitnessAddress.ofProgram (hrp : String) (version : UInt8) (program : Bytes) :
    Except Error WitnessAddress := do
  let lower := Text.lowerAscii hrp
  Bech32.Hrp.validate lower
  let text ← Bech32.Segwit.encode ⟨lower, version, program⟩
  .ok ⟨version, program, lower, text⟩

/-! ## Addresses -/

/-- An address. -/
inductive Address where
  | pubKeyHash (a : HashAddress)
  | scriptHash (a : HashAddress)
  | pubKey (k : PublicKey)
  /-- Witness version 0 with 20 bytes. -/
  | witnessPubKeyHash (w : WitnessAddress)
  /-- Witness version 0 with 32 bytes. -/
  | witnessScriptHash (w : WitnessAddress)
  /-- Witness version 1 with 32 bytes. -/
  | taproot (w : WitnessAddress)
deriving DecidableEq

namespace Address

/-! ## Making addresses -/

/-- The address that pays to the hash of a key. -/
def toPubKeyHash (hash : Bytes) (net : Network) : Except Error Address :=
  (HashAddress.ofBytes hash net.pubKeyHashId).map pubKeyHash

/-- The address that pays to the hash of a script, given the hash. -/
def toScriptHash (hash : Bytes) (net : Network) : Except Error Address :=
  (HashAddress.ofBytes hash net.scriptHashId).map scriptHash

/-- The address that pays to the hash of a script, given the script. -/
def toScript (script : Bytes) (net : Network) : Address :=
  scriptHash ⟨Hash.hash160 script, net.scriptHashId⟩

/-- The address that pays to a public key. -/
def toPubKey (key : Bytes) (net : Network) : Except Error Address :=
  (PublicKey.ofBytes key net.pubKeyHashId).map pubKey

/-- The address of a witness program; its kind follows from version and length. -/
def ofWitnessProgram (hrp : String) (version : UInt8) (program : Bytes) : Except Error Address :=
  if version = 0 ∧ program.length = 20 then
    (WitnessAddress.ofProgram hrp version program).map witnessPubKeyHash
  else if version = 0 ∧ program.length = 32 then
    (WitnessAddress.ofProgram hrp version program).map witnessScriptHash
  else if version = 1 ∧ program.length = 32 then
    (WitnessAddress.ofProgram hrp version program).map taproot
  else if version = 0 ∨ version = 1 then
    .error (.unsupportedProgramLength version program.length)
  else .error (.unsupportedWitnessVersion version)

/-- The address that pays to the hash of a key by a witness. -/
def toWitnessPubKeyHash (program : Bytes) (net : Network) : Except Error Address := do
  match ← ofWitnessProgram net.hrp 0 program with
  | witnessPubKeyHash w => .ok (witnessPubKeyHash w)
  | _ => .error (.invalidLength 20 program.length)

/-- The address that pays to the hash of a script by a witness. -/
def toWitnessScriptHash (program : Bytes) (net : Network) : Except Error Address := do
  match ← ofWitnessProgram net.hrp 0 program with
  | witnessScriptHash w => .ok (witnessScriptHash w)
  | _ => .error (.invalidLength 32 program.length)

/-- The address that pays to a taproot output. -/
def toTaproot (program : Bytes) (net : Network) : Except Error Address :=
  ofWitnessProgram net.hrp 1 program

/-- The address that pays to the hash of a public key. -/
def ofKeyHash (k : PublicKey) : Address := pubKeyHash ⟨k.hash160, k.netId⟩

/-! ## What an address holds -/

/-- The kind of an address. -/
def kind : Address → AddressKind
  | pubKeyHash _ => .pubKeyHash
  | scriptHash _ => .scriptHash
  | pubKey _ => .pubKey
  | witnessPubKeyHash _ => .witnessPubKeyHash
  | witnessScriptHash _ => .witnessScriptHash
  | taproot _ => .taproot

/-- The witness program of an address that has one. -/
def witness? : Address → Option WitnessAddress
  | witnessPubKeyHash w => some w
  | witnessScriptHash w => some w
  | taproot w => some w
  | _ => none

/-- The version byte of an address that has one. -/
def netId? : Address → Option UInt8
  | pubKeyHash a => some a.netId
  | scriptHash a => some a.netId
  | pubKey k => some k.netId
  | _ => none

/-- The human-readable part of a witness address. -/
def hrp? (a : Address) : Option String := a.witness?.map (·.hrp)

/-- The text to pay to: for a public key, that of its hash. -/
def encode : Address → String
  | pubKeyHash a => a.encode
  | scriptHash a => a.encode
  | pubKey k => HashAddress.encode ⟨k.hash160, k.netId⟩
  | witnessPubKeyHash w => w.text
  | witnessScriptHash w => w.text
  | taproot w => w.text

/-- The canonical text: for a public key, its bytes in hexadecimal. -/
def text : Address → String
  | pubKey k => k.hex
  | a => a.encode

/-- The bytes that a locking script commits to. -/
def scriptBytes : Address → Bytes
  | pubKeyHash a => a.hash.toList
  | scriptHash a => a.hash.toList
  | pubKey k => k.hash160.toList
  | witnessPubKeyHash w => w.program
  | witnessScriptHash w => w.program
  | taproot w => w.program

/-- The hash of twenty bytes that an address carries. -/
def hash160? : Address → Option (FixedBytes 20)
  | pubKeyHash a => some a.hash
  | scriptHash a => some a.hash
  | pubKey k => some k.hash160
  | witnessPubKeyHash w => FixedBytes.ofList? 20 w.program
  | _ => none

/-- Whether an address belongs to a network. -/
def isFor (a : Address) (net : Network) : Bool :=
  match a with
  | pubKeyHash a => a.netId == net.pubKeyHashId
  | scriptHash a => a.netId == net.scriptHashId
  | pubKey k => k.netId == net.pubKeyHashId
  | witnessPubKeyHash w => w.hrp == net.hrp
  | witnessScriptHash w => w.hrp == net.hrp
  | taproot w => w.hrp == net.hrp

end Address

end CoinAddress
