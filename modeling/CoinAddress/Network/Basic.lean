import CoinAddress.Bech32.Encoded
import CoinAddress.Text.Casing

/-!
# Networks

The identifiers by which addresses and keys of one network are told from those of another.

* `Network.mainnet`, `Network.testnet3` and `Network.regtest` are known from the start;
  `Network.ofAlias` finds them by their names.
* `Network.validate` is the rule that every registered network obeys.
-/

namespace CoinAddress

/-- The identifiers of a network. -/
structure Network where
  name : String
  /-- The number that opens the messages of the network. -/
  magic : UInt32
  /-- The version byte of addresses that pay to the hash of a key. -/
  pubKeyHashId : UInt8
  /-- The version byte of addresses that pay to the hash of a script. -/
  scriptHashId : UInt8
  /-- The version byte of private keys. -/
  privateKeyId : UInt8
  /-- The human-readable part of segwit addresses. -/
  hrp : String
deriving DecidableEq

namespace Network

/-- The main network. -/
def mainnet : Network := ⟨"mainnet", 0xbd6b0cbf, 0x4c, 0x10, 0xcc, "bc"⟩

/-- The third test network. -/
def testnet3 : Network := ⟨"testnet3", 0xffcae2ce, 0x8c, 0x13, 0xef, "tb"⟩

/-- The network for regression tests, which shares its version bytes with the test network. -/
def regtest : Network := ⟨"regtest", 0xdcb7c1fc, 0x8c, 0x13, 0xef, "bcrt"⟩

/-- The networks that need no registration. -/
def predefined : List Network := [mainnet, testnet3, regtest]

/-- The rule that a network breaks, if any. -/
def check (n : Network) : Except NetworkFault Unit :=
  if n.name = "" then .error .emptyName else (Bech32.Hrp.check n.hrp).mapError .badHrp

/-- `check` with its fault as an error. -/
def validate (n : Network) : Except Error Unit := n.check.mapError NetworkFault.toError

/-- The predefined network with a name or short name, in letters of any case. -/
def ofAlias (name : String) : Except Error Network :=
  let lower := Text.lowercase name
  if lower = "mainnet" ∨ lower = "main" then .ok mainnet
  else if lower = "testnet3" ∨ lower = "testnet" ∨ lower = "test" then .ok testnet3
  else if lower = "regtest" ∨ lower = "regnet" then .ok regtest
  else .error (.unknownNetwork lower)

/-- The name and the magic of a network. -/
def describe (n : Network) : String := n.name ++ " (" ++ Text.hexWord n.magic ++ ")"

end Network

end CoinAddress
