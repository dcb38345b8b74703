import CoinAddress.Base58.Numeral
import CoinAddress.Text.Hex

/-!
# Errors

`Error` lists the causes for which a text, a key or a network is refused, and `Error.message` words
them. Causes that are told apart only by their wording are grouped: `Malformed` for data of the wrong
shape, `MalformedKey` for private keys, `HrpFault` for human-readable parts.
-/

namespace CoinAddress

/-! ## Grouped causes -/

/-- Ways in which data has the wrong shape. -/
inductive Malformed where
  /-- The data is shorter than a checksum. -/
  | belowChecksum (length : Nat)
  /-- The data is shorter than the version bytes and a checksum. -/
  | belowVersion (length versionLength : Nat)
  /-- The text to be written would be too long for a bech32 text. -/
  | encodedTooLong (length : Nat)
  /-- The text is too long for a bech32 text. -/
  | tooLong (length : Nat)
  /-- A value is no 5-bit symbol. -/
  | wideSymbol (value : UInt8)
  /-- The text has no separator. -/
  | noSeparator
  /-- Behind the separator there is no room for the checksum. -/
  | noChecksum
  /-- A width is not between one and eight bits. -/
  | badWidths (source target : Nat)
  /-- A value needs more bits than its width. -/
  | wideValue (value : UInt8) (width : Nat)
  /-- A segwit text carries not even a witness version. -/
  | noData
  /-- The segwit text to be written would be too long. -/
  | segwitTooLong
  /-- The segwit text that was written does not read back. -/
  | notReadBack
  /-- A Base58Check text carries not even a version byte. -/
  | noVersion
  /-- The version byte belongs to private keys. -/
  | privateKeyVersion (version : UInt8)
  /-- The version byte belongs to no network. -/
  | unknownVersion (version : UInt8)
  /-- What stands behind the version byte is no hash. -/
  | hashLength (length : Nat) (version : UInt8)
deriving DecidableEq

/-- Ways in which a text is no private key. -/
inductive MalformedKey where
  /-- The text is not base 58. -/
  | notBase58 (fault : Base58.Fault)
  /-- The byte behind the key does not mark compression. -/
  | badSuffix (byte : UInt8)
  /-- The text has neither of the two lengths. -/
  | badLength (length : Nat)
deriving DecidableEq

/-- Ways in which a text is no human-readable part. -/
inductive HrpFault where
  /-- It is empty or too long. -/
  | badLength (length : Nat)
  /-- It holds a character that is not visible ASCII. -/
  | badCharacter (c : Char)
  /-- It has an upper-case letter. -/
  | upperCase (hrp : String)
  /-- There is nothing in front of the separator. -/
  | empty
deriving DecidableEq

/-- Ways in which bytes are no serialized public key. -/
inductive PublicKeyFault where
  /-- There are no bytes. -/
  | empty
  /-- The leading byte belongs to no format. -/
  | unknownFormat (byte : UInt8)
deriving DecidableEq

/-- Ways in which key material does not fit the curve. -/
inductive CurveFault where
  /-- The bytes encode no point of the curve. -/
  | badPublicKey
  /-- The secret number is zero or not below the order of the group. -/
  | badSecretKey
deriving DecidableEq

/-- Ways in which the parameters of a network are not valid. -/
inductive NetworkFault where
  /-- The name is empty. -/
  | emptyName
  /-- The human-readable part is not valid. -/
  | badHrp (fault : HrpFault)
deriving DecidableEq

/-- Ways in which a list of networks could not be loaded. -/
inductive ConfigFault where
  /-- A network has no name. -/
  | emptyName
  /-- The network of this name is not valid. -/
  | badNetwork (name : String) (fault : NetworkFault)
deriving DecidableEq

/-! ## Attempts of the decoder -/

/-- The families of address texts. -/
inductive Family where
  | base58Check
  | bech32
  | publicKeyHex
deriving DecidableEq

/-- Why the decoder passed over a family. -/
structure Attempt where
  family : Family
  reason : String
deriving DecidableEq

/-! ## All errors -/

/-- The reasons for which an operation fails. -/
inductive Error where
  /-- A checksum does not match, or not the one that the witness version asks for. -/
  | checksumMismatch
  | malformed (cause : Malformed)
  | malformedKey (cause : MalformedKey)
  /-- A hash, key or program has the wrong length. -/
  | invalidLength (expected actual : Nat)
  | unsupportedWitnessVersion (version : UInt8)
  | unsupportedProgramLength (version : UInt8) (length : Nat)
  /-- The bits left over by regrouping are not all zero. -/
  | nonZeroPadding
  /-- The bits left over by regrouping would fill another group. -/
  | excessPadding (bits : Nat)
  /-- A bech32 text has letters of both cases. -/
  | mixedCase
  /-- A character that may not stand at its place in a bech32 text. -/
  | invalidCharacter (c : Char) (index : Nat)
  | invalidHrp (fault : HrpFault)
  /-- A version byte stands for two kinds of address of one network. -/
  | addressCollision (version : UInt8)
  /-- No family of address texts knows the input. -/
  | unknownAddressFormat (input : String) (attempts : List Attempt)
  | unknownNetwork (name : String)
  /-- A network shares its name, magic or human-readable part with a registered one. -/
  | duplicateNetwork (name existing : String)
  | invalidPublicKey (fault : PublicKeyFault)
  | config (fault : ConfigFault)
  | base58 (fault : Base58.Fault)
  | hex (fault : Text.Hex.Fault)
  | curve (fault : CurveFault)
  /-- A text is not JSON, or not of the expected form. -/
  | json
  /-- A file cannot be read as text. -/
  | unreadableFile
deriving DecidableEq

/-! ## Wording -/

/-- The wording of wrongly shaped data. -/
def Malformed.message : Malformed → String
  | .belowChecksum length => toString length ++ " bytes is shorter than the checksum"
  | .belowVersion length versionLength =>
    "decoded length " ++ toString length ++ " is shorter than " ++ toString versionLength ++
      " version bytes plus checksum"
  | .encodedTooLong length => "encoded length " ++ toString length ++ " exceeds 90"
  | .tooLong length => "length " ++ toString length ++ " exceeds 90"
  | .wideSymbol value => "data value " ++ toString value.toNat ++ " does not fit in 5 bits"
  | .noSeparator => "missing separator"
  | .noChecksum => "data part shorter than the 6 checksum characters"
  | .badWidths source target =>
    "cannot regroup " ++ toString source ++ "-bit values into " ++ toString target ++ "-bit values"
  | .wideValue value width =>
    "value " ++ toString value.toNat ++ " does not fit in " ++ toString width ++ " bits"
  | .noData => "empty data section"
  | .segwitTooLong => "encode error"
  | .notReadBack => "segwit encoding did not round-trip"
  | .noVersion => "empty base58check payload"
  | .privateKeyVersion version =>
    "version byte " ++ Text.hexByte version ++ " is a private key, not an address"
  | .unknownVersion version => "unknown version byte " ++ Text.hexByte version
  | .hashLength length version =>
    toString length ++ " byte payload after version " ++ Text.hexByte version ++ ", expected 20"

/-- The wording of a malformed private key. -/
def MalformedKey.message : MalformedKey → String
  | .notBase58 fault => fault.message
  | .badSuffix byte => "compression suffix " ++ Text.hexByte byte ++ ", expected 0x01"
  | .badLength length => "decoded length " ++ toString length ++ ", expected 37 or 38"

/-- The wording of a bad human-readable part. -/
def HrpFault.message : HrpFault → String
  | .badLength length => "length " ++ toString length ++ " outside 1..=83"
  | .badCharacter c => "character " ++ Text.quoteChar c ++ " not allowed"
  | .upperCase hrp => "'" ++ hrp ++ "' is not lower case"
  | .empty => "empty"

/-- The wording of a bad public key. -/
def PublicKeyFault.message : PublicKeyFault → String
  | .empty => "empty key"
  | .unknownFormat byte => "unknown format byte " ++ Text.hexByte byte

/-- The wording of key material that does not fit the curve. -/
def CurveFault.message : CurveFault → String
  | .badPublicKey => "malformed public key"
  | .badSecretKey => "malformed or out-of-range secret key"

/-- The name of a family in messages. -/
def Family.label : Family → String
  | .base58Check => "base58check"
  | .bech32 => "bech32"
  | .publicKeyHex => "public key hex"

/-- One line about an attempt. -/
def Attempt.message (a : Attempt) : String := "  " ++ a.family.label ++ " format: " ++ a.reason

/-- The start of a text, and dots in place of what exceeds 50 characters. -/
def abridge (s : String) : String :=
  if 50 < s.toList.length then String.ofList (s.toList.take 50) ++ "..." else s

/-- An invalid network as an error of its own. -/
def NetworkFault.toError : NetworkFault → Error
  | .emptyName => .config .emptyName
  | .badHrp fault => .invalidHrp fault

/-- The wording of an invalid network. -/
def NetworkFault.message : NetworkFault → String
  | .emptyName => "configuration error: network name is empty"
  | .badHrp fault => "invalid human-readable part: " ++ fault.message

/-- The wording of a list of networks that could not be loaded. -/
def ConfigFault.message : ConfigFault → String
  | .emptyName => "network name is empty"
  | .badNetwork name fault => "network '" ++ name ++ "': " ++ fault.message

/-- The wording of an error. -/
def Error.message : Error → String
  | .checksumMismatch => "checksum mismatch"
  | .malformed cause => "malformed input: " ++ cause.message
  | .malformedKey cause => "malformed private key: " ++ cause.message
  | .invalidLength expected actual =>
    "invalid length: expected " ++ toString expected ++ ", got " ++ toString actual
  | .unsupportedWitnessVersion version =>
    "unsupported witness version: " ++ toString version.toNat
  | .unsupportedProgramLength version length =>
    "unsupported witness program length " ++ toString length ++ " for version " ++
      toString version.toNat
  | .nonZeroPadding => "non-zero padding in bech32 data"
  | .excessPadding bits => "invalid padding of " ++ toString bits ++ " bits in bech32 data"
  | .mixedCase => "bech32 string mixes upper and lower case"
  | .invalidCharacter c index =>
    "invalid character " ++ Text.quoteChar c ++ " at position " ++ toString index
  | .invalidHrp fault => "invalid human-readable part: " ++ fault.message
  | .addressCollision version =>
    "version byte " ++ Text.hexByte version ++ " is both a pubkey-hash and script-hash id"
  | .unknownAddressFormat input attempts =>
    "unknown address format for '" ++ abridge input ++ "'\n\nattempted formats:\n" ++
      String.intercalate "\n" (attempts.map Attempt.message)
  | .unknownNetwork name => "unknown network: " ++ name
  | .duplicateNetwork name existing =>
    "duplicate network: '" ++ name ++ "' clashes with registered network '" ++ existing ++ "'"
  | .invalidPublicKey fault => "invalid public key: " ++ fault.message
  | .config fault => "configuration error: " ++ fault.message
  | .base58 fault => "base58 decode error: " ++ fault.message
  | .hex fault => "hex decode error: " ++ fault.message
  | .curve fault => "secp256k1 error: " ++ fault.message
  | .json => "json error"
  | .unreadableFile => "io error"

theorem NetworkFault.message_toError (f : NetworkFault) : f.toError.message = f.message := by
  cases f <;> rfl

end CoinAddress
