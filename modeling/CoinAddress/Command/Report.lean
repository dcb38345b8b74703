import CoinAddress.Address.Summary
import CoinAddress.Json.Writer
import CoinAddress.Network.Config

/-!
# Reports

What the command line prints for people: a summary line by line, or the list of networks in columns.
Every report is a list of lines.
-/

namespace CoinAddress.Command

/-- A text filled up with spaces at the right. -/
def padRight (width : Nat) (s : String) : String :=
  s ++ String.ofList (List.replicate (width - s.toList.length) ' ')

/-- A line for a value that may be absent. -/
def optionalLine {α : Type} (label : String) (write : α → String) : Option α → List String
  | none => []
  | some a => [label ++ write a]

/-- The name of a network that may not be known. -/
def networkLine (network : Option String) : String := "Network: " ++ network.getD "unknown"

/-- The report on an address, which ends with whether it belongs to the default network. -/
def addressReport (s : AddressSummary) (net : Network) (belongs : Bool) : List String :=
  ["Decoded address:", "Type: " ++ s.kind.label, "Address: " ++ s.text] ++
    (if s.encoded = s.text then [] else ["Encoded: " ++ s.encoded]) ++
    [networkLine s.network] ++
    optionalLine "Version byte: " Text.hexByte s.versionByte ++
    optionalLine "HRP: " id s.hrp ++
    optionalLine "Witness version: " (fun v => toString v.toNat) s.witnessVersion ++
    optionalLine "Public key format: " KeyFormat.label s.keyFormat ++
    ["Script address: " ++ s.scriptHex,
      "For " ++ net.name ++ ": " ++ if belongs then "yes" else "no"]

/-- The report on a private key. -/
def keyReport (s : KeySummary) : List String :=
  ["Decoded private key:", networkLine s.network,
    "Version byte: " ++ Text.hexByte s.versionByte,
    "Compressed: " ++ (if s.compressed then "true" else "false"),
    "Public key: " ++ s.publicKey.getD "invalid secp256k1 scalar"]

/-- The line for a network. -/
def networkRow (n : Network) : String :=
  padRight 10 n.name ++ " magic " ++ Text.hexWord n.magic ++ "  pkh " ++
    Text.hexByte n.pubKeyHashId ++ "  sh " ++ Text.hexByte n.scriptHashId ++ "  wif " ++
    Text.hexByte n.privateKeyId ++ "  hrp " ++ n.hrp

/-- A report as text. -/
def printLines (lines : List String) : String :=
  String.join (lines.map fun line => line ++ "\n")

/-- A JSON value as a report. -/
def jsonReport (v : Json.Value) : List String := [v.pretty]

end CoinAddress.Command
