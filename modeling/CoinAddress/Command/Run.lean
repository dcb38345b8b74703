import CoinAddress.Address.Decoder
import CoinAddress.Command.Arguments
import CoinAddress.Command.Report
import CoinAddress.Text.Basic

/-!
# Running a command line

`run` is the program as a function: from the content of files and the arguments to what is printed
and the exit code. The networks of a file are registered first, then the default network is found by
its name, then the task is done.
-/

namespace CoinAddress.Command

/-- How a run ends. -/
inductive Outcome where
  /-- The text that is printed. -/
  | printed (text : String)
  | failed (e : Error)
  | usageError

namespace Outcome

/-- The exit code of a run. -/
def exitCode : Outcome → UInt32
  | printed _ => 0
  | failed _ => 1
  | usageError => 2

/-- What a run prints to standard output. -/
def output : Outcome → String
  | printed text => text
  | _ => ""

end Outcome

/-- Register the networks of a file in the registry of the program. -/
def loadNetworks (content : Option Bytes) : Shared (Except Error Unit) :=
  match Config.ofFile content with
  | .error e => pure (.error e)
  | .ok ns => Shared.registerAll ns

/-- The lines that a task prints, with a registry and a default network. -/
def report (r : Registry) (net : Network) (json : Bool) : Task → Except Error (List String)
  | .decode address => do
    let a ← r.decode net (Text.trim address)
    let summary := AddressSummary.of a r
    .ok (if json then jsonReport summary.toJson else addressReport summary net (a.isFor net))
  | .encodeWif key uncompressed => do
    let bytes ← (Text.Hex.decode (Text.trim key)).mapError Error.hex
    let wif ← Wif.ofKey bytes net !uncompressed
    .ok [wif.encode]
  | .decodeWif wif => do
    let w ← Wif.decode (Text.trim wif)
    let summary := KeySummary.of w r
    .ok (if json then jsonReport summary.toJson else keyReport summary)
  | .networks =>
    .ok (if json then jsonReport (.array (r.networks.map Network.toJson))
      else r.networks.map networkRow)

/-- The registry with which a task is done: that of the start, and the networks of a file. -/
def startRegistry (file : String → Option Bytes) : Option String → Except Error Registry
  | none => .ok Shared.initial
  | some path =>
    match (loadNetworks (file path)).run Shared.initial with
    | (.ok (), r) => .ok r
    | (.error e, _) => .error e

/-- The lines that a command line prints; `file` gives the content of a file that exists. -/
def perform (file : String → Option Bytes) (i : Invocation) : Except Error (List String) := do
  let r ← startRegistry file i.networksFile
  let net ← r.resolve i.network
  report r net i.json i.task

/-- Run the program on arguments. -/
def run (file : String → Option Bytes) (args : List String) : Outcome :=
  match Invocation.parse? args with
  | none => .usageError
  | some i =>
    match perform file i with
    | .ok lines => .printed (printLines lines)
    | .error e => .failed e

end CoinAddress.Command
