import CoinAddress.Command.Run

/-!
# The command line program

Reads the file of networks that the arguments name, runs `Command.run` and prints what it gives.
-/

namespace CoinAddress.Command

/-- The content of the file of networks that the arguments name, if there is one. -/
def readNetworksFile (args : List String) : IO (Option Bytes) :=
  match (Invocation.parse? args).bind Invocation.networksFile with
  | none => pure none
  | some path => do
    try
      let content ← IO.FS.readBinFile path
      return some content.toList
    catch _ => return none

/-- The line about an error that goes to standard error. -/
def Outcome.complaint : Outcome → Option String
  | .printed _ => none
  | .failed e => some ("Error: " ++ e.message)
  | .usageError => some "error: unexpected or missing arguments"

end CoinAddress.Command

/-- Run the program. -/
def main (args : List String) : IO UInt32 := do
  let content ← CoinAddress.Command.readNetworksFile args
  let outcome := CoinAddress.Command.run (fun _ => content) args
  IO.print outcome.output
  match outcome.complaint with
  | some line => IO.eprintln line
  | none => pure ()
  return outcome.exitCode
