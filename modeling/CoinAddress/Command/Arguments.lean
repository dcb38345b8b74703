import CoinAddress.Text.Basic

/-!
# Command lines

`Invocation.parse?` reads the arguments of a command line; `none` is a usage error.

A command line has options and one command with its operands. The options that every command shares
may stand in front of the command or behind it, and what stands behind counts. An option that takes
a value has it in the next argument or behind an equals sign. Behind `--` all arguments are operands.
At either side of the command, an option is given at most once, `--verbose` aside.
-/

namespace CoinAddress.Command

/-- What a command line asks for. -/
inductive Task where
  | decode (address : String)
  | encodeWif (key : String) (uncompressed : Bool)
  | decodeWif (wif : String)
  | networks
deriving DecidableEq

/-- A command line. -/
structure Invocation where
  /-- The file of networks to register first. -/
  networksFile : Option String
  /-- The name of the default network. -/
  network : String
  /-- Whether results are written as JSON. -/
  json : Bool
  task : Task
deriving DecidableEq

/-- The commands. -/
inductive Name where
  | decode
  | encodeWif
  | decodeWif
  | networks
deriving DecidableEq

/-- The command with a name. -/
def Name.ofText? (s : String) : Option Name :=
  if s = "decode" then some .decode
  else if s = "encode-wif" then some .encodeWif
  else if s = "decode-wif" then some .decodeWif
  else if s = "networks" then some .networks
  else none

/-! ## Tokens -/

/-- The options that take a value. -/
inductive Setting where
  | networksFile
  | network
deriving DecidableEq

/-- The setting with a name. -/
def Setting.ofName? (name : List Char) : Option Setting :=
  if name = "networks".toList then some .networksFile
  else if name = "network".toList then some .network
  else none

/-- A piece of a command line. -/
inductive Token where
  | setting (option : Setting) (value : String)
  /-- An option without a value, by its name. -/
  | flag (name : List Char)
  /-- Options without values, by their letters. -/
  | letters (cs : List Char)
  | operand (text : String)
  /-- All that stands behind `--`. -/
  | rest (operands : List String)
deriving DecidableEq

/-- What an argument looks like by itself. -/
inductive Shape where
  | endOfOptions
  /-- An option by its name, and the value behind an equals sign. -/
  | long (name : List Char) (value : Option String)
  | short (letters : List Char)
  | plain

/-- A name and the value behind the first equals sign. -/
def splitValue (cs : List Char) : List Char × Option String :=
  match cs.dropWhile (· ≠ '=') with
  | [] => (cs, none)
  | _ :: value => (cs.takeWhile (· ≠ '='), some (String.ofList value))

/-- The shape of an argument; a lone dash is plain. -/
def Shape.of (arg : String) : Shape :=
  match arg.toList with
  | ['-', '-'] => .endOfOptions
  | '-' :: '-' :: cs => .long (splitValue cs).1 (splitValue cs).2
  | '-' :: c :: cs => .short (c :: cs)
  | _ => .plain

/-- The value that an argument is for the option in front of it; options are no values. -/
def value? (arg : String) : Option String :=
  match Shape.of arg with
  | .plain => some arg
  | _ => none

/-- The tokens of arguments; `none` if a value is missing or given to an option without one. -/
def tokens? : List String → Option (List Token)
  | [] => some []
  | arg :: args =>
    match Shape.of arg with
    | .endOfOptions => some [.rest args]
    | .plain => (tokens? args).map (.operand arg :: ·)
    | .short letters => (tokens? args).map (.letters letters :: ·)
    | .long name value =>
      match Setting.ofName? name, value, args with
      | none, none, args => (tokens? args).map (.flag name :: ·)
      | none, some _, _ => none
      | some option, some value, args => (tokens? args).map (.setting option value :: ·)
      | some _, none, [] => none
      | some option, none, next :: args => do
        let value ← value? next
        return .setting option value :: (← tokens? args)

/-! ## Options -/

/-- The options at one side of the command. -/
structure Options where
  networksFile : Option String
  network : Option String
  json : Bool
  uncompressed : Bool
deriving DecidableEq

namespace Options

/-- The options where none is given. -/
def initial : Options := ⟨none, none, false, false⟩

/-- The options with a value set, unless it was set before. A file has a name. -/
def set (o : Options) (option : Setting) (value : String) : Option Options :=
  match option with
  | .networksFile =>
    if o.networksFile.isSome ∨ value = "" then none
    else some { o with networksFile := some value }
  | .network => if o.network.isSome then none else some { o with network := some value }

/-- The options with the flag for JSON, unless it was given before. -/
def raiseJson (o : Options) : Option Options :=
  if o.json then none else some { o with json := true }

/-- The options with the flag of the command `encode-wif`, unless it was given before. -/
def raiseUncompressed (command : Option Name) (o : Options) : Option Options :=
  if command = some .encodeWif ∧ !o.uncompressed then some { o with uncompressed := true }
  else none

/-- The options with the flag of a letter. -/
def raiseLetter (command : Option Name) (o : Options) (c : Char) : Option Options :=
  if c = 'v' then some o
  else if c = 'u' then o.raiseUncompressed command
  else none

/-- The options with the flag of a name. -/
def raiseNamed (command : Option Name) (o : Options) (name : List Char) : Option Options :=
  if name = "json".toList then o.raiseJson
  else if name = "verbose".toList then some o
  else if name = "uncompressed".toList then o.raiseUncompressed command
  else none

/-- The options with what one token asks for. -/
def take (command : Option Name) (o : Options) : Token → Option Options
  | .setting option value => o.set option value
  | .flag name => o.raiseNamed command name
  | .letters cs => cs.foldlM (raiseLetter command) o
  | .operand _ => some o
  | .rest _ => some o

end Options

/-! ## Command lines -/

/-- The operands that a token holds. -/
def Token.operands : Token → List String
  | .operand text => [text]
  | .rest texts => texts
  | _ => []

/-- The options in front of the command, the command, and the tokens behind it. -/
def splitCommand? (o : Options) : List Token → Option (Options × Name × List Token)
  | [] => none
  | .rest _ :: _ => none
  | .operand text :: ts => (Name.ofText? text).map fun name => (o, name, ts)
  | t :: ts => (o.take none t).bind fun o => splitCommand? o ts

/-- The task of a command with its operands. -/
def Task.of? (name : Name) (uncompressed : Bool) (operands : List String) : Option Task :=
  match name, operands with
  | .decode, [address] => some (.decode address)
  | .encodeWif, [key] => some (.encodeWif key uncompressed)
  | .decodeWif, [wif] => some (.decodeWif wif)
  | .networks, [] => some .networks
  | _, _ => none

/-- The default network where no option names one. -/
def defaultNetwork : String := "mainnet"

/-- What the arguments of a command line ask for. -/
def Invocation.parse? (args : List String) : Option Invocation := do
  let (front, name, ts) ← splitCommand? .initial (← tokens? args)
  let back ← ts.foldlM (Options.take (some name)) .initial
  let task ← Task.of? name back.uncompressed (ts.flatMap Token.operands)
  return {
    networksFile := back.networksFile <|> front.networksFile
    network := (back.network <|> front.network).getD defaultNetwork
    json := back.json || front.json
    task := task }

end CoinAddress.Command
