import CoinAddress.Json.Value
import CoinAddress.Text.Hex

/-!
# Writing JSON

`Value.compact` writes a value without white space, `Value.pretty` in lines, with two spaces for each
level and empty arrays and objects kept closed. In strings the quote, the backslash and the control
characters below the space are escaped, by letter where JSON has one.
-/

namespace CoinAddress.Json

/-! ## Strings -/

/-- A character inside a string. -/
def escapeChar (c : Char) : List Char :=
  if c = '"' then ['\\', '"']
  else if c = '\\' then ['\\', '\\']
  else if c = '\n' then ['\\', 'n']
  else if c = '\r' then ['\\', 'r']
  else if c = '\t' then ['\\', 't']
  else if c.toNat = 8 then ['\\', 'b']
  else if c.toNat = 12 then ['\\', 'f']
  else if c.toNat < 32 then
    ['\\', 'u', '0', '0', Text.Hex.digitChar (c.toNat / 16), Text.Hex.digitChar (c.toNat % 16)]
  else [c]

/-- A string between quotes; one that is no text is written as half of a surrogate pair. -/
def writeString : StringValue → List Char
  | some s => '"' :: (s.toList.flatMap escapeChar ++ ['"'])
  | none => ['"', '\\', 'u', 'd', '8', '0', '0', '"']

/-- The opening brace. -/
def openBrace : Char := '\x7b'

/-- The closing brace. -/
def closeBrace : Char := '\x7d'

/-! ## Compact form -/

mutual

/-- A value without white space. -/
def Value.writeCompact : Value → List Char
  | .null => ['n', 'u', 'l', 'l']
  | .bool true => ['t', 'r', 'u', 'e']
  | .bool false => ['f', 'a', 'l', 's', 'e']
  | .number literal => literal.toList
  | .string t => writeString t
  | .array [] => ['[', ']']
  | .array (v :: vs) => '[' :: (v.writeCompact ++ writeCompactElements vs)
  | .object [] => [openBrace, closeBrace]
  | .object ((t, v) :: ms) =>
    openBrace :: (writeString t ++ ':' :: (v.writeCompact ++ writeCompactMembers ms))

/-- The elements behind the first, with the closing bracket. -/
def writeCompactElements : List Value → List Char
  | [] => [']']
  | v :: vs => ',' :: (v.writeCompact ++ writeCompactElements vs)

/-- The members behind the first, with the closing brace. -/
def writeCompactMembers : List (StringValue × Value) → List Char
  | [] => [closeBrace]
  | (t, v) :: ms => ',' :: (writeString t ++ ':' :: (v.writeCompact ++ writeCompactMembers ms))

end

/-- The text of a value without white space. -/
def Value.compact (v : Value) : String := String.ofList v.writeCompact

/-! ## Form in lines -/

/-- The start of a line of a level. -/
def newLine (level : Nat) : List Char := '\n' :: List.replicate (2 * level) ' '

mutual

/-- A value in lines; `level` is that of the line where it starts. -/
def Value.writePretty (level : Nat) : Value → List Char
  | .null => ['n', 'u', 'l', 'l']
  | .bool true => ['t', 'r', 'u', 'e']
  | .bool false => ['f', 'a', 'l', 's', 'e']
  | .number literal => literal.toList
  | .string t => writeString t
  | .array [] => ['[', ']']
  | .array (v :: vs) =>
    '[' :: (newLine (level + 1) ++ v.writePretty (level + 1) ++ writePrettyElements level vs)
  | .object [] => [openBrace, closeBrace]
  | .object ((t, v) :: ms) =>
    openBrace :: (newLine (level + 1) ++ writeString t ++ ':' :: ' ' ::
      (v.writePretty (level + 1) ++ writePrettyMembers level ms))

/-- The lines of the elements behind the first and of the closing bracket. -/
def writePrettyElements (level : Nat) : List Value → List Char
  | [] => newLine level ++ [']']
  | v :: vs =>
    ',' :: (newLine (level + 1) ++ v.writePretty (level + 1) ++ writePrettyElements level vs)

/-- The lines of the members behind the first and of the closing brace. -/
def writePrettyMembers (level : Nat) : List (StringValue × Value) → List Char
  | [] => newLine level ++ [closeBrace]
  | (t, v) :: ms =>
    ',' :: (newLine (level + 1) ++ writeString t ++ ':' :: ' ' ::
      (v.writePretty (level + 1) ++ writePrettyMembers level ms))

end

/-- The text of a value in lines. -/
def Value.pretty (v : Value) : String := String.ofList (v.writePretty 0)

end CoinAddress.Json
