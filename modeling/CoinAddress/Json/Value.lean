/-!
# JSON values

A JSON value as its text shows it: members keep their order and may repeat a name, and a number is
kept as it is written. A text may name half of a surrogate pair by an escape; no character string has
such a half, and the whole text is then `none`.
-/

namespace CoinAddress.Json

/-- What a JSON string stands for; `none` if it names half of a surrogate pair. -/
abbrev StringValue := Option String

/-- A JSON value. -/
inductive Value where
  | null
  | bool (b : Bool)
  /-- A number, by the characters it is written with. -/
  | number (literal : String)
  | string (t : StringValue)
  | array (elements : List Value)
  | object (members : List (StringValue × Value))

namespace Value

/-- The value of a text. -/
def ofString (s : String) : Value := .string (some s)

/-- The value of a natural number. -/
def ofNat (n : Nat) : Value := .number (toString n)

/-- `null` in place of a value that is absent. -/
def ofOption {α : Type} (f : α → Value) : Option α → Value
  | none => .null
  | some a => f a

/-- An object whose member names are given as texts. -/
def record (members : List (String × Value)) : Value :=
  .object (members.map fun m => (some m.1, m.2))

end Value

end CoinAddress.Json
