import CoinAddress.Json.Value

/-!
# Records in JSON

How typed data is taken from JSON values.

* `Value.fields?` gives the fields of a record: from an object by name, where unknown names are passed
  over and no field may come twice, or from an array that lists all of them in order.
* `required` and `optional` read a field; an optional one may be absent or `null`.
* `Value.natBelow?`, `Value.bool?`, `Value.string?` and `Value.tag?` read single values.
-/

namespace CoinAddress.Json

/-- The value of a decimal numeral without sign, point and power. -/
def natOfDigits? (cs : List Char) : Option Nat :=
  if cs.all Char.isDigit then
    some (cs.foldl (fun n c => 10 * n + (c.toNat - 48)) 0)
  else none

namespace Value

/-- A whole number in `0 ≤ n < bound`, written with digits alone. -/
def natBelow? (bound : Nat) : Value → Option Nat
  | .number literal => do
    let n ← natOfDigits? literal.toList
    if n < bound then some n else none
  | _ => none

/-- A byte. -/
def byte? (v : Value) : Option UInt8 := (v.natBelow? 0x100).map UInt8.ofNat

/-- A word of 32 bits. -/
def word? (v : Value) : Option UInt32 := (v.natBelow? 0x100000000).map UInt32.ofNat

/-- A truth value. -/
def bool? : Value → Option Bool
  | .bool b => some b
  | _ => none

/-- A text. -/
def string? : Value → Option String
  | .string t => t
  | _ => none

/-- One of several tags, written as a string or as the name of a single `null` member. -/
def tag? {α : Type} (tags : List (String × α)) : Value → Option α
  | .string (some t) => tags.lookup t
  | .object [(some t, .null)] => tags.lookup t
  | _ => none

/-- The elements of an array. -/
def array? : Value → Option (List Value)
  | .array vs => some vs
  | _ => none

/-- The value of the only member with a name; `none` if there are several. -/
def member? (members : List (StringValue × Value)) (name : String) : Option (Option Value) :=
  match members.filter fun m => m.1 == some name with
  | [] => some none
  | [m] => some (some m.2)
  | _ => none

/-- The fields of a record, in the order of their names. -/
def fields? (names : List String) : Value → Option (List (Option Value))
  | .object members =>
    if members.all fun m => m.1.isSome then names.mapM (member? members) else none
  | .array vs => if vs.length = names.length then some (vs.map some) else none
  | _ => none

end Value

/-- A field that has to be there. -/
def required {α : Type} (read : Value → Option α) : Option Value → Option α
  | none => none
  | some v => read v

/-- A field that may be absent or `null`. -/
def optional {α : Type} (read : Value → Option α) : Option Value → Option (Option α)
  | none => some none
  | some .null => some none
  | some v => (read v).map some

end CoinAddress.Json
