import CoinAddress.Json.Value
import CoinAddress.Text.Hex

/-!
# Reading JSON

`parse?` reads a text that holds exactly one JSON value, with white space allowed around every
token. The grammar is strict: no comments, no trailing commas, no leading zeros, no control
characters in strings.

Each reader takes the front of a list of characters and gives the rest. The readers of nested values
carry a bound on the number of calls; two calls for each character are enough.
-/

namespace CoinAddress.Json

/-! ## White space -/

/-- Whether a character is white space in JSON. -/
def isSpace (c : Char) : Bool := c == ' ' || c == '\n' || c == '\t' || c == '\r'

/-- The characters behind white space. -/
def skipSpace (cs : List Char) : List Char := cs.dropWhile isSpace

/-! ## Strings -/

/-- The value of a hexadecimal digit. -/
def hexValue? (c : Char) : Option Nat :=
  if c.toNat < 128 then Text.Hex.digitValue? (UInt8.ofNat c.toNat) else none

/-- The number of four hexadecimal digits. -/
def hexUnit? (a b c d : Char) : Option Nat := do
  return (((← hexValue? a) * 16 + (← hexValue? b)) * 16 + (← hexValue? c)) * 16 + (← hexValue? d)

/-- The number of the character that an escape letter stands for. -/
def escapedUnit? (c : Char) : Option Nat :=
  if c = '"' ∨ c = '\\' ∨ c = '/' then some c.toNat
  else if c = 'b' then some 8
  else if c = 'f' then some 12
  else if c = 'n' then some 10
  else if c = 'r' then some 13
  else if c = 't' then some 9
  else none

/-- The numbers that the characters of a string stand for, up to the closing quote, and what comes
behind it. A numeric escape gives a UTF-16 unit, which may be half of a pair. -/
def readUnits : List Char → Option (List Nat × List Char)
  | [] => none
  | '"' :: rest => some ([], rest)
  | '\\' :: 'u' :: a :: b :: c :: d :: rest => do
    let n ← hexUnit? a b c d
    let (ns, rest) ← readUnits rest
    return (n :: ns, rest)
  | '\\' :: e :: rest => do
    let n ← escapedUnit? e
    let (ns, rest) ← readUnits rest
    return (n :: ns, rest)
  | c :: rest =>
    if c.toNat < 32 then none
    else do
      let (ns, rest) ← readUnits rest
      return (c.toNat :: ns, rest)

/-- Whether a number is the first half of a surrogate pair. -/
def isHighUnit (n : Nat) : Bool := decide (0xD800 ≤ n) && decide (n < 0xDC00)

/-- Whether a number is the second half of a surrogate pair. -/
def isLowUnit (n : Nat) : Bool := decide (0xDC00 ≤ n) && decide (n < 0xE000)

/-- The characters with these numbers, where two halves in a row make one character. -/
def charsOfUnits : List Nat → Option (List Char)
  | [] => some []
  | m :: n :: ns =>
    if isHighUnit m && isLowUnit n then
      (charsOfUnits ns).map (Char.ofNat (0x10000 + (m - 0xD800) * 0x400 + (n - 0xDC00)) :: ·)
    else if isHighUnit m || isLowUnit m then none
    else (charsOfUnits (n :: ns)).map (Char.ofNat m :: ·)
  | [m] => if isHighUnit m || isLowUnit m then none else some [Char.ofNat m]

/-- A string behind its opening quote. -/
def readString (cs : List Char) : Option (StringValue × List Char) :=
  (readUnits cs).map fun r => ((charsOfUnits r.1).map String.ofList, r.2)

/-! ## Numbers -/

/-- The digits at the front, at least one. -/
def readDigits (cs : List Char) : Option (List Char × List Char) :=
  match cs.takeWhile Char.isDigit with
  | [] => none
  | ds => some (ds, cs.dropWhile Char.isDigit)

/-- The minus sign, if there is one. -/
def readSign : List Char → List Char × List Char
  | '-' :: cs => (['-'], cs)
  | cs => ([], cs)

/-- The digits before a decimal point, without leading zeros. -/
def readWhole : List Char → Option (List Char × List Char)
  | '0' :: cs => some (['0'], cs)
  | cs => readDigits cs

/-- The decimal point and the digits behind it, if there is a point. -/
def readFraction : List Char → Option (List Char × List Char)
  | '.' :: cs => (readDigits cs).map fun r => ('.' :: r.1, r.2)
  | cs => some ([], cs)

/-- The power of ten, if there is one. -/
def readExponent : List Char → Option (List Char × List Char)
  | c :: cs =>
    if c = 'e' ∨ c = 'E' then
      match cs with
      | '+' :: cs => (readDigits cs).map fun r => (c :: '+' :: r.1, r.2)
      | '-' :: cs => (readDigits cs).map fun r => (c :: '-' :: r.1, r.2)
      | cs => (readDigits cs).map fun r => (c :: r.1, r.2)
    else some ([], c :: cs)
  | [] => some ([], [])

/-- A number. -/
def readNumber (cs : List Char) : Option (Value × List Char) := do
  let (sign, cs) := readSign cs
  let (whole, cs) ← readWhole cs
  let (fraction, cs) ← readFraction cs
  let (power, cs) ← readExponent cs
  return (.number (String.ofList (sign ++ whole ++ fraction ++ power)), cs)

/-! ## Values -/

mutual

/-- A value, with white space in front of it. -/
def readValue : Nat → List Char → Option (Value × List Char)
  | 0, _ => none
  | bound + 1, cs =>
    match skipSpace cs with
    | 'n' :: 'u' :: 'l' :: 'l' :: rest => some (.null, rest)
    | 't' :: 'r' :: 'u' :: 'e' :: rest => some (.bool true, rest)
    | 'f' :: 'a' :: 'l' :: 's' :: 'e' :: rest => some (.bool false, rest)
    | '"' :: rest => (readString rest).map fun r => (.string r.1, r.2)
    | '[' :: rest =>
      match skipSpace rest with
      | ']' :: rest => some (.array [], rest)
      | rest => (readElements bound rest).map fun r => (.array r.1, r.2)
    | '\x7b' :: rest =>
      match skipSpace rest with
      | '\x7d' :: rest => some (.object [], rest)
      | rest => (readMembers bound rest).map fun r => (.object r.1, r.2)
    | cs => readNumber cs

/-- The elements of an array, at least one, and the closing bracket. -/
def readElements : Nat → List Char → Option (List Value × List Char)
  | 0, _ => none
  | bound + 1, cs => do
    let (v, rest) ← readValue bound cs
    match skipSpace rest with
    | ',' :: rest => (readElements bound rest).map fun r => (v :: r.1, r.2)
    | ']' :: rest => some ([v], rest)
    | _ => none

/-- The members of an object, at least one, and the closing brace. -/
def readMembers : Nat → List Char → Option (List (StringValue × Value) × List Char)
  | 0, _ => none
  | bound + 1, cs =>
    match skipSpace cs with
    | '"' :: rest => do
      let (t, rest) ← readString rest
      match skipSpace rest with
      | ':' :: rest => do
        let (v, rest) ← readValue bound rest
        match skipSpace rest with
        | ',' :: rest => (readMembers bound rest).map fun r => ((t, v) :: r.1, r.2)
        | '\x7d' :: rest => some ([(t, v)], rest)
        | _ => none
      | _ => none
    | _ => none

end

/-- The value of a text. -/
def parse? (s : String) : Option Value := do
  let (v, rest) ← readValue (2 * s.toList.length + 2) s.toList
  if skipSpace rest = [] then some v else none

end CoinAddress.Json
