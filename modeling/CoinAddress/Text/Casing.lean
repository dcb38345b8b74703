import CoinAddress.Text.Casing.Table

/-!
# Lower case

`lowercase` is the full lower-case mapping of Unicode without regard to a language. Two characters
need more than the table: the capital I with a dot becomes two characters, and the capital sigma
has a final form, used where a cased letter stands before it and none follows, characters that are
ignored for case aside.
-/

namespace CoinAddress.Text

/-- The lower-case form of a character other than the capital sigma. -/
def lowercaseChar (c : Char) : List Char :=
  if c.toNat < 128 then [c.toLower]
  else if c.toNat = 0x130 then ['i', Char.ofNat 0x307]
  else
    match loweredRuns.findSome? fun r => r.lower? c.toNat with
    | some n => [Char.ofNat n]
    | none => [c]

/-- Whether the first character that counts for case is cased. -/
def startsCased (cs : List Char) : Bool :=
  match cs.dropWhile isCaseIgnorable with
  | c :: _ => isCased c
  | [] => false

/-- The lower-case form of characters, where `before` holds in reverse what stands in front. -/
def lowercaseAfter (before : List Char) : List Char → List Char
  | [] => []
  | c :: cs =>
    (if c = 'Σ' then [if startsCased before && !startsCased cs then 'ς' else 'σ']
      else lowercaseChar c) ++ lowercaseAfter (c :: before) cs

/-- The lower-case form of a text. -/
def lowercase (s : String) : String := String.ofList (lowercaseAfter [] s.toList)

end CoinAddress.Text
