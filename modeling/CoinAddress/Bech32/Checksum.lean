import CoinAddress.Bytes

/-!
# The checksum of bech32 texts

Texts of symbols with five bits are protected by a cyclic code. `residue` feeds symbols to a
register of thirty bits; a text is valid if the residue of its expanded human-readable part and all
its symbols is the constant of its variant.

* `Symbol` is a value of five bits, with its character (`Symbol.char`, `Symbol.ofChar?`).
* `Variant` is one of the two constants.
* `checksum` gives the six symbols that bring the residue to the constant of a variant.
-/

namespace CoinAddress.Bech32

/-! ## Symbols -/

/-- A value of five bits. -/
abbrev Symbol := BitVec 5

/-- The characters of the symbols in order. -/
def alphabet : List Char := "qpzry9x8gf2tvdw0s3jn54khce6mua7l".toList

/-- The character of a symbol. -/
def Symbol.char (d : Symbol) : Char := alphabet.getD d.toNat 'q'

/-- The symbol with a lower-case character. -/
def Symbol.ofChar? (c : Char) : Option Symbol := (alphabet.idxOf? c).map (BitVec.ofNat 5)

/-- A symbol that is written reads back. -/
theorem Symbol.ofChar?_char (d : Symbol) : Symbol.ofChar? d.char = some d := by
  have all : ∀ m ∈ List.range 32, Symbol.ofChar? (Symbol.char (BitVec.ofNat 5 m)) =
      some (BitVec.ofNat 5 m) := by decide
  have h := all d.toNat (List.mem_range.2 d.isLt)
  rwa [BitVec.ofNat_toNat, BitVec.setWidth_eq] at h

/-- The symbol as a byte. -/
def Symbol.byte (d : Symbol) : UInt8 := UInt8.ofNat d.toNat

/-- A byte as a symbol, if it has no more than five bits. -/
def Symbol.ofByte? (b : UInt8) : Option Symbol :=
  if b.toNat < 32 then some (BitVec.ofNat 5 b.toNat) else none

/-! ## Variants -/

/-- The two codes, which differ in the residue of their valid texts. -/
inductive Variant where
  | bech32
  | bech32m
deriving DecidableEq

namespace Variant

/-- The residue of the valid texts of a variant. -/
def constant : Variant → BitVec 30
  | bech32 => 1
  | bech32m => 0x2bc830a3

/-- The variant for a witness version. -/
def ofWitnessVersion (version : UInt8) : Variant := if version = 0 then bech32 else bech32m

/-- The variant with a given residue. -/
def ofResidue? (r : BitVec 30) : Option Variant :=
  if r = bech32.constant then some bech32
  else if r = bech32m.constant then some bech32m
  else none

/-- The name of a variant. -/
def label : Variant → String
  | bech32 => "bech32"
  | bech32m => "bech32m"

end Variant

/-! ## The register -/

/-- The bits that the register takes back for each of the five bits it drops, the lowest first. -/
def feedbackTerms : List (BitVec 30) :=
  [0x3b6a57b2, 0x26508e6d, 0x1ea119fa, 0x3d4233dd, 0x2a1462b3]

/-- What the register takes back for the five bits it drops. -/
def feedback (top : Symbol) : BitVec 30 :=
  feedbackTerms.zipIdx.foldl (fun r term => if top.getLsbD term.2 then r ^^^ term.1 else r) 0

/-- The register after one more symbol. -/
def step (r : BitVec 30) (d : Symbol) : BitVec 30 :=
  (r <<< 5) ^^^ d.setWidth 30 ^^^ feedback ((r >>> 25).setWidth 5)

/-- The register after symbols. -/
def run (r : BitVec 30) (ds : List Symbol) : BitVec 30 := ds.foldl step r

/-- A human-readable part as symbols: the high bits of its characters, a zero, the low bits. -/
def expand (hrp : List Char) : List Symbol :=
  hrp.map (fun c => BitVec.ofNat 5 (c.toNat / 32)) ++ 0 ::
    hrp.map (fun c => BitVec.ofNat 5 c.toNat)

/-- The residue of a human-readable part and symbols. -/
def residue (hrp : List Char) (ds : List Symbol) : BitVec 30 := run 1 (expand hrp ++ ds)

/-! ## The checksum -/

/-- The number of symbols of a checksum. -/
def checksumLength : Nat := 6

/-- The six symbols of a register. -/
def registerSymbols (r : BitVec 30) : List Symbol :=
  [25, 20, 15, 10, 5, 0].map fun i => (r >>> i).setWidth 5

/-- The symbols that complete data to a valid text. -/
def checksum (variant : Variant) (hrp : List Char) (ds : List Symbol) : List Symbol :=
  registerSymbols (residue hrp (ds ++ List.replicate checksumLength 0) ^^^ variant.constant)

theorem length_checksum (variant : Variant) (hrp : List Char) (ds : List Symbol) :
    (checksum variant hrp ds).length = checksumLength := rfl

end CoinAddress.Bech32
