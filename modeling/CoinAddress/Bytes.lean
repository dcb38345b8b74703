/-!
# Byte strings

Byte strings are lists of bytes, so that the codecs recurse on them.

* `FixedBytes n` is a byte string of exactly `n` bytes: hashes, private keys and checksums.
* `chunksOf n` cuts a list into pieces of `n` elements; together the pieces are the list again
  (`flatten_chunksOf`).
* `wordsBigEndian` and `wordsLittleEndian` read 32-bit words four bytes at a time.
-/

namespace CoinAddress

/-- A byte string. -/
abbrev Bytes := List UInt8

/-- A byte string of a known length. -/
structure FixedBytes (n : Nat) where
  /-- The bytes in order. -/
  toList : Bytes
  length_toList : toList.length = n
deriving DecidableEq

namespace FixedBytes

/-- A byte string as one of the length `n`, if that is its length. -/
def ofList? (n : Nat) (bs : Bytes) : Option (FixedBytes n) :=
  if h : bs.length = n then some ⟨bs, h⟩ else none

theorem ofList?_toList {n : Nat} (b : FixedBytes n) : ofList? n b.toList = some b := by
  simp [ofList?, b.length_toList]

end FixedBytes

/-! ## Cutting into pieces -/

/-- The consecutive pieces of `n` elements; the last may be shorter. -/
def chunksOf {α : Type} (n : Nat) (xs : List α) : List (List α) :=
  if _h : n = 0 ∨ xs = [] then [] else xs.take n :: chunksOf n (xs.drop n)
termination_by xs.length
decreasing_by
  have : 0 < xs.length := List.length_pos_iff.2 fun e => _h (Or.inr e)
  rw [List.length_drop]
  omega

theorem flatten_chunksOf {α : Type} {n : Nat} (hn : n ≠ 0) (xs : List α) :
    (chunksOf n xs).flatten = xs := by
  fun_induction chunksOf n xs with
  | case1 xs h => simp [h.resolve_left hn]
  | case2 xs _ ih => simp [ih]

/-! ## Words -/

/-- The words of a byte string, most significant byte first; up to three last bytes are left. -/
def wordsBigEndian : Bytes → List UInt32
  | a :: b :: c :: d :: rest =>
    ((a.toUInt32 <<< 24) ||| (b.toUInt32 <<< 16) ||| (c.toUInt32 <<< 8) ||| d.toUInt32) ::
      wordsBigEndian rest
  | _ => []

/-- The words of a byte string, least significant byte first; up to three last bytes are left. -/
def wordsLittleEndian : Bytes → List UInt32
  | a :: b :: c :: d :: rest =>
    ((d.toUInt32 <<< 24) ||| (c.toUInt32 <<< 16) ||| (b.toUInt32 <<< 8) ||| a.toUInt32) ::
      wordsLittleEndian rest
  | _ => []

/-- The four bytes of a word, most significant first. -/
def bigEndianBytes (w : UInt32) : Bytes :=
  [(w >>> 24).toUInt8, (w >>> 16).toUInt8, (w >>> 8).toUInt8, w.toUInt8]

/-- The four bytes of a word, least significant first. -/
def littleEndianBytes (w : UInt32) : Bytes :=
  [w.toUInt8, (w >>> 8).toUInt8, (w >>> 16).toUInt8, (w >>> 24).toUInt8]

end CoinAddress
