import CoinAddress.Bytes

/-!
# SHA-256

The hash function SHA-256 on byte strings. A message is padded to whole blocks of sixteen words
(`Sha256.padded`), each block is stretched to the sixty-four words of its schedule
(`Sha256.schedule`), and `Sha256.compress` mixes a schedule into the eight-word state. `sha256d` is
SHA-256 applied twice, and `checksum` its first four bytes.

The padding is that of RIPEMD-160 too: both hash functions close a message with an end mark, zeros,
and the length of the message in bits as eight bytes; they differ in the order of these eight bytes.
A padded message is a whole number of blocks of 64 bytes (`length_pad_mod`).
-/

namespace CoinAddress.Hash

/-! ## Padding to whole blocks -/

/-- The number of zero bytes between the end mark and the length. -/
def zeroCount (length : Nat) : Nat := (55 + 64 - length % 64) % 64

/-- The message, an end mark, zeros, and the bytes that tell the length. -/
def pad (message lengthBytes : Bytes) : Bytes :=
  message ++ [0x80] ++ List.replicate (zeroCount message.length) 0 ++ lengthBytes

/-- A padded message fills its blocks. -/
theorem length_pad_mod {lengthBytes : Bytes} (h : lengthBytes.length = 8) (message : Bytes) :
    (pad message lengthBytes).length % 64 = 0 := by
  simp [pad, zeroCount, h]
  omega

/-- The two words of the length of a message in bits, the high word first. -/
def bitLength (message : Bytes) : UInt32 × UInt32 :=
  (UInt32.ofNat (8 * message.length / 0x100000000), UInt32.ofNat (8 * message.length))

/-! ## The hash function -/

namespace Sha256

/-- The eight working words. -/
structure State where
  a : UInt32
  b : UInt32
  c : UInt32
  d : UInt32
  e : UInt32
  f : UInt32
  g : UInt32
  h : UInt32

/-- The state before the first block. -/
def initialState : State :=
  ⟨0x6a09e667, 0xbb67ae85, 0x3c6ef372, 0xa54ff53a, 0x510e527f, 0x9b05688c, 0x1f83d9ab, 0x5be0cd19⟩

/-- The constants of the sixty-four rounds. -/
def roundConstants : List UInt32 :=
  [0x428a2f98, 0x71374491, 0xb5c0fbcf, 0xe9b5dba5, 0x3956c25b, 0x59f111f1, 0x923f82a4, 0xab1c5ed5,
   0xd807aa98, 0x12835b01, 0x243185be, 0x550c7dc3, 0x72be5d74, 0x80deb1fe, 0x9bdc06a7, 0xc19bf174,
   0xe49b69c1, 0xefbe4786, 0x0fc19dc6, 0x240ca1cc, 0x2de92c6f, 0x4a7484aa, 0x5cb0a9dc, 0x76f988da,
   0x983e5152, 0xa831c66d, 0xb00327c8, 0xbf597fc7, 0xc6e00bf3, 0xd5a79147, 0x06ca6351, 0x14292967,
   0x27b70a85, 0x2e1b2138, 0x4d2c6dfc, 0x53380d13, 0x650a7354, 0x766a0abb, 0x81c2c92e, 0x92722c85,
   0xa2bfe8a1, 0xa81a664b, 0xc24b8b70, 0xc76c51a3, 0xd192e819, 0xd6990624, 0xf40e3585, 0x106aa070,
   0x19a4c116, 0x1e376c08, 0x2748774c, 0x34b0bcb5, 0x391c0cb3, 0x4ed8aa4a, 0x5b9cca4f, 0x682e6ff3,
   0x748f82ee, 0x78a5636f, 0x84c87814, 0x8cc70208, 0x90befffa, 0xa4506ceb, 0xbef9a3f7, 0xc67178f2]

/-- Rotation to the right. -/
def rotateRight (w : UInt32) (n : UInt32) : UInt32 := (w >>> n) ||| (w <<< (32 - n))

/-- The padded message; its length is written most significant byte first. -/
def padded (message : Bytes) : Bytes :=
  pad message (bigEndianBytes (bitLength message).1 ++ bigEndianBytes (bitLength message).2)

/-! ## Blocks -/

/-- One more word of the schedule, which is kept with the last word first. -/
def stretch (words : List UInt32) : List UInt32 :=
  let near := words.getD 1 0
  let far := words.getD 14 0
  ((rotateRight near 17 ^^^ rotateRight near 19 ^^^ (near >>> 10)) + words.getD 6 0 +
    (rotateRight far 7 ^^^ rotateRight far 18 ^^^ (far >>> 3)) + words.getD 15 0) :: words

/-- The sixty-four words of a block of sixteen. -/
def schedule (block : List UInt32) : List UInt32 := (Nat.repeat stretch 48 block.reverse).reverse

/-- One round with a constant and a word of the schedule. -/
def round (s : State) (k w : UInt32) : State :=
  let t₁ := s.h + (rotateRight s.e 6 ^^^ rotateRight s.e 11 ^^^ rotateRight s.e 25) +
    ((s.e &&& s.f) ^^^ (~~~s.e &&& s.g)) + k + w
  let t₂ := (rotateRight s.a 2 ^^^ rotateRight s.a 13 ^^^ rotateRight s.a 22) +
    ((s.a &&& s.b) ^^^ (s.a &&& s.c) ^^^ (s.b &&& s.c))
  ⟨t₁ + t₂, s.a, s.b, s.c, s.d + t₁, s.e, s.f, s.g⟩

/-- Mix one block into the state. -/
def compress (s : State) (block : List UInt32) : State :=
  let t := (roundConstants.zip (schedule block)).foldl (fun t kw => round t kw.1 kw.2) s
  ⟨s.a + t.a, s.b + t.b, s.c + t.c, s.d + t.d, s.e + t.e, s.f + t.f, s.g + t.g, s.h + t.h⟩

/-- The bytes of a state. -/
def State.bytes (s : State) : Bytes :=
  [s.a, s.b, s.c, s.d, s.e, s.f, s.g, s.h].flatMap bigEndianBytes

theorem State.length_bytes (s : State) : s.bytes.length = 32 := rfl

/-- The SHA-256 hash of a message. -/
def hash (message : Bytes) : FixedBytes 32 :=
  let final := (chunksOf 16 (wordsBigEndian (padded message))).foldl compress initialState
  ⟨final.bytes, final.length_bytes⟩

end Sha256

/-! ## The double hash -/

/-- SHA-256 of the SHA-256 hash. -/
def sha256d (data : Bytes) : FixedBytes 32 := Sha256.hash (Sha256.hash data).toList

/-- The first four bytes of the double SHA-256 hash. -/
def checksum (data : Bytes) : FixedBytes 4 :=
  ⟨(sha256d data).toList.take 4, by simp [(sha256d data).length_toList]⟩

end CoinAddress.Hash
