import CoinAddress.Hash.Sha256

/-!
# RIPEMD-160

The hash function RIPEMD-160 on byte strings. A block of sixteen words passes through two lines of
eighty steps, which read the words in different orders; `Ripemd160.compress` adds the results of
both lines crosswise to the five-word state. `hash160` is what addresses commit to: RIPEMD-160 of
SHA-256.
-/

namespace CoinAddress.Hash

namespace Ripemd160

/-- The five working words. -/
structure State where
  a : UInt32
  b : UInt32
  c : UInt32
  d : UInt32
  e : UInt32

/-- The state before the first block. -/
def initialState : State := ⟨0x67452301, 0xefcdab89, 0x98badcfe, 0x10325476, 0xc3d2e1f0⟩

/-- One step of a line: which of the five functions it mixes with, the word of the block it reads,
the constant it adds and the distance it rotates by. -/
structure Step where
  mix : Fin 5
  word : Nat
  constant : UInt32
  shift : UInt32

/-- The orders in which the left line reads the words, sixteen steps a row. -/
def leftWords : List (List Nat) :=
  [[0, 1, 2, 3, 4, 5, 6, 7, 8, 9, 10, 11, 12, 13, 14, 15],
   [7, 4, 13, 1, 10, 6, 15, 3, 12, 0, 9, 5, 2, 14, 11, 8],
   [3, 10, 14, 4, 9, 15, 8, 1, 2, 7, 0, 6, 13, 11, 5, 12],
   [1, 9, 11, 10, 0, 8, 12, 4, 13, 3, 7, 15, 14, 5, 6, 2],
   [4, 0, 5, 9, 7, 12, 2, 10, 14, 1, 3, 8, 11, 6, 15, 13]]

/-- The orders in which the right line reads the words. -/
def rightWords : List (List Nat) :=
  [[5, 14, 7, 0, 9, 2, 11, 4, 13, 6, 15, 8, 1, 10, 3, 12],
   [6, 11, 3, 7, 0, 13, 5, 10, 14, 15, 8, 12, 4, 9, 1, 2],
   [15, 5, 1, 3, 7, 14, 6, 9, 11, 8, 12, 2, 10, 0, 4, 13],
   [8, 6, 4, 1, 3, 11, 15, 0, 5, 12, 2, 13, 9, 7, 10, 14],
   [12, 15, 10, 4, 1, 5, 8, 7, 6, 2, 13, 14, 0, 3, 9, 11]]

/-- The rotations of the left line. -/
def leftShifts : List (List UInt32) :=
  [[11, 14, 15, 12, 5, 8, 7, 9, 11, 13, 14, 15, 6, 7, 9, 8],
   [7, 6, 8, 13, 11, 9, 7, 15, 7, 12, 15, 9, 11, 7, 13, 12],
   [11, 13, 6, 7, 14, 9, 13, 15, 14, 8, 13, 6, 5, 12, 7, 5],
   [11, 12, 14, 15, 14, 15, 9, 8, 9, 14, 5, 6, 8, 6, 5, 12],
   [9, 15, 5, 11, 6, 8, 13, 12, 5, 12, 13, 14, 11, 8, 5, 6]]

/-- The rotations of the right line. -/
def rightShifts : List (List UInt32) :=
  [[8, 9, 9, 11, 13, 15, 15, 5, 7, 7, 8, 11, 14, 14, 12, 6],
   [9, 13, 15, 7, 12, 8, 9, 11, 7, 7, 12, 7, 6, 15, 13, 11],
   [9, 7, 15, 11, 8, 6, 6, 14, 12, 13, 5, 14, 13, 13, 7, 5],
   [15, 5, 8, 11, 14, 14, 6, 14, 6, 9, 12, 9, 12, 5, 15, 8],
   [8, 5, 12, 9, 12, 5, 14, 6, 8, 13, 6, 5, 15, 13, 11, 11]]

/-- The steps of a line, given row by row. -/
def steps (rows : List (Fin 5 × UInt32)) (words : List (List Nat)) (shifts : List (List UInt32)) :
    List Step :=
  (rows.zip (words.zip shifts)).flatMap fun row =>
    (row.2.1.zip row.2.2).map fun ws => ⟨row.1.1, ws.1, row.1.2, ws.2⟩

/-- The eighty steps of the left line. -/
def leftSteps : List Step :=
  steps [(0, 0), (1, 0x5a827999), (2, 0x6ed9eba1), (3, 0x8f1bbcdc), (4, 0xa953fd4e)]
    leftWords leftShifts

/-- The eighty steps of the right line, which mixes with the functions in reverse order. -/
def rightSteps : List Step :=
  steps [(4, 0x50a28be6), (3, 0x5c4dd124), (2, 0x6d703ef3), (1, 0x7a6d76e9), (0, 0)]
    rightWords rightShifts

/-- The functions that a step may mix with. -/
def mix (i : Fin 5) (x y z : UInt32) : UInt32 :=
  match i with
  | 0 => x ^^^ y ^^^ z
  | 1 => (x &&& y) ||| (~~~x &&& z)
  | 2 => (x ||| ~~~y) ^^^ z
  | 3 => (x &&& z) ||| (y &&& ~~~z)
  | 4 => x ^^^ (y ||| ~~~z)

/-- Rotation to the left. -/
def rotateLeft (w : UInt32) (n : UInt32) : UInt32 := (w <<< n) ||| (w >>> (32 - n))

/-- One step of a line on a block. -/
def step (block : List UInt32) (s : State) (p : Step) : State :=
  let sum := s.a + mix p.mix s.b s.c s.d + block.getD p.word 0 + p.constant
  ⟨s.e, rotateLeft sum p.shift + s.e, s.b, rotateLeft s.c 10, s.d⟩

/-- Mix one block into the state. -/
def compress (s : State) (block : List UInt32) : State :=
  let l := leftSteps.foldl (step block) s
  let r := rightSteps.foldl (step block) s
  ⟨s.b + l.c + r.d, s.c + l.d + r.e, s.d + l.e + r.a, s.e + l.a + r.b, s.a + l.b + r.c⟩

/-- The padded message; its length is written least significant byte first. -/
def padded (message : Bytes) : Bytes :=
  pad message (littleEndianBytes (bitLength message).2 ++ littleEndianBytes (bitLength message).1)

/-- The bytes of a state. -/
def State.bytes (s : State) : Bytes := [s.a, s.b, s.c, s.d, s.e].flatMap littleEndianBytes

theorem State.length_bytes (s : State) : s.bytes.length = 20 := rfl

/-- The RIPEMD-160 hash of a message. -/
def hash (message : Bytes) : FixedBytes 20 :=
  let final := (chunksOf 16 (wordsLittleEndian (padded message))).foldl compress initialState
  ⟨final.bytes, final.length_bytes⟩

end Ripemd160

/-- RIPEMD-160 of the SHA-256 hash. -/
def hash160 (data : Bytes) : FixedBytes 20 := Ripemd160.hash (Sha256.hash data).toList

end CoinAddress.Hash
