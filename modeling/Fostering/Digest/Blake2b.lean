import Fostering.Bytes
import Fostering.Digest.Row
import Fostering.Power

/-!
# BLAKE2b

The digest of a byte string in one to sixty-four bytes, without a key. A message is taken in blocks of
sixteen words of 64 bits; twelve rounds mix each block into eight words of state.
-/

namespace Fostering.Blake2b

/-- The state before the first block: fractions of the square roots of the first eight primes. -/
def startWords : List UInt64 :=
  [0x6a09e667f3bcc908, 0xbb67ae8584caa73b, 0x3c6ef372fe94f82b, 0xa54ff53a5f1d36f1,
   0x510e527fade682d1, 0x9b05688c2b3e6c1f, 0x1f83d9abfb41bd6b, 0x5be0cd19137e2179]

/-- The order in which each round takes the words of a block; after ten rounds it begins again. -/
def schedules : List (List Nat) :=
  [[0, 1, 2, 3, 4, 5, 6, 7, 8, 9, 10, 11, 12, 13, 14, 15],
   [14, 10, 4, 8, 9, 15, 13, 6, 1, 12, 0, 2, 11, 7, 5, 3],
   [11, 8, 12, 0, 5, 2, 15, 13, 10, 14, 3, 6, 7, 1, 9, 4],
   [7, 9, 3, 1, 13, 12, 11, 14, 2, 6, 5, 10, 4, 0, 15, 8],
   [9, 0, 5, 7, 2, 4, 10, 15, 14, 1, 11, 12, 6, 8, 3, 13],
   [2, 12, 6, 10, 0, 11, 8, 3, 4, 13, 7, 5, 15, 14, 1, 9],
   [12, 5, 1, 15, 14, 13, 4, 10, 0, 7, 6, 3, 9, 2, 8, 11],
   [13, 11, 7, 14, 12, 1, 3, 9, 5, 0, 15, 4, 8, 6, 2, 10],
   [6, 15, 14, 9, 11, 3, 0, 8, 12, 2, 13, 7, 1, 4, 10, 5],
   [10, 2, 8, 4, 7, 6, 1, 5, 15, 11, 9, 14, 3, 12, 13, 0],
   [0, 1, 2, 3, 4, 5, 6, 7, 8, 9, 10, 11, 12, 13, 14, 15],
   [14, 10, 4, 8, 9, 15, 13, 6, 1, 12, 0, 2, 11, 7, 5, 3]]

/-- A word turned to the right. -/
@[inline] def rotateRight (x n : UInt64) : UInt64 := (x >>> n) ||| (x <<< (64 - n))

/-- Four words mixed with two words of a block. -/
structure Quarter where
  a : UInt64
  b : UInt64
  c : UInt64
  d : UInt64

/-- Mixes two words of a block into four words. -/
def Quarter.mix (q : Quarter) (x y : UInt64) : Quarter :=
  let a := q.a + q.b + x
  let d := rotateRight (q.d ^^^ a) 32
  let c := q.c + d
  let b := rotateRight (q.b ^^^ c) 24
  let a := a + b + y
  let d := rotateRight (d ^^^ a) 16
  let c := c + d
  let b := rotateRight (b ^^^ c) 63
  ⟨a, b, c, d⟩

/-- One round: the columns of a square of four by four words, and then its diagonals. The words of
the block come in the order of the round. -/
def round (v : WordRow) (m : WordRow) : WordRow :=
  let q0 := Quarter.mix ⟨v.x0, v.x4, v.x8, v.x12⟩ m.x0 m.x1
  let q1 := Quarter.mix ⟨v.x1, v.x5, v.x9, v.x13⟩ m.x2 m.x3
  let q2 := Quarter.mix ⟨v.x2, v.x6, v.x10, v.x14⟩ m.x4 m.x5
  let q3 := Quarter.mix ⟨v.x3, v.x7, v.x11, v.x15⟩ m.x6 m.x7
  let p0 := Quarter.mix ⟨q0.a, q1.b, q2.c, q3.d⟩ m.x8 m.x9
  let p1 := Quarter.mix ⟨q1.a, q2.b, q3.c, q0.d⟩ m.x10 m.x11
  let p2 := Quarter.mix ⟨q2.a, q3.b, q0.c, q1.d⟩ m.x12 m.x13
  let p3 := Quarter.mix ⟨q3.a, q0.b, q1.c, q2.d⟩ m.x14 m.x15
  ⟨p0.a, p1.a, p2.a, p3.a, p3.b, p0.b, p1.b, p2.b, p2.c, p3.c, p0.c, p1.c, p1.d, p2.d, p3.d, p0.d⟩

/-- The words of a block in the order of a round. -/
def arranged (words : List UInt64) (schedule : List Nat) : WordRow :=
  .ofList (schedule.map fun i => words.getD i 0)

/-- Takes a block in; `taken` counts the bytes up to its end. -/
def compress (state : List UInt64) (words : List UInt64) (taken : Nat) (last : Bool) :
    List UInt64 :=
  let low := UInt64.ofNat (taken % 2 ^ 64)
  let high := UInt64.ofNat (taken / 2 ^ 64)
  let start := WordRow.ofList (state ++ startWords)
  let start := { start with
    x12 := start.x12 ^^^ low
    x13 := start.x13 ^^^ high
    x14 := if last then ~~~start.x14 else start.x14 }
  let v := (schedules.foldl (fun v schedule => round v (arranged words schedule)) start).toList
  List.zipWith (· ^^^ ·) state (List.zipWith (· ^^^ ·) (v.take 8) (v.drop 8))

/-- The words of a block; a short block is filled up with zeros. -/
def wordsOf (bytes : Bytes) : List UInt64 :=
  (Bytes.groups 7 (bytes ++ List.replicate (128 - bytes.length) 0)).map fun group =>
    UInt64.ofNat (Bytes.toNatLow group)

/-- Takes the blocks of a message in, of which there is at least one. -/
def absorb (state : List UInt64) (taken : Nat) : List Bytes → List UInt64
  | [] => state
  | [block] => compress state (wordsOf block) (taken + block.length) true
  | block :: blocks =>
    absorb (compress state (wordsOf block) (taken + block.length) false) (taken + block.length) blocks

/-- The bytes of words, the lowest byte first. -/
def bytesOf (words : List UInt64) : Bytes := words.flatMap fun w => Bytes.ofNatLow 8 w.toNat

/-- The digest of a message in `length` bytes, at most sixty-four. -/
def digest (length : Nat) (message : Bytes) : Bytes :=
  let parameters := UInt64.ofNat (0x01010000 + length)
  let start :=
    match startWords with
    | w :: ws => (w ^^^ parameters) :: ws
    | [] => []
  let blocks := if message.isEmpty then [[]] else Bytes.groups 127 message
  (bytesOf (absorb start 0 blocks)).take length

end Fostering.Blake2b
