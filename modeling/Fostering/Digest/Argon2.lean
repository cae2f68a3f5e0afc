import Fostering.Digest.Blake2b

/-!
# Argon2

A digest of a password that takes much memory to compute. The memory is a table of blocks with one
row, a *lane*, for each degree of parallelism; each block is made from the one before it in its lane
and from one that was made earlier, anywhere in the table. The variants differ in how that earlier
block is chosen: by the contents of the block before, or by position alone.
-/

namespace Fostering.Argon2

/-- How the earlier block is chosen. -/
inductive Variant where
  /-- By contents. -/
  | d
  /-- By position. -/
  | i
  /-- By position in the first half of the first pass, by contents after that. -/
  | id
  deriving DecidableEq

/-- The number of a variant. -/
def Variant.number : Variant → Nat
  | d => 0
  | i => 1
  | id => 2

/-- What the digest depends on besides the password and the salt. -/
structure Params where
  variant : Variant := .id
  /-- 19 adds what a later pass makes to what was there, 16 replaces it. -/
  version : Nat := 19
  /-- Blocks of memory, before rounding down. -/
  memory : Nat := 19456
  passes : Nat := 2
  lanes : Nat := 1
  /-- Data that belongs to the digest but to neither password nor salt. -/
  associated : Bytes := []
  deriving DecidableEq

namespace Params

/-- Blocks of a segment: a quarter of a lane. -/
def segment (p : Params) : Nat := p.memory / (4 * p.lanes)

/-- Blocks of a lane. -/
def laneLength (p : Params) : Nat := 4 * p.segment

end Params

/-- A number in four bytes, the lowest first. -/
def word (n : Nat) : Bytes := Bytes.ofNatLow 4 n

/-- A byte string after its length. -/
def counted (bytes : Bytes) : Bytes := word bytes.length ++ bytes

/-- The parts of a long digest that lead up to its last part, and what the last part is made of. -/
def longParts : Nat → Bytes → Bytes × Bytes
  | 0, v => ([], v)
  | n + 1, v =>
    let (rest, last) := longParts n (Blake2b.digest 64 v)
    (v.take 32 ++ rest, last)

/-- A digest of any length. -/
def longDigest (length : Nat) (message : Bytes) : Bytes :=
  let message := word length ++ message
  if length ≤ 64 then Blake2b.digest length message
  else
    let parts := (length + 31) / 32 - 2
    let (front, last) := longParts (parts - 1) (Blake2b.digest 64 message)
    front ++ last.take 32 ++ Blake2b.digest (length - 32 * parts) last

/-- The digest of everything that the memory is filled from. -/
def seed (p : Params) (password salt : Bytes) (length : Nat) : Bytes :=
  Blake2b.digest 64 (word p.lanes ++ word length ++ word p.memory ++ word p.passes ++ word p.version
    ++ word p.variant.number ++ counted password ++ counted salt ++ counted []
    ++ counted p.associated)

/-! ## Making one block from two -/

/-- A sum with a product, which is slow to undo. -/
@[inline] def blend (x y : UInt64) : UInt64 :=
  x + y + 2 * ((x &&& 0xFFFFFFFF) * (y &&& 0xFFFFFFFF))

/-- Mixes four words and goes on with them. -/
@[inline] def quarter {α : Type} (a b c d : UInt64)
    (next : UInt64 → UInt64 → UInt64 → UInt64 → α) : α :=
  let a := blend a b
  let d := Blake2b.rotateRight (d ^^^ a) 32
  let c := blend c d
  let b := Blake2b.rotateRight (b ^^^ c) 24
  let a := blend a b
  let d := Blake2b.rotateRight (d ^^^ a) 16
  let c := blend c d
  let b := Blake2b.rotateRight (b ^^^ c) 63
  next a b c d

/-- Mixes a row: the columns of a square of four by four words, and then its diagonals. -/
def mixRow (r : WordRow) : WordRow :=
  quarter r.x0 r.x4 r.x8 r.x12 fun x0 x4 x8 x12 =>
  quarter r.x1 r.x5 r.x9 r.x13 fun x1 x5 x9 x13 =>
  quarter r.x2 r.x6 r.x10 r.x14 fun x2 x6 x10 x14 =>
  quarter r.x3 r.x7 r.x11 r.x15 fun x3 x7 x11 x15 =>
  quarter x0 x5 x10 x15 fun x0 x5 x10 x15 =>
  quarter x1 x6 x11 x12 fun x1 x6 x11 x12 =>
  quarter x2 x7 x8 x13 fun x2 x7 x8 x13 =>
  quarter x3 x4 x9 x14 fun x3 x4 x9 x14 =>
  ⟨x0, x1, x2, x3, x4, x5, x6, x7, x8, x9, x10, x11, x12, x13, x14, x15⟩

/-- A block made from two. -/
def combine (x y : Block) : Block :=
  let sum := x.xor y
  (((sum.mapRows mixRow).transpose.mapRows mixRow).transpose).xor sum

/-! ## Choosing the earlier block -/

/-- Where in the table a block is made. -/
structure Position where
  pass : Nat
  slice : Nat
  lane : Nat
  /-- The place in the segment. -/
  index : Nat

/-- The block of choices by position, with this number within its segment. -/
def choices (p : Params) (pos : Position) (number : Nat) : Block :=
  let words := [pos.pass, pos.lane, pos.slice, 4 * p.segment * p.lanes, p.passes, p.variant.number,
    number].map UInt64.ofNat
  combine .zero (combine .zero { Block.zero with r0 := .ofList words })

/-- Whether choices are made by position. -/
def byPosition (p : Params) (pos : Position) : Bool :=
  match p.variant with
  | .d => false
  | .i => true
  | .id => pos.pass = 0 && pos.slice < 2

/-- The number of blocks that may be chosen from, in the same lane or in another one. -/
def areaSize (p : Params) (pos : Position) (sameLane : Bool) : Nat :=
  let made := if pos.pass = 0 then pos.slice * p.segment else p.laneLength - p.segment
  if sameLane then made + pos.index - 1
  else made - (if pos.index = 0 then 1 else 0)

/-- The lane and the place that a word chooses. -/
def chosen (p : Params) (pos : Position) (choice : UInt64) : Nat × Nat :=
  let low := choice.toNat % 2 ^ 32
  let high := choice.toNat / 2 ^ 32
  let lane := if pos.pass = 0 ∧ pos.slice = 0 then pos.lane else high % p.lanes
  let area := areaSize p pos (lane = pos.lane)
  let offset := area - 1 - area * (low * low / 2 ^ 32) / 2 ^ 32
  let start := if pos.pass = 0 ∨ pos.slice = 3 then 0 else (pos.slice + 1) * p.segment
  (lane, (start + offset) % p.laneLength)

/-! ## Filling the memory -/

/-- The table of blocks, lane after lane. -/
abbrev Memory := Array Block

/-- Makes the blocks of a segment from an index on. `table` holds the choices by position. -/
def fillSegment (p : Params) (pass slice lane : Nat) (table : Array UInt64) :
    Nat → Nat → Memory → Memory
  | 0, _, memory => memory
  | left + 1, index, memory =>
    let pos : Position := ⟨pass, slice, lane, index⟩
    let column := slice * p.segment + index
    let base := lane * p.laneLength
    let previous := memory.getD (base + (column + p.laneLength - 1) % p.laneLength) .zero
    let positional := byPosition p pos
    let table :=
      if positional && (index % 128 = 0 || (index = 2 && pass = 0 && slice = 0)) then
        (choices p pos (index / 128 + 1)).toList.toArray
      else table
    let choice := if positional then table.getD (index % 128) 0 else previous.r0.x0
    let (refLane, refIndex) := chosen p pos choice
    let made := combine previous (memory.getD (refLane * p.laneLength + refIndex) .zero)
    let made :=
      if pass = 0 ∨ p.version = 16 then made else made.xor (memory.getD (base + column) .zero)
    fillSegment p pass slice lane table left (index + 1) (memory.setIfInBounds (base + column) made)

/-- Makes the blocks of a slice, lane after lane. -/
def fillSlice (p : Params) (pass slice : Nat) (memory : Memory) : Memory :=
  (List.range p.lanes).foldl (fun memory lane =>
    let start := if pass = 0 ∧ slice = 0 then 2 else 0
    fillSegment p pass slice lane #[] (p.segment - start) start memory) memory

/-- The block of 1024 bytes. -/
def blockOf (bytes : Bytes) : Block :=
  let words := (Bytes.groups 7 bytes).map fun group => UInt64.ofNat (Bytes.toNatLow group)
  .ofRows ((Bytes.groups 15 words).map .ofList)

/-- The first two blocks of each lane, and zeros. -/
def startMemory (p : Params) (seed : Bytes) : Memory :=
  (List.range p.lanes).foldl (fun memory lane =>
    let first (n : Nat) : Block := blockOf (longDigest 1024 (seed ++ word n ++ word lane))
    (memory.setIfInBounds (lane * p.laneLength) (first 0)).setIfInBounds (lane * p.laneLength + 1)
      (first 1)) (Array.replicate (p.lanes * p.laneLength) .zero)

/-- The digest of a password with a salt, in `length` bytes. -/
def digest (p : Params) (password salt : Bytes) (length : Nat) : Bytes :=
  let start := startMemory p (seed p password salt length)
  let filled := (List.range p.passes).foldl (fun memory pass =>
    (List.range 4).foldl (fun memory slice => fillSlice p pass slice memory) memory) start
  let last := (List.range p.lanes).foldl (fun (block : Block) lane =>
    block.xor (filled.getD ((lane + 1) * p.laneLength - 1) .zero)) .zero
  longDigest length (Blake2b.bytesOf last.toList)

end Fostering.Argon2
