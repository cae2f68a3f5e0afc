import Fostering.Bytes

/-!
# Text as bytes

The bytes of a text in UTF-8, and the two readings of bytes as text: `decode?` refuses bytes that
are not UTF-8, `decodeLossy` puts the replacement character in the place of each of their largest
ill-formed pieces.
-/

namespace Fostering.Utf8

/-- The bytes of a text. -/
def encode (text : String) : Bytes := text.toUTF8.data.toList

/-- What a lead byte announces: the trailing bytes, the bits it brings, and the bounds of the first
trailing byte, which are narrower than usual where a shorter form or a surrogate would arise. -/
def lead? (b : UInt8) : Option (Nat × Nat × UInt8 × UInt8) :=
  let n := b.toNat
  if n < 0xC2 then none
  else if n < 0xE0 then some (1, n - 0xC0, 0x80, 0xBF)
  else if n = 0xE0 then some (2, 0, 0xA0, 0xBF)
  else if n = 0xED then some (2, 13, 0x80, 0x9F)
  else if n < 0xF0 then some (2, n - 0xE0, 0x80, 0xBF)
  else if n = 0xF0 then some (3, 0, 0x90, 0xBF)
  else if n < 0xF4 then some (3, n - 0xF0, 0x80, 0xBF)
  else if n = 0xF4 then some (3, 4, 0x80, 0x8F)
  else none

/-- What the bytes at the front of a byte string are. -/
inductive Piece where
  /-- A character and the bytes after it. -/
  | char (c : Char) (rest : Bytes)
  /-- Bytes that begin no character, and the bytes after the largest such piece. -/
  | illFormed (rest : Bytes)

/-- Reads the trailing bytes of a character. -/
def trail (value : Nat) (low high : UInt8) : Nat → Bytes → Piece
  | 0, rest => .char (Char.ofNat value) rest
  | n + 1, b :: rest =>
    if low ≤ b ∧ b ≤ high then trail (64 * value + (b.toNat - 0x80)) 0x80 0xBF n rest
    else .illFormed (b :: rest)
  | _ + 1, [] => .illFormed []

/-- Takes the first piece off. -/
def piece (b : UInt8) (rest : Bytes) : Piece :=
  if b < 0x80 then .char (Char.ofNat b.toNat) rest
  else
    match lead? b with
    | none => .illFormed rest
    | some (count, value, low, high) => trail value low high count rest

/-- The bytes after a piece. -/
def Piece.rest : Piece → Bytes
  | char _ rest | illFormed rest => rest

/-- The bytes of a character are not given back. -/
theorem length_rest_trail (value : Nat) (low high : UInt8) (n : Nat) (bytes : Bytes) :
    (trail value low high n bytes).rest.length ≤ bytes.length := by
  induction n generalizing value low high bytes with
  | zero => simp [trail, Piece.rest]
  | succ n ih =>
    cases bytes with
    | nil => simp [trail, Piece.rest]
    | cons b bytes =>
      unfold trail
      split
      · exact Nat.le_trans (ih ..) (by simp)
      · simp [Piece.rest]

theorem length_rest_piece (b : UInt8) (bytes : Bytes) :
    (piece b bytes).rest.length ≤ bytes.length := by
  unfold piece
  split
  · simp [Piece.rest]
  · split
    · simp [Piece.rest]
    · exact length_rest_trail ..

/-- Reads characters onto a reversed accumulator, or refuses. -/
def decodeOnto (acc : List Char) : Bytes → Option (List Char)
  | [] => some acc.reverse
  | b :: bytes =>
    match h : piece b bytes with
    | .char c rest =>
      have : rest.length < (b :: bytes).length := by
        have := length_rest_piece b bytes
        rw [h] at this
        exact Nat.lt_succ_of_le this
      decodeOnto (c :: acc) rest
    | .illFormed _ => none
termination_by bytes => bytes.length
decreasing_by exact this

/-- The text of these bytes, if they are UTF-8. -/
def decode? (bytes : Bytes) : Option String := (decodeOnto [] bytes).map String.ofList

/-- The character that stands for an ill-formed piece. -/
def replacement : Char := '\uFFFD'

/-- Reads characters onto a reversed accumulator, with replacements. -/
def decodeLossyOnto (acc : List Char) : Bytes → List Char
  | [] => acc.reverse
  | b :: bytes =>
    match h : piece b bytes with
    | .char c rest =>
      have : rest.length < (b :: bytes).length := by
        have := length_rest_piece b bytes
        rw [h] at this
        exact Nat.lt_succ_of_le this
      decodeLossyOnto (c :: acc) rest
    | .illFormed rest =>
      have : rest.length < (b :: bytes).length := by
        have := length_rest_piece b bytes
        rw [h] at this
        exact Nat.lt_succ_of_le this
      decodeLossyOnto (replacement :: acc) rest
termination_by bytes => bytes.length
decreasing_by all_goals exact this

/-- The text of these bytes, with a replacement character for each ill-formed piece. -/
def decodeLossy (bytes : Bytes) : String := String.ofList (decodeLossyOnto [] bytes)

end Fostering.Utf8
