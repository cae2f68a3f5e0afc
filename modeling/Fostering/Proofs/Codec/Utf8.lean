import Mathlib.Data.List.Basic
import Fostering.Text.Utf8

/-!
# Text as bytes, and back

The bytes of a text are read back as that text, and bytes that are read as a text are its bytes.

* `piece_encode`, `eq_encode_of_piece`: the same of a single character at the front of a byte string.
* `decode?_encode`, `encode_of_decode?`: the two directions.
-/

namespace Fostering.Utf8

open String (utf8EncodeChar)

/-! ## Trailing bytes -/

/-- A number below 256 is kept by its byte. -/
theorem toNat_ofNat_of_lt {n : Nat} (h : n < 256) : (UInt8.ofNat n).toNat = n := by
  rw [UInt8.toNat_ofNat']
  exact Nat.mod_eq_of_lt h

/-- A trailing byte within its bounds is taken. -/
theorem trail_cons {value n k : Nat} {low high : UInt8} {rest : Bytes} (hk : k < 64)
    (hlow : low.toNat ≤ k + 128) (hhigh : k + 128 ≤ high.toNat) :
    trail value low high (n + 1) (UInt8.ofNat (k + 128) :: rest) =
      trail (64 * value + k) 0x80 0xBF n rest := by
  have hbyte : (UInt8.ofNat (k + 128)).toNat = k + 128 := toNat_ofNat_of_lt (by omega)
  have hwithin : low ≤ UInt8.ofNat (k + 128) ∧ UInt8.ofNat (k + 128) ≤ high := by
    rw [UInt8.le_iff_toNat_le, UInt8.le_iff_toNat_le, hbyte]
    exact ⟨hlow, hhigh⟩
  rw [trail, if_pos hwithin, hbyte, Nat.add_sub_cancel]

/-- Trailing bytes that give a character are within their bounds. -/
theorem exists_of_trail {value n : Nat} {low high : UInt8} {bytes rest : Bytes} {c : Char}
    (h : trail value low high (n + 1) bytes = .char c rest) :
    ∃ b tail, bytes = b :: tail ∧ low.toNat ≤ b.toNat ∧ b.toNat ≤ high.toNat ∧
      trail (64 * value + (b.toNat - 0x80)) 0x80 0xBF n tail = .char c rest := by
  cases bytes with
  | nil => cases h
  | cons b tail =>
      unfold trail at h
      split_ifs at h with hwithin
      rw [UInt8.le_iff_toNat_le, UInt8.le_iff_toNat_le] at hwithin
      exact ⟨b, tail, rfl, hwithin.1, hwithin.2, h⟩

/-! ## Single characters -/

/-- The scalar value of a character. -/
theorem toNat_cases (c : Char) : c.val.toNat < 0xD800 ∨ 0xDFFF < c.val.toNat ∧ c.val.toNat < 0x110000 :=
  c.valid

/-- A lead byte, by its value. -/
theorem lead?_ofNat {n : Nat} (h : n < 256) :
    lead? (UInt8.ofNat n) =
      if n < 0xC2 then none
      else if n < 0xE0 then some (1, n - 0xC0, 0x80, 0xBF)
      else if n = 0xE0 then some (2, 0, 0xA0, 0xBF)
      else if n = 0xED then some (2, 13, 0x80, 0x9F)
      else if n < 0xF0 then some (2, n - 0xE0, 0x80, 0xBF)
      else if n = 0xF0 then some (3, 0, 0x90, 0xBF)
      else if n < 0xF4 then some (3, n - 0xF0, 0x80, 0xBF)
      else if n = 0xF4 then some (3, 4, 0x80, 0x8F)
      else none := by
  unfold lead?
  rw [toNat_ofNat_of_lt h]

/-- The lead byte of three bytes. Its bounds for the next one leave out shorter forms and surrogates. -/
theorem lead?_of_three {v : Nat} (hleast : 0x7FF < v) (hmost : v ≤ 0xFFFF) (hvalid : v < 0xD800 ∨ 0xDFFF < v) :
    ∃ low high, lead? (UInt8.ofNat (v / 4096 % 16 + 0xE0)) = some (2, v / 4096 % 16, low, high) ∧
      low.toNat ≤ v / 64 % 64 + 0x80 ∧ v / 64 % 64 + 0x80 ≤ high.toNat := by
  rw [lead?_ofNat (by omega), if_neg (by omega), if_neg (by omega)]
  split_ifs with h1 h2 h3
  · exact ⟨0xA0, 0xBF, by rw [show v / 4096 % 16 = 0 by omega], by simp; omega, by simp; omega⟩
  · exact ⟨0x80, 0x9F, by rw [show v / 4096 % 16 = 13 by omega], by simp, by simp; omega⟩
  · exact ⟨0x80, 0xBF, by rw [Nat.add_sub_cancel], by simp, by simp; omega⟩
  all_goals omega

/-- The lead byte of four bytes. Its bounds for the next one leave out shorter forms and what lies beyond the
last character. -/
theorem lead?_of_four {v : Nat} (hleast : 0xFFFF < v) (hmost : v < 0x110000) :
    ∃ low high, lead? (UInt8.ofNat (v / 262144 % 8 + 0xF0)) = some (3, v / 262144 % 8, low, high) ∧
      low.toNat ≤ v / 4096 % 64 + 0x80 ∧ v / 4096 % 64 + 0x80 ≤ high.toNat := by
  rw [lead?_ofNat (by omega), if_neg (by omega), if_neg (by omega), if_neg (by omega), if_neg (by omega),
    if_neg (by omega)]
  split_ifs with h1 h2 h3
  · exact ⟨0x90, 0xBF, by rw [show v / 262144 % 8 = 0 by omega], by simp; omega, by simp; omega⟩
  · exact ⟨0x80, 0xBF, by rw [Nat.add_sub_cancel], by simp, by simp; omega⟩
  · exact ⟨0x80, 0x8F, by rw [show v / 262144 % 8 = 4 by omega], by simp, by simp; omega⟩
  · omega

/-- A piece that begins with a lead byte. -/
theorem piece_of_lead {n count value : Nat} {low high : UInt8} {rest : Bytes} (hn : 0x80 ≤ n)
    (h : n < 256) (hlead : lead? (UInt8.ofNat n) = some (count, value, low, high)) :
    piece (UInt8.ofNat n) rest = trail value low high count rest := by
  have hhigh : ¬UInt8.ofNat n < 0x80 := by
    rw [UInt8.lt_iff_toNat_lt, toNat_ofNat_of_lt h]
    exact Nat.not_lt_of_le hn
  rw [piece, if_neg hhigh, hlead]

/-- A character whose bytes stand at the front of a byte string is the first piece of it. -/
theorem piece_encode (c : Char) (rest : Bytes) :
    ∃ b tail, utf8EncodeChar c = b :: tail ∧ piece b (tail ++ rest) = .char c rest := by
  have hvalid := toNat_cases c
  have hchar : Char.ofNat c.val.toNat = c := Char.ofNat_toNat c
  generalize hv : c.val.toNat = v at hvalid hchar
  unfold utf8EncodeChar
  rw [hv]
  dsimp only
  split_ifs with h1 h2 h3
  · refine ⟨_, [], rfl, ?_⟩
    have hb : (UInt8.ofNat v).toNat = v := toNat_ofNat_of_lt (by omega)
    have hlow : UInt8.ofNat v < 0x80 := by
      rw [UInt8.lt_iff_toNat_lt, hb]
      exact Nat.lt_succ_of_le h1
    rw [piece, if_pos hlow, hb, hchar]
    rfl
  all_goals refine ⟨_, _, rfl, ?_⟩
  · have hlead : lead? (UInt8.ofNat (v / 64 % 32 + 192)) = some (1, v / 64 % 32, 0x80, 0xBF) := by
      rw [lead?_ofNat (by omega), if_neg (by omega), if_pos (by omega), Nat.add_sub_cancel]
    have hvalue : 64 * (v / 64 % 32) + v % 64 = v := by omega
    rw [piece_of_lead (by omega) (by omega) hlead, List.cons_append,
      trail_cons (by omega) (by simp) (by simp; omega), hvalue]
    exact congrArg (Piece.char · rest) hchar
  · obtain ⟨low, high, hlead, hlow, hhigh⟩ :=
      lead?_of_three (Nat.lt_of_not_le h2) h3 (hvalid.imp_right And.left)
    have hvalue : 64 * (64 * (v / 4096 % 16) + v / 64 % 64) + v % 64 = v := by omega
    rw [piece_of_lead (by omega) (by omega) hlead, List.cons_append,
      trail_cons (by omega) hlow hhigh, List.cons_append,
      trail_cons (by omega) (by simp) (by simp; omega), hvalue]
    exact congrArg (Piece.char · rest) hchar
  · have hmost : v < 0x110000 := by omega
    obtain ⟨low, high, hlead, hlow, hhigh⟩ := lead?_of_four (Nat.lt_of_not_le h3) hmost
    have hvalue : 64 * (64 * (64 * (v / 262144 % 8) + v / 4096 % 64) + v / 64 % 64) + v % 64 = v := by omega
    rw [piece_of_lead (by omega) (by omega) hlead, List.cons_append,
      trail_cons (by omega) hlow hhigh, List.cons_append,
      trail_cons (by omega) (by simp) (by simp; omega), List.cons_append,
      trail_cons (by omega) (by simp) (by simp; omega), hvalue]
    exact congrArg (Piece.char · rest) hchar

/-- The bytes of a character, by its scalar value. -/
theorem utf8EncodeChar_ofNat {v : Nat} (h : v < 0xD800 ∨ 0xDFFF < v ∧ v < 0x110000) :
    utf8EncodeChar (Char.ofNat v) =
      if v ≤ 0x7F then [UInt8.ofNat v]
      else if v ≤ 0x7FF then [UInt8.ofNat (v / 64 % 32 + 0xC0), UInt8.ofNat (v % 64 + 0x80)]
      else if v ≤ 0xFFFF then
        [UInt8.ofNat (v / 4096 % 16 + 0xE0), UInt8.ofNat (v / 64 % 64 + 0x80), UInt8.ofNat (v % 64 + 0x80)]
      else
        [UInt8.ofNat (v / 262144 % 8 + 0xF0), UInt8.ofNat (v / 4096 % 64 + 0x80),
          UInt8.ofNat (v / 64 % 64 + 0x80), UInt8.ofNat (v % 64 + 0x80)] := by
  have hv : (Char.ofNat v).val.toNat = v := by
    rw [Char.ofNat, dif_pos h]
    rfl
  unfold utf8EncodeChar
  rw [hv]

/-- What a lead byte announces: one, two or three trailing bytes, with bounds of the first of them that
leave out shorter forms, surrogates and what lies beyond the last character. -/
theorem lead?_cases {b : UInt8} {count value : Nat} {low high : UInt8}
    (h : lead? b = some (count, value, low, high)) :
    (count = 1 ∧ b.toNat = value + 0xC0 ∧ 2 ≤ value ∧ value < 32 ∧ 0x80 ≤ low.toNat ∧ high.toNat ≤ 0xBF) ∨
      (count = 2 ∧ b.toNat = value + 0xE0 ∧ value < 16 ∧ 0x80 ≤ low.toNat ∧ high.toNat ≤ 0xBF ∧
        (value = 0 → 0xA0 ≤ low.toNat) ∧ (value = 13 → high.toNat ≤ 0x9F)) ∨
      (count = 3 ∧ b.toNat = value + 0xF0 ∧ value < 5 ∧ 0x80 ≤ low.toNat ∧ high.toNat ≤ 0xBF ∧
        (value = 0 → 0x90 ≤ low.toNat) ∧ (value = 4 → high.toNat ≤ 0x8F)) := by
  have hb : b.toNat < 256 := b.toNat_lt
  unfold lead? at h
  dsimp only at h
  split_ifs at h with h1 h2 h3 h4 h5 h6 h7 h8
  all_goals
    simp only [Option.some.injEq, Prod.mk.injEq] at h
    obtain ⟨rfl, rfl, rfl, rfl⟩ := h
  · exact .inl ⟨rfl, by omega, by omega, by omega, by decide, by decide⟩
  · exact .inr (.inl ⟨rfl, h3, by decide, by decide, by decide, fun _ => by decide, by decide⟩)
  · exact .inr (.inl ⟨rfl, h4, by decide, by decide, by decide, by decide, fun _ => by decide⟩)
  · exact .inr (.inl ⟨rfl, by omega, by omega, by decide, by decide, by omega, by omega⟩)
  · exact .inr (.inr ⟨rfl, h6, by decide, by decide, by decide, fun _ => by decide, by decide⟩)
  · exact .inr (.inr ⟨rfl, by omega, by omega, by decide, by decide, by omega, by omega⟩)
  · exact .inr (.inr ⟨rfl, h8, by decide, by decide, by decide, by decide, fun _ => by decide⟩)

/-- A byte is known by its value. -/
theorem eq_ofNat {b : UInt8} {n : Nat} (h : b.toNat = n) : UInt8.ofNat n = b := by
  rw [← h, UInt8.ofNat_toNat]

/-- Bytes whose first piece is a character begin with the bytes of that character. -/
theorem eq_encode_of_piece {b : UInt8} {bytes rest : Bytes} {c : Char}
    (h : piece b bytes = .char c rest) : b :: bytes = utf8EncodeChar c ++ rest := by
  have hb : b.toNat < 256 := b.toNat_lt
  unfold piece at h
  -- by the number of bytes the lead asks for; in each case the bytes are bounded closely enough
  -- that arithmetic gives them back from the character
  split_ifs at h with hlow
  · obtain ⟨rfl, rfl⟩ := Piece.char.inj h
    rw [UInt8.lt_iff_toNat_lt] at hlow
    have hlow' : b.toNat < 128 := hlow
    rw [utf8EncodeChar_ofNat (by omega), if_pos (by omega), eq_ofNat rfl]
    rfl
  · rcases hlead : lead? b with _ | ⟨count, value, low, high⟩
    · rw [hlead] at h
      cases h
    rw [hlead] at h
    dsimp only at h
    rcases lead?_cases hlead with ⟨rfl, hvalue, hleast, hmost, hlow, hhigh⟩ |
      ⟨rfl, hvalue, hmost, hlow, hhigh, hshort, hgap⟩ | ⟨rfl, hvalue, hmost, hlow, hhigh, hshort, hlast⟩
    · obtain ⟨b₁, tail, rfl, hlow₁, hhigh₁, h⟩ := exists_of_trail h
      obtain ⟨rfl, rfl⟩ := Piece.char.inj h
      rw [utf8EncodeChar_ofNat (by omega), if_neg (by omega), if_pos (by omega), eq_ofNat (b := b) (by omega),
        eq_ofNat (b := b₁) (by omega)]
      rfl
    · obtain ⟨b₁, tail, rfl, hlow₁, hhigh₁, h⟩ := exists_of_trail h
      obtain ⟨b₂, tail, rfl, hlow₂, hhigh₂, h⟩ := exists_of_trail h
      obtain ⟨rfl, rfl⟩ := Piece.char.inj h
      have hlow₂' : 128 ≤ b₂.toNat := hlow₂
      have hhigh₂' : b₂.toNat ≤ 191 := hhigh₂
      rw [utf8EncodeChar_ofNat (by omega), if_neg (by omega), if_neg (by omega), if_pos (by omega),
        eq_ofNat (b := b) (by omega), eq_ofNat (b := b₁) (by omega), eq_ofNat (b := b₂) (by omega)]
      rfl
    · obtain ⟨b₁, tail, rfl, hlow₁, hhigh₁, h⟩ := exists_of_trail h
      obtain ⟨b₂, tail, rfl, hlow₂, hhigh₂, h⟩ := exists_of_trail h
      obtain ⟨b₃, tail, rfl, hlow₃, hhigh₃, h⟩ := exists_of_trail h
      obtain ⟨rfl, rfl⟩ := Piece.char.inj h
      have hlow₂' : 128 ≤ b₂.toNat := hlow₂
      have hhigh₂' : b₂.toNat ≤ 191 := hhigh₂
      have hlow₃' : 128 ≤ b₃.toNat := hlow₃
      have hhigh₃' : b₃.toNat ≤ 191 := hhigh₃
      rw [utf8EncodeChar_ofNat (by omega), if_neg (by omega), if_neg (by omega), if_neg (by omega),
        eq_ofNat (b := b) (by omega), eq_ofNat (b := b₁) (by omega), eq_ofNat (b := b₂) (by omega),
        eq_ofNat (b := b₃) (by omega)]
      rfl

/-! ## Texts -/

/-- A text is encoded one character after another. -/
theorem encode_eq (s : String) : encode s = s.toList.flatMap utf8EncodeChar := by
  have hs : s.toByteArray = s.toList.utf8Encode := by
    conv_lhs => rw [← String.ofList_toList (s := s), String.toByteArray_ofList]
  unfold encode String.toUTF8
  rw [hs]
  unfold List.utf8Encode
  simp

/-- Decoding goes on behind what was decoded before. -/
theorem decodeOnto_encode (acc chars : List Char) :
    decodeOnto acc (chars.flatMap utf8EncodeChar) = some (acc.reverse ++ chars) := by
  induction chars generalizing acc with
  | nil => simp [decodeOnto]
  | cons c chars ih =>
      obtain ⟨b, tail, hencode, hpiece⟩ := piece_encode c (chars.flatMap utf8EncodeChar)
      rw [List.flatMap_cons, hencode, List.cons_append, decodeOnto]
      split
      · rename_i c' rest hpiece'
        rw [hpiece] at hpiece'
        cases hpiece'
        rw [ih]
        simp
      · rename_i hpiece'
        rw [hpiece] at hpiece'
        cases hpiece'

/-- **The bytes of a text are read as that text.** -/
theorem decode?_encode (s : String) : decode? (encode s) = some s := by
  rw [encode_eq, decode?, decodeOnto_encode]
  simp

/-- Whatever is decoded is the encoding of the characters that it gives. -/
theorem exists_of_decodeOnto {acc chars : List Char} {bytes : Bytes}
    (h : decodeOnto acc bytes = some chars) :
    ∃ tail, chars = acc.reverse ++ tail ∧ bytes = tail.flatMap utf8EncodeChar := by
  fun_induction decodeOnto acc bytes with
  | case1 acc => exact ⟨[], by simpa using h.symm, rfl⟩
  | case2 acc b bytes c rest hpiece _ ih =>
      obtain ⟨tail, rfl, rfl⟩ := ih h
      exact ⟨c :: tail, by simp, eq_encode_of_piece hpiece⟩
  | case3 => cases h

/-- **Bytes that are read as a text are the bytes of it.** -/
theorem encode_of_decode? {bytes : Bytes} {s : String} (h : decode? bytes = some s) :
    encode s = bytes := by
  obtain ⟨chars, hchars, rfl⟩ := Option.map_eq_some_iff.mp h
  obtain ⟨tail, rfl, rfl⟩ := exists_of_decodeOnto hchars
  rw [encode_eq]
  simp

end Fostering.Utf8
