import Fostering.Json.Fault
import Fostering.Text.Utf8

/-!
# The small pieces of a JSON text

Blanks, words, strings and numbers. Each scanner takes a byte string and gives what it read and the
bytes after it, or the first fault. None gives back more bytes than it got (`length_…_le`), which is
why the readers built on them end.
-/

namespace Fostering.Json

/-- Whether a byte may stand between two tokens. -/
def isBlank (b : UInt8) : Bool := b == 0x20 || b == 0x0A || b == 0x09 || b == 0x0D

/-- The bytes after leading blanks. -/
def skipBlank : Bytes → Bytes
  | [] => []
  | b :: rest => if isBlank b then skipBlank rest else b :: rest

/-- Blanks that are passed over are not given back. -/
theorem length_skipBlank_le (bytes : Bytes) : (skipBlank bytes).length ≤ bytes.length := by
  induction bytes with
  | nil => simp [skipBlank]
  | cons b rest ih =>
    unfold skipBlank
    split
    · exact Nat.le_succ_of_le ih
    · exact Nat.le_refl _

/-- Whether a byte is a decimal digit. -/
def isDigit (b : UInt8) : Bool := 0x30 ≤ b && b ≤ 0x39

/-- The value of a decimal digit. -/
def digitValue (b : UInt8) : Nat := b.toNat - 0x30

/-- Reads the rest of a word such as `null`. -/
def scanWord : Bytes → Bytes → Except Fault Bytes
  | [], rest => .ok rest
  | _ :: _, [] => .error .endInValue
  | w :: word, b :: rest => if w = b then scanWord word rest else .error .expectedWord

/-- A word that is passed over is not given back. -/
theorem length_scanWord_le {word bytes rest : Bytes} (h : scanWord word bytes = .ok rest) :
    rest.length ≤ bytes.length := by
  induction word generalizing bytes with
  | nil => simp only [scanWord, Except.ok.injEq] at h; simp [h]
  | cons w word ih =>
    cases bytes with
    | nil => simp [scanWord] at h
    | cons b bytes =>
      unfold scanWord at h
      split at h
      · exact Nat.le_succ_of_le (ih h)
      · cases h

/-! ## Strings -/

/-- The value of a hexadecimal digit. -/
def hexValue? (b : UInt8) : Option Nat :=
  let n := b.toNat
  if 48 ≤ n ∧ n ≤ 57 then some (n - 48)
  else if 65 ≤ n ∧ n ≤ 70 then some (n - 55)
  else if 97 ≤ n ∧ n ≤ 102 then some (n - 87)
  else none

/-- The value of four hexadecimal digits. -/
def hexQuad? (a b c d : UInt8) : Option Nat := do
  let a ← hexValue? a
  let b ← hexValue? b
  let c ← hexValue? c
  let d ← hexValue? d
  return ((a * 16 + b) * 16 + c) * 16 + d

/-- Reads four hexadecimal digits. -/
def scanHexQuad : Bytes → Except Fault (Nat × Bytes)
  | a :: b :: c :: d :: rest =>
    match hexQuad? a b c d with
    | some n => .ok (n, rest)
    | none => .error .badEscape
  | _ => .error .endInString

/-- Four digits take up some bytes. -/
theorem length_scanHexQuad_lt {bytes rest : Bytes} {n : Nat}
    (h : scanHexQuad bytes = .ok (n, rest)) : rest.length < bytes.length := by
  unfold scanHexQuad at h
  split at h
  · split at h
    · simp only [Except.ok.injEq, Prod.mk.injEq] at h
      rw [← h.2]; simp only [List.length_cons]; omega
    · cases h
  · cases h

/-- Reads the second half of a pair of surrogates. -/
def scanLowSurrogate (high : Nat) : Bytes → Except Fault (Nat × Bytes)
  | [] => .error .endInString
  | 0x5C :: [] => .error .endInString
  | 0x5C :: 0x75 :: rest => do
    let (low, rest) ← scanHexQuad rest
    if 0xDC00 ≤ low ∧ low ≤ 0xDFFF then
      .ok ((high - 0xD800) * 0x400 + (low - 0xDC00) + 0x10000, rest)
    else .error .loneSurrogate
  | _ => .error .endOfHexEscape

/-- Reads the four digits of an escape, and those of a second one if the first is half of a pair. -/
def scanCodePoint (bytes : Bytes) : Except Fault (Nat × Bytes) := do
  let (n, rest) ← scanHexQuad bytes
  if 0xDC00 ≤ n ∧ n ≤ 0xDFFF then .error .loneSurrogate
  else if 0xD800 ≤ n ∧ n ≤ 0xDBFF then scanLowSurrogate n rest
  else .ok (n, rest)

/-- The character that a one-letter escape stands for. -/
def escapeByte? (b : UInt8) : Option UInt8 :=
  if b = 0x22 ∨ b = 0x5C ∨ b = 0x2F then some b
  else if b = 0x62 then some 0x08
  else if b = 0x66 then some 0x0C
  else if b = 0x6E then some 0x0A
  else if b = 0x72 then some 0x0D
  else if b = 0x74 then some 0x09
  else none

/-- Reads what follows the backslash of an escape: the bytes it stands for. -/
def scanEscape : Bytes → Except Fault (Bytes × Bytes)
  | [] => .error .endInString
  | b :: rest =>
    if b = 0x75 then do
      let (n, rest) ← scanCodePoint rest
      .ok (String.utf8EncodeChar (Char.ofNat n), rest)
    else
      match escapeByte? b with
      | some c => .ok ([c], rest)
      | none => .error .badEscape

theorem length_scanLowSurrogate_lt {high n : Nat} {bytes rest : Bytes}
    (h : scanLowSurrogate high bytes = .ok (n, rest)) : rest.length < bytes.length := by
  unfold scanLowSurrogate at h
  split at h
  · cases h
  · cases h
  · rename_i tail
    cases hl : scanHexQuad tail with
    | error e => simp [hl, bind, Except.bind] at h
    | ok p =>
      have := length_scanHexQuad_lt hl
      simp only [hl, bind, Except.bind] at h
      split at h
      · simp only [Except.ok.injEq, Prod.mk.injEq] at h
        rw [← h.2]; simp only [List.length_cons]; omega
      · cases h
  · cases h

theorem length_scanCodePoint_lt {bytes rest : Bytes} {n : Nat}
    (h : scanCodePoint bytes = .ok (n, rest)) : rest.length < bytes.length := by
  unfold scanCodePoint at h
  cases hq : scanHexQuad bytes with
  | error e => simp [hq, bind, Except.bind] at h
  | ok p =>
    have hr := length_scanHexQuad_lt hq
    simp only [hq, bind, Except.bind] at h
    split at h
    · cases h
    · split at h
      · exact Nat.lt_trans (length_scanLowSurrogate_lt h) hr
      · simp only [Except.ok.injEq, Prod.mk.injEq] at h
        rw [← h.2]; exact hr

/-- What stands behind a backslash takes up some bytes. -/
theorem length_scanEscape_lt {bytes out rest : Bytes} (h : scanEscape bytes = .ok (out, rest)) :
    rest.length < bytes.length := by
  unfold scanEscape at h
  split at h
  · cases h
  · split at h
    · rename_i b tail _
      cases hc : scanCodePoint tail with
      | error e => simp [hc, bind, Except.bind] at h
      | ok p =>
        have := length_scanCodePoint_lt hc
        simp only [hc, bind, Except.bind, Except.ok.injEq, Prod.mk.injEq] at h
        rw [← h.2]; simp only [List.length_cons]; omega
    · split at h
      · simp only [Except.ok.injEq, Prod.mk.injEq] at h
        rw [← h.2]; simp
      · cases h

/-- Reads a string up to its closing quote onto a reversed accumulator. -/
def scanStringOnto (acc : Bytes) : Bytes → Except Fault (Bytes × Bytes)
  | [] => .error .endInString
  | b :: rest =>
    if b = 0x22 then .ok (acc.reverse, rest)
    else if b = 0x5C then
      match h : scanEscape rest with
      | .error e => .error e
      | .ok (out, rest') =>
        have : rest'.length < (b :: rest).length :=
          Nat.lt_succ_of_lt (length_scanEscape_lt h)
        scanStringOnto (out.reverse ++ acc) rest'
    else if b < 0x20 then .error .controlCharacter
    else scanStringOnto (b :: acc) rest
termination_by bytes => bytes.length
decreasing_by
  · exact this
  · exact Nat.lt_succ_self _

theorem length_scanStringOnto_lt {acc bytes out rest : Bytes}
    (h : scanStringOnto acc bytes = .ok (out, rest)) : rest.length < bytes.length := by
  fun_induction scanStringOnto acc bytes with
  | case1 => cases h
  | case2 acc tail =>
    simp only [Except.ok.injEq, Prod.mk.injEq] at h
    rw [← h.2]; simp
  | case3 => cases h
  | case4 acc tail _ _ _ _ hlt ih => exact Nat.lt_trans (ih h) hlt
  | case5 => cases h
  | case6 acc b tail _ _ _ ih => exact Nat.lt_trans (ih h) (by simp)

/-- Reads a string after its opening quote: its text and the bytes after its closing quote. -/
def scanString (bytes : Bytes) : Except Fault (String × Bytes) :=
  match scanStringOnto [] bytes with
  | .error e => .error e
  | .ok (out, rest) =>
    match Utf8.decode? out with
    | some s => .ok (s, rest)
    | none => .error .badCodePoint

/-- A string takes up its closing quote at least. -/
theorem length_scanString_lt {bytes rest : Bytes} {s : String}
    (h : scanString bytes = .ok (s, rest)) : rest.length < bytes.length := by
  unfold scanString at h
  split at h
  · cases h
  · rename_i hs
    have := length_scanStringOnto_lt hs
    split at h
    · simp only [Except.ok.injEq, Prod.mk.injEq] at h
      rw [← h.2]; exact this
    · cases h

/-! ## Numbers -/

/-- What a step gave before the steps after it succeeded. -/
theorem exists_of_bind_eq_ok {α β : Type} {x : Except Fault α} {f : α → Except Fault β} {b : β}
    (h : (x >>= f) = .ok b) : ∃ a, x = .ok a ∧ f a = .ok b := by
  cases x with
  | error e => cases h
  | ok a => exact ⟨a, rfl, h⟩

/-- The text of a number without its sign: the digits of its three parts, and whether the exponent
goes down. -/
structure NumberText where
  whole : Bytes
  fraction : Option Bytes
  exponent : Option (Bool × Bytes)

/-- Reads one digit or more. -/
def scanDigits : Bytes → Except Fault (Bytes × Bytes)
  | [] => .error .endInValue
  | d :: rest =>
    if isDigit d then .ok (d :: rest.takeWhile isDigit, rest.dropWhile isDigit)
    else .error .badNumber

/-- Reads the whole part of a number; only zero itself begins with a zero. -/
def scanWhole : Bytes → Except Fault (Bytes × Bytes)
  | 0x30 :: d :: rest => if isDigit d then .error .badNumber else .ok ([0x30], d :: rest)
  | bytes => scanDigits bytes

/-- Reads the fraction of a number, if it has one. -/
def scanFraction : Bytes → Except Fault (Option Bytes × Bytes)
  | 0x2E :: rest => do
    let (digits, rest) ← scanDigits rest
    .ok (some digits, rest)
  | bytes => .ok (none, bytes)

/-- Reads the sign of an exponent: whether it goes down. -/
def scanSign : Bytes → Bool × Bytes
  | 0x2B :: rest => (false, rest)
  | 0x2D :: rest => (true, rest)
  | bytes => (false, bytes)

/-- Reads the exponent of a number, if it has one. -/
def scanExponent : Bytes → Except Fault (Option (Bool × Bytes) × Bytes)
  | 0x65 :: rest | 0x45 :: rest => do
    let (digits, tail) ← scanDigits (scanSign rest).2
    .ok (some ((scanSign rest).1, digits), tail)
  | bytes => .ok (none, bytes)

/-- Reads the text of a number from its first digit on. -/
def scanNumber (bytes : Bytes) : Except Fault (NumberText × Bytes) := do
  let (whole, rest) ← scanWhole bytes
  let (fraction, rest) ← scanFraction rest
  let (exponent, rest) ← scanExponent rest
  .ok (⟨whole, fraction, exponent⟩, rest)

/-- Digits are one at least. -/
theorem length_scanDigits_lt {bytes digits rest : Bytes}
    (h : scanDigits bytes = .ok (digits, rest)) : rest.length < bytes.length := by
  unfold scanDigits at h
  split at h
  · cases h
  · split at h
    · simp only [Except.ok.injEq, Prod.mk.injEq] at h
      rw [← h.2]
      exact Nat.lt_succ_of_le (List.dropWhile_sublist _).length_le
    · cases h

theorem length_scanWhole_lt {bytes digits rest : Bytes}
    (h : scanWhole bytes = .ok (digits, rest)) : rest.length < bytes.length := by
  unfold scanWhole at h
  split at h
  · split at h
    · cases h
    · simp only [Except.ok.injEq, Prod.mk.injEq] at h
      rw [← h.2]; simp
  · exact length_scanDigits_lt h

/-- A number may have no fraction. -/
theorem length_scanFraction_le {bytes rest : Bytes} {digits : Option Bytes}
    (h : scanFraction bytes = .ok (digits, rest)) : rest.length ≤ bytes.length := by
  unfold scanFraction at h
  split at h
  · obtain ⟨p, hp, h⟩ := exists_of_bind_eq_ok h
    simp only [Except.ok.injEq, Prod.mk.injEq] at h
    rw [← h.2]
    exact Nat.le_succ_of_le (Nat.le_of_lt (length_scanDigits_lt hp))
  · simp only [Except.ok.injEq, Prod.mk.injEq] at h
    exact Nat.le_of_eq (congrArg List.length h.2.symm)

theorem length_scanSign_le (bytes : Bytes) : (scanSign bytes).2.length ≤ bytes.length := by
  unfold scanSign
  split <;> simp

/-- A number may have no exponent. -/
theorem length_scanExponent_le {bytes rest : Bytes} {e : Option (Bool × Bytes)}
    (h : scanExponent bytes = .ok (e, rest)) : rest.length ≤ bytes.length := by
  unfold scanExponent at h
  split at h
  · obtain ⟨p, hp, h⟩ := exists_of_bind_eq_ok h
    simp only [Except.ok.injEq, Prod.mk.injEq] at h
    rw [← h.2]
    exact Nat.le_succ_of_le
      (Nat.le_trans (Nat.le_of_lt (length_scanDigits_lt hp)) (length_scanSign_le _))
  · obtain ⟨p, hp, h⟩ := exists_of_bind_eq_ok h
    simp only [Except.ok.injEq, Prod.mk.injEq] at h
    rw [← h.2]
    exact Nat.le_succ_of_le
      (Nat.le_trans (Nat.le_of_lt (length_scanDigits_lt hp)) (length_scanSign_le _))
  · simp only [Except.ok.injEq, Prod.mk.injEq] at h
    exact Nat.le_of_eq (congrArg List.length h.2.symm)

/-- A number takes up some bytes. -/
theorem length_scanNumber_lt {bytes rest : Bytes} {n : NumberText}
    (h : scanNumber bytes = .ok (n, rest)) : rest.length < bytes.length := by
  obtain ⟨⟨_, r1⟩, h1, h⟩ := exists_of_bind_eq_ok h
  obtain ⟨⟨_, r2⟩, h2, h⟩ := exists_of_bind_eq_ok h
  obtain ⟨⟨_, r3⟩, h3, h⟩ := exists_of_bind_eq_ok h
  simp only [Except.ok.injEq, Prod.mk.injEq] at h
  rw [← h.2]
  exact Nat.lt_of_le_of_lt (length_scanExponent_le h3)
    (Nat.lt_of_le_of_lt (length_scanFraction_le h2) (length_scanWhole_lt h1))

end Fostering.Json
