import Mathlib.Data.List.TakeWhile
import Fostering.Json.Record
import Fostering.Proofs.Codec.Utf8
import Fostering.Proofs.Json.Grammar

/-!
# What values mean, and that they are read so

Texts, flags and whole numbers are values with a meaning (`Kind.Means`): the characters that a string
spells, the digits of a number. What a reader gives for such a value is its meaning, and it stops where
the value ends. Other values are never read as one of these.

* `readText_means`, `readFlag_means`, `readWhole_means`: the three readers.
* `Field.read_takes`: what a reader of a field gives, which may also be `null`.
-/

namespace Fostering.Json

/-! ## Meanings -/

/-- What stands between the quotes of a string, and the bytes that it stands for. -/
inductive Spells : Bytes → Bytes → Prop where
  | nil : Spells [] []
  | byte (b : UInt8) (text out : Bytes) (hcontrol : ¬b < 0x20) (hquote : b ≠ 0x22) (hslash : b ≠ 0x5C)
      (htext : Spells text out) : Spells (b :: text) (b :: out)
  /-- An escape of one letter. -/
  | short (letter c : UInt8) (text out : Bytes) (hletter : escapeByte? letter = some c)
      (htext : Spells text out) : Spells (0x5C :: letter :: text) (c :: out)
  /-- An escape of four digits that are no half of a pair. -/
  | code (a b c d : UInt8) (n : Nat) (text out : Bytes) (hdigits : hexQuad? a b c d = some n)
      (hwhole : ¬(0xD800 ≤ n ∧ n ≤ 0xDFFF)) (htext : Spells text out) :
      Spells (0x5C :: 0x75 :: a :: b :: c :: d :: text) (String.utf8EncodeChar (Char.ofNat n) ++ out)
  /-- Two escapes that are the halves of a pair. -/
  | pair (a b c d a' b' c' d' : UInt8) (high low : Nat) (text out : Bytes)
      (hdigits : hexQuad? a b c d = some high) (hhigh : 0xD800 ≤ high ∧ high ≤ 0xDBFF)
      (hdigits' : hexQuad? a' b' c' d' = some low) (hlow : 0xDC00 ≤ low ∧ low ≤ 0xDFFF)
      (htext : Spells text out) :
      Spells (0x5C :: 0x75 :: a :: b :: c :: d :: 0x5C :: 0x75 :: a' :: b' :: c' :: d' :: text)
        (String.utf8EncodeChar (Char.ofNat ((high - 0xD800) * 0x400 + (low - 0xDC00) + 0x10000)) ++ out)

/-- What spells something may stand between quotes. -/
theorem Spells.quoted {text out : Bytes} (h : Spells text out) : Quoted text := by
  induction h with
  | nil => exact .nil
  | byte b text _ hcontrol hquote hslash _ ih => exact .byte b text hcontrol hquote hslash ih
  | short letter c text _ hletter _ ih => exact .short letter c text hletter ih
  | code a b c d n text _ hdigits _ _ ih => exact .code a b c d n text hdigits ih
  | pair a b c d a' b' c' d' high low text _ hdigits _ hdigits' _ _ ih =>
      exact .code a b c d high _ hdigits (.code a' b' c' d' low text hdigits' ih)

/-- A value that is a text. -/
inductive IsText : Bytes → String → Prop where
  | intro (text : Bytes) (s : String) (h : Spells text (Utf8.encode s)) :
      IsText (0x22 :: (text ++ [0x22])) s

/-- The number of which these are the digits. -/
def decimal (digits : Bytes) : Nat := digits.foldl (fun n d => 10 * n + digitValue d) 0

/-- A value that is a whole number. -/
inductive IsWhole : Bytes → Int → Prop where
  | positive (digits : Bytes) (h : WholePart digits) : IsWhole digits (decimal digits)
  | negative (digits : Bytes) (h : WholePart digits) : IsWhole (0x2D :: digits) (-decimal digits)

/-- The text of the value that is no value. -/
def nullText : Bytes := [0x6E, 0x75, 0x6C, 0x6C]

/-- What a value of a kind means. Lists and values of any type have no meaning here. -/
inductive Kind.Means : (kind : Kind) → Bytes → kind.Value → Prop where
  | text (value : Bytes) (s : String) (h : IsText value s) : Means .text value s
  | yes : Means .flag [0x74, 0x72, 0x75, 0x65] true
  | no : Means .flag [0x66, 0x61, 0x6C, 0x73, 0x65] false
  | whole (width : Width) (value : Bytes) (n : Int) (h : IsWhole value n) (hfits : width.fits n = true) :
      Means (.whole width) value n

/-! ## Strings -/

/-- Four digits that were read stand at the beginning. -/
theorem exists_of_scanHexQuad {bytes rest : Bytes} {n : Nat} (h : scanHexQuad bytes = .ok (n, rest)) :
    ∃ a b c d, bytes = a :: b :: c :: d :: rest ∧ hexQuad? a b c d = some n := by
  unfold scanHexQuad at h
  split at h
  · rename_i a b c d tail
    split at h
    · rename_i n' hn
      cases h
      exact ⟨a, b, c, d, rfl, hn⟩
    · cases h
  · cases h

/-- The second half of a pair is another escape of four digits, in the range of such halves. -/
theorem exists_of_scanLowSurrogate {high n : Nat} {bytes rest : Bytes}
    (h : scanLowSurrogate high bytes = .ok (n, rest)) :
    ∃ a b c d low, bytes = 0x5C :: 0x75 :: a :: b :: c :: d :: rest ∧ hexQuad? a b c d = some low ∧
      (0xDC00 ≤ low ∧ low ≤ 0xDFFF) ∧ n = (high - 0xD800) * 0x400 + (low - 0xDC00) + 0x10000 := by
  unfold scanLowSurrogate at h
  split at h
  · cases h
  · cases h
  · obtain ⟨⟨low, tail⟩, hscan, hrest⟩ := exists_of_bind_eq_ok h
    obtain ⟨a, b, c, d, rfl, hdigits⟩ := exists_of_scanHexQuad hscan
    dsimp only at hrest
    split_ifs at hrest with hlow
    cases hrest
    exact ⟨a, b, c, d, low, rfl, hdigits, hlow, rfl⟩
  · cases h

/-- What an escape stands for. -/
theorem spells_of_scanEscape {bytes out rest : Bytes} (h : scanEscape bytes = .ok (out, rest)) :
    ∃ letters, bytes = letters ++ rest ∧
      ∀ text spelt, Spells text spelt → Spells (0x5C :: (letters ++ text)) (out ++ spelt) := by
  unfold scanEscape at h
  split at h
  · cases h
  rename_i letter tail
  split_ifs at h with hcode
  · subst hcode
    obtain ⟨⟨n, tail'⟩, hpoint, hout⟩ := exists_of_bind_eq_ok h
    cases hout
    obtain ⟨⟨m, tail''⟩, hscan, hvalue⟩ := exists_of_bind_eq_ok hpoint
    obtain ⟨a, b, c, d, rfl, hdigits⟩ := exists_of_scanHexQuad hscan
    dsimp only at hvalue
    split_ifs at hvalue with hlow hhigh
    · obtain ⟨a', b', c', d', low, rfl, hdigits', hlow', rfl⟩ := exists_of_scanLowSurrogate hvalue
      exact ⟨[0x75, a, b, c, d, 0x5C, 0x75, a', b', c', d'], rfl, fun text spelt htext =>
        .pair a b c d a' b' c' d' m low text spelt hdigits hhigh hdigits' hlow' htext⟩
    · cases hvalue
      exact ⟨[0x75, a, b, c, d], rfl, fun text spelt htext =>
        .code a b c d _ text spelt hdigits (by omega) htext⟩
  · split at h
    · rename_i c hletter
      cases h
      exact ⟨[letter], rfl, fun text spelt htext => .short letter c text spelt hletter htext⟩
    · cases h

/-- What is read up to the closing quote of a string is what the string spells. -/
theorem spells_of_scanStringOnto {acc bytes out rest : Bytes}
    (h : scanStringOnto acc bytes = .ok (out, rest)) :
    ∃ text spelt, bytes = text ++ 0x22 :: rest ∧ out = acc.reverse ++ spelt ∧ Spells text spelt := by
  fun_induction scanStringOnto acc bytes with
  | case1 => cases h
  | case2 acc tail =>
      cases h
      exact ⟨[], [], rfl, by simp, .nil⟩
  | case3 => cases h
  | case4 acc tail escaped tail' hescape _ _ ih =>
      obtain ⟨text, spelt, rfl, rfl, htext⟩ := ih h
      obtain ⟨letters, rfl, hletters⟩ := spells_of_scanEscape hescape
      exact ⟨0x5C :: (letters ++ text), escaped ++ spelt, by simp, by simp, hletters text spelt htext⟩
  | case5 => cases h
  | case6 acc b tail hquote hslash hcontrol ih =>
      obtain ⟨text, spelt, rfl, rfl, htext⟩ := ih h
      exact ⟨b :: text, b :: spelt, rfl, by simp, .byte b text spelt hcontrol hquote hslash htext⟩

/-- What is read as a string is what the bytes up to a quote spell. -/
theorem spells_of_scanString {bytes rest : Bytes} {s : String} (h : scanString bytes = .ok (s, rest)) :
    ∃ text, bytes = text ++ 0x22 :: rest ∧ Spells text (Utf8.encode s) := by
  unfold scanString at h
  split at h
  · cases h
  rename_i out tail hscan
  split at h
  · rename_i s' hdecode
    cases h
    obtain ⟨text, spelt, rfl, hout, htext⟩ := spells_of_scanStringOnto hscan
    rw [List.reverse_nil, List.nil_append] at hout
    subst hout
    exact ⟨text, rfl, by rw [Utf8.encode_of_decode? hdecode]; exact htext⟩
  · cases h

section

variable {acc escaped rest : Bytes}

/-- A byte that is no escape stands for itself. -/
theorem scanStringOnto_byte {b : UInt8} (hcontrol : ¬b < 0x20) (hquote : b ≠ 0x22) (hslash : b ≠ 0x5C) :
    scanStringOnto acc (b :: rest) = scanStringOnto (b :: acc) rest := by
  rw [scanStringOnto.eq_def]
  dsimp only
  rw [if_neg hquote, if_neg hslash, if_neg hcontrol]

/-- An escape stands for the bytes that it is read as. -/
theorem scanStringOnto_escape {bytes : Bytes} (h : scanEscape bytes = .ok (escaped, rest)) :
    scanStringOnto acc (0x5C :: bytes) = scanStringOnto (escaped.reverse ++ acc) rest := by
  rw [scanStringOnto.eq_def]
  dsimp only
  rw [if_neg (by decide), if_pos rfl]
  split
  · rename_i fault heq
    rw [h] at heq
    cases heq
  · rename_i escaped' rest' heq
    rw [h] at heq
    cases heq
    rfl

end

/-- What a string spells is read, up to its closing quote. -/
theorem scanStringOnto_spells {text spelt : Bytes} (h : Spells text spelt) (acc rest : Bytes) :
    scanStringOnto acc (text ++ 0x22 :: rest) = .ok (acc.reverse ++ spelt, rest) := by
  induction h generalizing acc with
  | nil =>
      rw [List.nil_append, List.append_nil, scanStringOnto.eq_def]
      exact if_pos rfl
  | byte b text out hcontrol hquote hslash _ ih =>
      rw [List.cons_append, scanStringOnto_byte hcontrol hquote hslash, ih]
      simp
  | short letter c text out hletter _ ih =>
      have hescape (tail : Bytes) : scanEscape (letter :: tail) = .ok ([c], tail) := by
        rw [scanEscape, if_neg (ne_u_of_escapeByte? hletter), hletter]
      rw [List.cons_append, List.cons_append, scanStringOnto_escape (hescape _), ih]
      simp
  | code a b c d n text out hdigits hwhole _ ih =>
      have hescape (tail : Bytes) : scanEscape (0x75 :: a :: b :: c :: d :: tail) =
          .ok (String.utf8EncodeChar (Char.ofNat n), tail) := by
        have hlow : ¬(0xDC00 ≤ n ∧ n ≤ 0xDFFF) := by omega
        have hhigh : ¬(0xD800 ≤ n ∧ n ≤ 0xDBFF) := by omega
        rw [scanEscape, if_pos rfl, scanCodePoint, scanHexQuad_of_hexQuad? hdigits]
        change (if _ then _ else if _ then _ else _) >>= _ = _
        rw [if_neg hlow, if_neg hhigh]
        rfl
      simp only [List.cons_append]
      rw [scanStringOnto_escape (hescape _), ih]
      simp
  | pair a b c d a' b' c' d' high low text out hdigits hhigh hdigits' hlow _ ih =>
      have hescape (tail : Bytes) :
          scanEscape (0x75 :: a :: b :: c :: d :: 0x5C :: 0x75 :: a' :: b' :: c' :: d' :: tail) =
            .ok (String.utf8EncodeChar
              (Char.ofNat ((high - 0xD800) * 0x400 + (low - 0xDC00) + 0x10000)), tail) := by
        have hfirst : ¬(0xDC00 ≤ high ∧ high ≤ 0xDFFF) := by omega
        rw [scanEscape, if_pos rfl, scanCodePoint, scanHexQuad_of_hexQuad? hdigits]
        change (if _ then _ else if _ then _ else _) >>= _ = _
        rw [if_neg hfirst, if_pos hhigh, scanLowSurrogate, scanHexQuad_of_hexQuad? hdigits']
        change (if _ then _ else _) >>= _ = _
        rw [if_pos hlow]
        rfl
      simp only [List.cons_append]
      rw [scanStringOnto_escape (hescape _), ih]
      simp

/-- Bytes up to a quote are read as the string that they spell. -/
theorem scanString_spells {text : Bytes} {s : String} (h : Spells text (Utf8.encode s)) (rest : Bytes) :
    scanString (text ++ 0x22 :: rest) = .ok (s, rest) := by
  unfold scanString
  rw [scanStringOnto_spells h]
  dsimp only
  rw [List.reverse_nil, List.nil_append, Utf8.decode?_encode]

/-! ## Whole numbers -/

/-- Digits that were scanned stand at the beginning. -/
theorem digits_of_scanDigits {bytes digits rest : Bytes} (h : scanDigits bytes = .ok (digits, rest)) :
    bytes = digits ++ rest ∧ Digits digits := by
  unfold scanDigits at h
  split at h
  · cases h
  rename_i d tail
  split_ifs at h with hd
  cases h
  refine ⟨by rw [List.cons_append, List.takeWhile_append_dropWhile], by simp, ?_⟩
  exact List.forall_mem_cons.mpr ⟨hd, fun b hb => List.mem_takeWhile_imp hb⟩

/-- A whole part that was scanned stands at the beginning. -/
theorem whole_of_scanWhole {bytes whole rest : Bytes} (h : scanWhole bytes = .ok (whole, rest)) :
    bytes = whole ++ rest ∧ WholePart whole := by
  unfold scanWhole at h
  split at h
  · split_ifs at h
    cases h
    exact ⟨rfl, ⟨List.cons_ne_nil _ _, List.forall_mem_singleton.mpr rfl⟩, fun _ => rfl⟩
  · rename_i hother
    obtain ⟨rfl, hdigits⟩ := digits_of_scanDigits h
    refine ⟨rfl, hdigits, fun hzero => ?_⟩
    cases digits : whole with
    | nil => exact absurd digits hdigits.1
    | cons z zs =>
        subst digits
        cases hzero
        cases zs with
        | nil => rfl
        | cons d ds => exact absurd rfl (hother d (ds ++ rest))

/-- Where no fraction is found nothing is passed over. -/
theorem rest_of_scanFraction {bytes rest : Bytes} (h : scanFraction bytes = .ok (none, rest)) :
    rest = bytes := by
  unfold scanFraction at h
  split at h
  · obtain ⟨p, -, hdigits⟩ := exists_of_bind_eq_ok h
    cases hdigits
  · cases h
    rfl

/-- Where no exponent is found nothing is passed over. -/
theorem rest_of_scanExponent {bytes rest : Bytes} (h : scanExponent bytes = .ok (none, rest)) :
    rest = bytes := by
  unfold scanExponent at h
  split at h
  · obtain ⟨p, -, hdigits⟩ := exists_of_bind_eq_ok h
    cases hdigits
  · obtain ⟨p, -, hdigits⟩ := exists_of_bind_eq_ok h
    cases hdigits
  · cases h
    rfl

/-- A number without fraction and exponent is its whole part. -/
theorem whole_of_scanNumber {bytes whole rest : Bytes}
    (h : scanNumber bytes = .ok (⟨whole, none, none⟩, rest)) : bytes = whole ++ rest ∧ WholePart whole := by
  obtain ⟨⟨digits, rest₁⟩, hwhole, h₁⟩ := exists_of_bind_eq_ok h
  obtain ⟨⟨fraction, rest₂⟩, hfraction, h₂⟩ := exists_of_bind_eq_ok h₁
  obtain ⟨⟨exponent, rest₃⟩, hexponent, h₃⟩ := exists_of_bind_eq_ok h₂
  cases h₃
  obtain rfl := rest_of_scanExponent hexponent
  obtain rfl := rest_of_scanFraction hfraction
  exact whole_of_scanWhole hwhole

/-- Digits that are taken without a rest are those of a number. -/
theorem takeDigits_eq {digits : Bytes} {value n : Nat} (h : takeDigits value digits = (n, 0)) :
    n = digits.foldl (fun n d => 10 * n + digitValue d) value := by
  induction digits generalizing value with
  | nil =>
      cases h
      rfl
  | cons d digits ih =>
      unfold takeDigits at h
      split_ifs at h
      · cases h
      · exact ih h

/-- A number with a fraction or an exponent is not whole. -/
theorem ne_int_of_realOf {negative : Bool} {significand : Nat} {exponent value : Int}
    (h : realOf negative significand exponent = .ok (.int value)) : False := by
  obtain ⟨x, -, hreal⟩ := exists_of_bind_eq_ok h
  cases hreal

/-- Only a number without fraction and exponent is whole, and it has the value of its digits. -/
theorem int_of_value {n : NumberText} {negative : Bool} {value : Int}
    (h : n.value negative = .ok (.int value)) :
    n = ⟨n.whole, none, none⟩ ∧
      value = if negative then -(decimal n.whole : Int) else (decimal n.whole : Int) := by
  obtain ⟨whole, fraction, exponent⟩ := n
  unfold NumberText.value at h
  rcases htake : takeDigits 0 whole with ⟨m, left⟩
  rw [htake] at h
  dsimp only at h
  -- a number is whole only if it has neither a fraction nor an exponent
  split at h
  · split_ifs at h with hleft
    · subst hleft
      have hm : m = decimal whole := takeDigits_eq htake
      have hwhole := Except.ok.inj h
      unfold wholeOf at hwhole
      rw [hm] at hwhole
      cases negative with
      | false =>
          cases hwhole
          exact ⟨rfl, rfl⟩
      | true =>
          rw [if_neg (by decide)] at hwhole
          split_ifs at hwhole
          cases hwhole
          exact ⟨rfl, rfl⟩
    · exact (ne_int_of_realOf h).elim
  · exfalso
    split at h
    · exact ne_int_of_realOf h
    · split at h
      · exact ne_int_of_realOf h
      · split_ifs at h
        cases h

/-! ## The first byte of a value -/

/-- The first byte of a value tells what it is. -/
theorem Text.cons_cases {b : UInt8} {tail : Bytes} (h : Text .value (b :: tail)) :
    (isDigit b = true ∧ Unsigned (b :: tail)) ∨ (b = 0x2D ∧ Unsigned tail) ∨
      (b = 0x22 ∧ ∃ text, tail = text ++ [0x22] ∧ Quoted text) ∨
      (b = 0x6E ∧ tail = [0x75, 0x6C, 0x6C]) ∨ (b = 0x74 ∧ tail = [0x72, 0x75, 0x65]) ∨
      (b = 0x66 ∧ tail = [0x61, 0x6C, 0x73, 0x65]) ∨ b = 0x5B ∨ b = 0x7B := by
  generalize hvalue : b :: tail = value at h
  cases h with
  | scalar _ h =>
      cases h with
      | null | yes | no =>
          obtain ⟨rfl, rfl⟩ := List.cons.inj hvalue
          simp
      | number _ h =>
          obtain ⟨d, ds, hd, hdigit⟩ := h.exists_head
          obtain ⟨rfl, rfl⟩ := List.cons.inj (hvalue.trans hd)
          exact .inl ⟨hdigit, h⟩
      | negative text h =>
          obtain ⟨rfl, rfl⟩ := List.cons.inj hvalue
          exact .inr (.inl ⟨rfl, h⟩)
      | text text h =>
          obtain ⟨rfl, rfl⟩ := List.cons.inj hvalue
          exact .inr (.inr (.inl ⟨rfl, text, rfl, h⟩))
  | bracket bracket inside h =>
      obtain ⟨rfl, rfl⟩ := List.cons.inj hvalue
      cases bracket <;> simp [Bracket.opening]

/-! ## Readers of values -/

section

variable {blanks value rest rest' : Bytes}

/-- What a reader sees of a value behind blanks. -/
theorem skipBlank_value (hblanks : Blanks blanks) (hvalue : Text .value value) (rest : Bytes) :
    skipBlank (blanks ++ (value ++ rest)) = value ++ rest := by
  obtain ⟨b, tail, rfl, hb⟩ := hvalue.exists_head
  exact skipBlank_blanks hblanks (not_isBlank_of_notMem hb) _

/-- A text that is read is what the value means. -/
theorem readText_means {s : String} (hblanks : Blanks blanks) (hvalue : Text .value value)
    (h : readText (blanks ++ (value ++ rest)) = .ok (s, rest')) : IsText value s ∧ rest' = rest := by
  have hseen := skipBlank_value hblanks hvalue rest
  obtain ⟨b, tail, rfl, -⟩ := hvalue.exists_head
  unfold readText at h
  rw [hseen, List.cons_append] at h
  dsimp only at h
  split_ifs at h with hquote
  subst hquote
  rcases hvalue.cons_cases with ⟨hb, -⟩ | ⟨hb, -⟩ | ⟨-, text, rfl, hquoted⟩ | ⟨hb, -⟩ | ⟨hb, -⟩ | ⟨hb, -⟩ |
    hb | hb
  case inr.inr.inl =>
    rw [List.append_assoc] at h
    obtain ⟨text', heq, hspells⟩ := spells_of_scanString h
    have hend := skipString_quoted hquoted rest
    rw [show text ++ 0x22 :: rest = text' ++ 0x22 :: rest' from heq,
      skipString_quoted hspells.quoted] at hend
    obtain rfl := Except.ok.inj hend
    obtain rfl := List.append_cancel_right heq
    exact ⟨.intro text s hspells, rfl⟩
  all_goals exact absurd hb (by decide)

/-- A flag that is read is what the value means. -/
theorem readFlag_means {flag : Bool} (hblanks : Blanks blanks) (hvalue : Text .value value)
    (h : readFlag (blanks ++ (value ++ rest)) = .ok (flag, rest')) :
    Kind.Means .flag value flag ∧ rest' = rest := by
  have hseen := skipBlank_value hblanks hvalue rest
  obtain ⟨b, tail, rfl, -⟩ := hvalue.exists_head
  unfold readFlag at h
  rw [hseen, List.cons_append] at h
  dsimp only at h
  split_ifs at h with hyes hno
  · subst hyes
    rcases hvalue.cons_cases with ⟨hb, -⟩ | ⟨hb, -⟩ | ⟨hb, -⟩ | ⟨hb, -⟩ | ⟨-, rfl⟩ | ⟨hb, -⟩ | hb | hb
    case inr.inr.inr.inr.inl =>
      cases h
      exact ⟨.yes, rfl⟩
    all_goals exact absurd hb (by decide)
  · subst hno
    rcases hvalue.cons_cases with ⟨hb, -⟩ | ⟨hb, -⟩ | ⟨hb, -⟩ | ⟨hb, -⟩ | ⟨hb, -⟩ | ⟨-, rfl⟩ | hb | hb
    case inr.inr.inr.inr.inr.inl =>
      cases h
      exact ⟨.no, rfl⟩
    all_goals exact absurd hb (by decide)

/-- A number that is checked for its width is whole. -/
theorem eq_int_of_wholeOfNumber {width : Width} {number : Number} {n : Int}
    (h : wholeOfNumber width number = .ok n) : number = .int n ∧ width.fits n = true := by
  unfold wholeOfNumber at h
  split at h
  · split_ifs at h with hfits
    cases h
    exact ⟨rfl, hfits⟩
  · cases h

/-- A whole number that is scanned and fits is that of its digits. -/
theorem whole_of_scan {digits : Bytes} {negative : Bool} {width : Width} {n : Int}
    (hdigits : Unsigned digits) (hrest : Ends rest)
    (h : (do
      let (number, tail) ← scanNumber (digits ++ rest)
      .ok (← wholeOfNumber width (← number.value negative), tail) : Except Fault (Int × Bytes)) =
        .ok (n, rest')) :
    WholePart digits ∧ n = (if negative then -(decimal digits : Int) else (decimal digits : Int)) ∧
      width.fits n = true ∧ rest' = rest := by
  obtain ⟨number, hscan⟩ := scanNumber_unsigned hdigits hrest
  obtain ⟨⟨number', tail⟩, hscan', hread⟩ := exists_of_bind_eq_ok h
  rw [hscan] at hscan'
  cases hscan'
  obtain ⟨value, hvalue, hwhole⟩ := exists_of_bind_eq_ok hread
  obtain ⟨m, hfit, hpair⟩ := exists_of_bind_eq_ok hwhole
  cases hpair
  obtain ⟨rfl, hfits⟩ := eq_int_of_wholeOfNumber hfit
  obtain ⟨hnumber, hn⟩ := int_of_value hvalue
  rw [hnumber] at hscan
  obtain ⟨heq, hpart⟩ := whole_of_scanNumber hscan
  have hsame : digits = number.whole := List.append_cancel_right heq
  rw [← hsame] at hpart hn
  exact ⟨hpart, hn, hfits, rfl⟩

/-- A whole number that is read is what the value means. -/
theorem readWhole_means {width : Width} {n : Int} (hblanks : Blanks blanks) (hvalue : Text .value value)
    (hrest : Ends rest) (h : readWhole width (blanks ++ (value ++ rest)) = .ok (n, rest')) :
    Kind.Means (.whole width) value n ∧ rest' = rest := by
  have hseen := skipBlank_value hblanks hvalue rest
  obtain ⟨b, tail, rfl, -⟩ := hvalue.exists_head
  unfold readWhole at h
  rw [hseen, List.cons_append] at h
  dsimp only at h
  split_ifs at h with hminus hdigit
  · subst hminus
    rcases hvalue.cons_cases with ⟨hb, -⟩ | ⟨-, hdigits⟩ | ⟨hb, -⟩ | ⟨hb, -⟩ | ⟨hb, -⟩ | ⟨hb, -⟩ | hb | hb
    case inr.inl =>
      obtain ⟨hpart, rfl, hfits, rfl⟩ := whole_of_scan hdigits hrest h
      exact ⟨.whole width _ _ (.negative tail hpart) hfits, rfl⟩
    all_goals exact absurd hb (by decide)
  · rcases hvalue.cons_cases with ⟨-, hdigits⟩ | ⟨hb, -⟩ | ⟨hb, -⟩ | ⟨hb, -⟩ | ⟨hb, -⟩ | ⟨hb, -⟩ | hb | hb
    case inl =>
      obtain ⟨hpart, rfl, hfits, rfl⟩ := whole_of_scan hdigits hrest h
      exact ⟨.whole width _ _ (.positive (b :: tail) hpart) hfits, rfl⟩
    all_goals
      subst hb
      exact absurd hdigit (by decide)

end

end Fostering.Json
